/-
# What the compact form spells

The compact form of a document is one way to write its tokens: with no blanks, every text with its
escapes, every number in decimal digits (`compact_layout`).  So what the machine finds in it are
the tokens of the document and nothing else (`tokens_compact`), for any text and any number, and
at any depth.

A character below U+0020 without an escape of its own is given by its code unit, whose last two
digits are the only ones that are not zero (`Piece.exists_control`).  A number is a zero alone, or
does not begin with one (`wholePart_toDigits`).
-/
import ChangeAudit.Json.Basic
import ChangeAudit.Proofs.Json.Document
import ChangeAudit.Proofs.Json.Spelling

namespace ChangeAudit.Json

/-! ## 1. Texts -/

theorem hexValue?_digitChar : ∀ k < 16, hexValue? (Nat.digitChar k) = some k := by decide

namespace Piece

/-- A character below U+0020 is given by its code unit. -/
theorem exists_control {c : Char} (hc : c.toNat < 32) :
    ∃ p : Piece, p.StandsFor c ∧ p.chars =
      ['\\', 'u', '0', '0', Nat.digitChar (c.toNat / 16), Nat.digitChar (c.toNat % 16)] := by
  let u : CodeUnit :=
    ⟨⟨'0', 0, rfl⟩, ⟨'0', 0, rfl⟩,
      ⟨_, c.toNat / 16, hexValue?_digitChar _ (by omega)⟩,
      ⟨_, c.toNat % 16, hexValue?_digitChar _ (by omega)⟩⟩
  have hvalue : u.value = c.toNat := by
    simp only [u, CodeUnit.value]
    omega
  have hfirst : ¬u.isFirst = true := by
    rw [CodeUnit.isFirst, PartialText.isUnitIn, hvalue, Bool.and_eq_true, decide_eq_true_eq]
    omega
  have hsecond : ¬u.isSecond = true := by
    rw [CodeUnit.isSecond, PartialText.isUnitIn, hvalue, Bool.and_eq_true, decide_eq_true_eq]
    omega
  refine ⟨.unit u, fun rest => ?_, rfl⟩
  rw [decode_of_not_first hfirst, if_neg hsecond, hvalue, Char.ofNat_toNat]

/-- A character is spelled as it is escaped. -/
theorem exists_escaped (c : Char) : ∃ p : Piece, p.StandsFor c ∧ p.chars = escapedChar c := by
  have hletter : ∀ letter, unescaped? letter = some c →
      ∃ p : Piece, p.StandsFor c ∧ p.chars = ['\\', letter] :=
    fun letter h => ⟨.escaped letter c h, fun _ => rfl, rfl⟩
  rw [escapedChar]
  split
  · rename_i h
    exact hletter '"' (by rw [h]; rfl)
  split
  · rename_i h
    exact hletter '\\' (by rw [h]; rfl)
  split
  · rename_i h
    exact hletter 'b' (by rw [h]; rfl)
  split
  · rename_i h
    exact hletter 't' (by rw [h]; rfl)
  split
  · rename_i h
    exact hletter 'n' (by rw [h]; rfl)
  split
  · rename_i h
    exact hletter 'f' (by rw [h]; rfl)
  split
  · rename_i h
    exact hletter 'r' (by rw [h]; rfl)
  split
  · rename_i h
    exact exists_control h
  · rename_i hquote hslash _ _ _ _ _ hcontrol
    have hplain : isPlain c = true := by
      simp [isPlain, hquote, hslash, Nat.not_lt.mp hcontrol]
    exact ⟨.plain c hplain, fun _ => rfl, rfl⟩

end Piece

/-- A text between quotes spells that text. -/
theorem Spells.quoted (s : String) : Spells (.string (some s)) (quoted s) := by
  have heach := Spells.each (s := s.toList) fun c _ => Piece.exists_escaped c
  rwa [String.ofList_toList] at heach

/-! ## 2. Numbers -/

/-- The numeral that a whole number is written as. -/
def Numeral.ofInt (n : Int) : Numeral where
  negative := decide (n < 0)
  whole := Nat.toDigits 10 n.natAbs

/-- Only zero begins with a zero. -/
theorem head?_toDigits_ne_zero {n : Nat} (hn : 0 < n) : (Nat.toDigits 10 n).head? ≠ some '0' := by
  induction n using Nat.strongRecOn with
  | ind n ih =>
    rw [Nat.toDigits_eq_if (by decide)]
    split
    · rename_i hlt
      have hdigit : ∀ k < 10, 0 < k → [Nat.digitChar k].head? ≠ some '0' := by decide
      exact hdigit n hlt hn
    · rename_i hge
      have hearlier := ih (n / 10) (by omega) (by omega)
      cases h : Nat.toDigits 10 (n / 10) with
      | nil => exact absurd h Nat.toDigits_ne_nil
      | cons c cs =>
        rw [h] at hearlier
        exact hearlier

theorem wholePart_toDigits (n : Nat) : WholePart (Nat.toDigits 10 n) := by
  rcases Nat.eq_zero_or_pos n with rfl | hn
  · exact .zero
  · have hdigits : Digits (Nat.toDigits 10 n) := fun c hc =>
      Nat.isDigit_of_mem_toDigits (by decide) (by decide) hc
    have hhead := head?_toDigits_ne_zero hn
    cases h : Nat.toDigits 10 n with
    | nil => exact absurd h Nat.toDigits_ne_nil
    | cons c cs =>
      rw [h] at hdigits hhead
      exact .digits (fun hc => hhead (by rw [hc, List.head?_cons])) hdigits

/-- Decimal digits spell the number. -/
theorem SpellsNumeral.decimal (n : Int) : SpellsNumeral (.ofInt n) (decimal n) where
  whole := wholePart_toDigits n.natAbs
  fraction := fun c hc => by cases hc
  parts := by
    refine ⟨[], .absent, ?_⟩
    cases n <;> simp [Json.decimal, Numeral.ofInt, pointed]

/-! ## 3. Documents -/

mutual

/-- The document as a reader finds it. -/
def document : Json → Document
  | .null => .null
  | .bool b => .bool b
  | .int n => .number (.ofInt n)
  | .string s => .text (some s)
  | .array items => .array (documents items)
  | .object members => .object (namedDocuments members)

def documents : List Json → List Document
  | [] => []
  | d :: items => d.document :: documents items

def namedDocuments : List (String × Json) → List (Option String × Document)
  | [] => []
  | (key, d) :: members => (some key, d.document) :: namedDocuments members

end

theorem documents_eq_map (items : List Json) : documents items = items.map document := by
  induction items with
  | nil => rfl
  | cons d items ih => rw [documents, ih, List.map_cons]

/-! ## 4. The compact form -/

/-- How the elements after the first are written, and the end of the array. -/
def moreItemChars : List Json → List Char
  | [] => [']']
  | d :: items => ',' :: (d.compactChars ++ moreItemChars items)

/-- How the members after the first are written, and the end of the object. -/
def moreMemberChars : List (String × Json) → List Char
  | [] => ['\x7d']
  | (key, d) :: members => ',' :: (quoted key ++ ':' :: (d.compactChars ++ moreMemberChars members))

theorem compactItems_cons (d : Json) (items : List Json) :
    compactItems (d :: items) ++ [']'] = d.compactChars ++ moreItemChars items := by
  induction items generalizing d with
  | nil => rfl
  | cons d' items ih =>
    rw [compactItems, List.append_assoc, List.cons_append, ih, moreItemChars]
    exact List.cons_ne_nil d' items

theorem compactMembers_cons (key : String) (d : Json) (members : List (String × Json)) :
    compactMembers ((key, d) :: members) ++ ['\x7d'] =
      quoted key ++ ':' :: (d.compactChars ++ moreMemberChars members) := by
  induction members generalizing key d with
  | nil => simp [compactMembers, moreMemberChars]
  | cons m members ih =>
    obtain ⟨key', d'⟩ := m
    simp [compactMembers, moreMemberChars, ih]

/-- A comma or the end of a bracket ends a numeral. -/
theorem endsNumeral_cons {c : Char} (hc : c = ',' ∨ c = ']' ∨ c = '\x7d') (text : List Char) :
    EndsNumeral (c :: text) := by
  intro d hd
  cases hd
  rcases hc with rfl | rfl | rfl <;> decide

theorem endsNumeral_moreItemChars (items : List Json) (rest : List Char) :
    EndsNumeral (moreItemChars items ++ rest) := by
  cases items with
  | nil => exact endsNumeral_cons (.inr (.inl rfl)) rest
  | cons d items => exact endsNumeral_cons (.inl rfl) _

theorem endsNumeral_moreMemberChars (members : List (String × Json)) (rest : List Char) :
    EndsNumeral (moreMemberChars members ++ rest) := by
  cases members with
  | nil => exact endsNumeral_cons (.inr (.inr rfl)) rest
  | cons m members => exact endsNumeral_cons (.inl rfl) _

mutual

/-- **The compact form spells its document**, at any depth. -/
theorem compact_layout (d : Json) (rest : List Char) (hrest : EndsNumeral rest) :
    Layout rest d.document.tokens (d.compactChars ++ rest) := by
  match d with
  | .null => exact .fixed rfl .done
  | .bool b => cases b <;> exact .fixed rfl .done
  | .int n => exact .token (.number (.decimal n)) (fun _ _ => hrest) .done
  | .string s => exact .token (.quoted s) (fun _ h => by cases h) .done
  | .array [] => exact .mark (t := .openArray) rfl (.mark (t := .closeArray) rfl .done)
  | .array (d :: items) =>
    have hfirst := compact_layout d _ (endsNumeral_moreItemChars items rest)
    have hmore := items_layout items rest
    rw [compactChars, List.cons_append, compactItems_cons, List.cons_append, List.append_assoc]
    exact .mark (t := .openArray) rfl (hfirst.append hmore)
  | .object [] => exact .mark (t := .openObject) rfl (.mark (t := .closeObject) rfl .done)
  | .object ((key, d) :: members) =>
    have hfirst := compact_layout d _ (endsNumeral_moreMemberChars members rest)
    have hmore := members_layout members rest
    rw [compactChars, List.cons_append, compactMembers_cons, List.cons_append, List.append_assoc,
      List.cons_append, List.append_assoc]
    exact .mark (t := .openObject) rfl <| .token (.quoted key) (fun _ h => by cases h) <|
      .mark (t := .colon) rfl (hfirst.append hmore)

theorem items_layout (items : List Json) (rest : List Char) :
    Layout rest (Document.moreItems (documents items)) (moreItemChars items ++ rest) := by
  match items with
  | [] => exact .mark (t := .closeArray) rfl .done
  | d :: items =>
    have hfirst := compact_layout d _ (endsNumeral_moreItemChars items rest)
    have hmore := items_layout items rest
    rw [moreItemChars, List.cons_append, List.append_assoc]
    exact .mark (t := .comma) rfl (hfirst.append hmore)

theorem members_layout (members : List (String × Json)) (rest : List Char) :
    Layout rest (Document.moreMembers (namedDocuments members))
      (moreMemberChars members ++ rest) := by
  match members with
  | [] => exact .mark (t := .closeObject) rfl .done
  | (key, d) :: members =>
    have hfirst := compact_layout d _ (endsNumeral_moreMemberChars members rest)
    have hmore := members_layout members rest
    rw [moreMemberChars, List.cons_append, List.append_assoc, List.cons_append, List.append_assoc]
    exact .mark (t := .comma) rfl <| .token (.quoted key) (fun _ h => by cases h) <|
      .mark (t := .colon) rfl (hfirst.append hmore)

end

/-- The machine finds in the compact form the tokens of the document. -/
theorem tokens_compact (d : Json) : tokens d.compact.toList = d.document.tokens := by
  have hlayout := compact_layout d [] fun c hc => by cases hc
  rw [List.append_nil] at hlayout
  rw [compact, String.toList_ofList, tokens_of_layout hlayout]
  exact List.append_nil _

end ChangeAudit.Json
