/-
# How tokens are written

A token can be written in several ways.  A character of a text may stand for itself, be escaped by a
letter, or be given by its code unit, or by the two code units of a pair; a numeral may have a mark
of either case and a plus sign in its exponent (`Spells`).  Between tokens there may be any blanks,
and must be none, except that a numeral has to end before what follows it (`Layout`).

However tokens are written, they are what the machine finds, and what comes after them is then
looked at from the start (`tokens_of_layout`).
-/
import ChangeAudit.Json.Lexer

namespace ChangeAudit.Json

/-! ## 1. Texts -/

/-- A hexadecimal digit and its value. -/
structure HexDigit where
  char : Char
  value : Nat
  valid : hexValue? char = some value

/-- A hexadecimal digit is one byte. -/
theorem HexDigit.utf8Size (d : HexDigit) : d.char.utf8Size = 1 := by
  have hle : d.char ≤ 'f' := by
    have hvalid := d.valid
    simp only [hexValue?] at hvalid
    split at hvalid
    · exact Char.le_trans (by rename_i h; exact h.2) (by decide)
    · split at hvalid
      · rename_i h
        exact h.2
      · split at hvalid
        · exact Char.le_trans (by rename_i h; exact h.2) (by decide)
        · cases hvalid
  have hval : d.char.val ≤ 0x7f := UInt32.le_trans hle (by decide)
  simp [Char.utf8Size, hval]

/-- A code unit: four hexadecimal digits. -/
structure CodeUnit where
  a : HexDigit
  b : HexDigit
  c : HexDigit
  d : HexDigit

namespace CodeUnit

def value (u : CodeUnit) : Nat :=
  ((u.a.value * 16 + u.b.value) * 16 + u.c.value) * 16 + u.d.value

/-- The unit is the first half of a pair. -/
def isFirst (u : CodeUnit) : Bool := PartialText.isUnitIn 0xd800 0xdbff u.value

/-- The unit is the second half of a pair. -/
def isSecond (u : CodeUnit) : Bool := PartialText.isUnitIn 0xdc00 0xdfff u.value

/-- The character that a pair stands for. -/
def paired (u v : CodeUnit) : Char :=
  Char.ofNat ((u.value - 0xd800) * 0x400 + (v.value - 0xdc00) + 0x10000)

end CodeUnit

/-- A character that can stand for itself. -/
def isPlain (c : Char) : Bool := c ≠ '"' && c ≠ '\\' && 32 ≤ c.toNat

/-- A piece of a text as it is written. -/
inductive Piece where
  /-- A character that stands for itself. -/
  | plain (c : Char) (h : isPlain c = true)
  /-- A letter after a backslash, and the character that it stands for. -/
  | escaped (letter c : Char) (h : unescaped? letter = some c)
  | unit (u : CodeUnit)

namespace Piece

def chars : Piece → List Char
  | .plain c _ => [c]
  | .escaped letter _ _ => ['\\', letter]
  | .unit u => ['\\', 'u', u.a.char, u.b.char, u.c.char, u.d.char]

/-- The text that pieces make; `none` if half of a pair stands alone. -/
def decode : List Piece → Option (List Char)
  | [] => some []
  | .plain c _ :: rest => (decode rest).map (c :: ·)
  | .escaped _ c _ :: rest => (decode rest).map (c :: ·)
  | .unit u :: rest =>
    if u.isFirst then
      match rest with
      | .unit v :: rest => if v.isSecond then (decode rest).map (u.paired v :: ·) else none
      | _ => none
    else if u.isSecond then none
    else (decode rest).map (Char.ofNat u.value :: ·)

theorem decode_of_not_first {u : CodeUnit} (hu : ¬ u.isFirst = true) (rest : List Piece) :
    decode (.unit u :: rest) =
      if u.isSecond then none else (decode rest).map (Char.ofNat u.value :: ·) := by
  rw [decode.eq_def]
  simp [hu]

end Piece

namespace Piece

/-- The piece stands for this one character, whatever comes after it. -/
def StandsFor (p : Piece) (c : Char) : Prop :=
  ∀ rest, decode (p :: rest) = (decode rest).map (c :: ·)

/-- Characters that are each spelled by a piece are spelled by pieces. -/
theorem exists_pieces {spell : Char → List Char} {s : List Char}
    (h : ∀ c ∈ s, ∃ p : Piece, p.StandsFor c ∧ p.chars = spell c) :
    ∃ pieces, decode pieces = some s ∧ pieces.flatMap Piece.chars = s.flatMap spell := by
  induction s with
  | nil => exact ⟨[], rfl, rfl⟩
  | cons c s ih =>
    obtain ⟨p, hstands, hchars⟩ := h c List.mem_cons_self
    obtain ⟨pieces, hdecode, hrest⟩ := ih fun d hd => h d (List.mem_cons_of_mem c hd)
    refine ⟨p :: pieces, by rw [hstands, hdecode, Option.map_some], ?_⟩
    rw [List.flatMap_cons, List.flatMap_cons, hchars, hrest]

end Piece

namespace PartialText

/-- A text in the making with one more piece. -/
def absorb (t : PartialText) : Piece → PartialText
  | .plain c _ => t.settle.push c
  | .escaped _ c _ => t.settle.push c
  | .unit u => t.pushUnit u.value

/-- How far an escape has come does not matter to the text. -/
@[simp] theorem push_settle_part (t : PartialText) (part : TextPart) (c : Char) :
    { t with part }.settle.push c = t.settle.push c := by
  cases hhalf : t.half <;> simp [settle, push, hhalf]

@[simp] theorem pushUnit_part (t : PartialText) (part : TextPart) (value : Nat) :
    { t with part }.pushUnit value = t.pushUnit value := by
  cases hhalf : t.half <;> simp [pushUnit, push, hhalf]

theorem part_absorb (t : PartialText) (p : Piece) : (t.absorb p).part = .plain := by
  cases p with
  | plain c h => rfl
  | escaped letter c h => rfl
  | unit u =>
    simp only [absorb, pushUnit]
    split
    · split <;> rfl
    · split
      · rfl
      · split <;> rfl

theorem settle_of_none {t : PartialText} (h : t.half = none) : t.settle = t := by
  simp [settle, h]

theorem settle_of_some {t : PartialText} {first : Nat} (h : t.half = some first) :
    t.settle = { t with chars := none, half := none } := by
  simp [settle, h]

theorem pushUnit_of_first {t : PartialText} {u : CodeUnit} (hhalf : t.half = none)
    (hu : u.isFirst = true) :
    t.pushUnit u.value = { t with half := some u.value, part := .plain } := by
  rw [CodeUnit.isFirst] at hu
  simp [pushUnit, hhalf, hu]

theorem pushUnit_of_not_first {t : PartialText} {u : CodeUnit} (hhalf : t.half = none)
    (hu : ¬ u.isFirst = true) :
    t.pushUnit u.value =
      if u.isSecond then { t with chars := none, part := .plain }
      else t.push (Char.ofNat u.value) := by
  rw [CodeUnit.isFirst] at hu
  simp [pushUnit, hhalf, hu, CodeUnit.isSecond]

theorem pushUnit_of_half {t : PartialText} {u v : CodeUnit} (hhalf : t.half = some u.value) :
    t.pushUnit v.value =
      if v.isSecond then { t with half := none }.push (u.paired v)
      else { t with chars := none, half := none, part := .plain } := by
  rw [pushUnit, hhalf]
  rfl

/-- What has become of a text with more pieces, if no half was waiting, and if one was. -/
theorem chars_foldl_absorb (pieces : List Piece) (t : PartialText) :
    (t.half = none → (pieces.foldl absorb t).settle.chars =
        t.chars.bind fun cs => (Piece.decode pieces).map (cs ++ ·)) ∧
      ∀ u : CodeUnit, u.isFirst = true → t.half = some u.value →
        (pieces.foldl absorb t).settle.chars =
          t.chars.bind fun cs => (Piece.decode (.unit u :: pieces)).map (cs ++ ·) := by
  induction pieces generalizing t with
  | nil =>
    constructor
    · intro hhalf
      simp [settle, hhalf, Piece.decode]
    · intro u hu hhalf
      simp [settle, hhalf, Piece.decode, hu]
  | cons p rest ih =>
    -- one more character, with nothing waiting
    have hpush : ∀ (t : PartialText) (c : Char), t.half = none →
        (rest.foldl absorb (t.push c)).settle.chars =
          t.chars.bind fun cs => ((Piece.decode rest).map (c :: ·)).map (cs ++ ·) := by
      intro t c hhalf
      rw [(ih (t.push c)).1 hhalf]
      cases hchars : t.chars with
      | none => simp [push, hchars]
      | some cs => cases Piece.decode rest <;> simp [push, hchars]
    -- a half that stands alone
    have hlost : ∀ t : PartialText, t.half = none → t.chars = none →
        (rest.foldl absorb t).settle.chars = none := by
      intro t hhalf hchars
      rw [(ih t).1 hhalf, hchars]
      rfl
    constructor
    · intro hhalf
      cases p with
      | plain c h =>
        rw [List.foldl_cons, absorb, settle_of_none hhalf, Piece.decode]
        exact hpush t c hhalf
      | escaped letter c h =>
        rw [List.foldl_cons, absorb, settle_of_none hhalf, Piece.decode]
        exact hpush t c hhalf
      | unit u =>
        by_cases hfirst : u.isFirst
        · rw [List.foldl_cons, absorb, pushUnit_of_first hhalf hfirst]
          exact (ih _).2 u hfirst rfl
        · rw [List.foldl_cons, absorb, pushUnit_of_not_first hhalf hfirst,
            Piece.decode_of_not_first hfirst]
          by_cases hsecond : u.isSecond
          · rw [if_pos hsecond, if_pos hsecond,
              hlost { t with chars := none, part := .plain } hhalf rfl]
            simp
          · rw [if_neg hsecond, if_neg hsecond]
            exact hpush t _ hhalf
    · intro u hu hhalf
      cases p with
      | plain c h =>
        rw [List.foldl_cons, absorb, settle_of_some hhalf, hlost _ rfl rfl]
        simp [Piece.decode, hu]
      | escaped letter c h =>
        rw [List.foldl_cons, absorb, settle_of_some hhalf, hlost _ rfl rfl]
        simp [Piece.decode, hu]
      | unit v =>
        rw [List.foldl_cons, absorb, pushUnit_of_half hhalf, Piece.decode, if_pos hu]
        by_cases hsecond : v.isSecond
        · simp only [if_pos hsecond]
          exact hpush { t with half := none } _ rfl
        · simp only [if_neg hsecond]
          rw [hlost _ rfl rfl]
          simp

end PartialText

namespace Lexer

/-- The machine takes a piece as a whole. -/
theorem read_piece {t : PartialText} (ht : t.part = .plain) (p : Piece) :
    (text t).read p.chars = (text (t.absorb p), []) := by
  cases p with
  | plain c h =>
    simp only [isPlain, Bool.and_eq_true, decide_eq_true_eq] at h
    obtain ⟨⟨hquote, hslash⟩, hcontrol⟩ := h
    simp [Piece.chars, read, step, stepText, ht, hslash, hquote, Nat.not_lt.mpr hcontrol,
      PartialText.absorb]
  | escaped letter c h =>
    have hletter : letter ≠ 'u' := by
      rintro rfl
      simp [unescaped?] at h
    simp [Piece.chars, read, step, stepText, ht, hletter, h, PartialText.absorb]
  | unit u =>
    simp [Piece.chars, read, step, stepText, ht, HexDigit.utf8Size, HexDigit.valid,
      PartialText.absorb, CodeUnit.value]

/-- The machine takes pieces one after another. -/
theorem read_pieces {t : PartialText} (ht : t.part = .plain) (pieces : List Piece) :
    (text t).read (pieces.flatMap Piece.chars) =
      (text (pieces.foldl PartialText.absorb t), []) := by
  induction pieces generalizing t with
  | nil => rfl
  | cons p rest ih =>
    rw [List.flatMap_cons, read_append, read_piece ht, ih (t.part_absorb p)]
    rfl

/-- The machine finds a text as its pieces make it. -/
theorem read_text (pieces : List Piece) :
    between.read ('"' :: (pieces.flatMap Piece.chars ++ ['"'])) =
      (between, [.string ((Piece.decode pieces).map String.ofList)]) := by
  have hpart : (pieces.foldl PartialText.absorb {}).part = .plain :=
    List.foldlRecOn (motive := fun t => t.part = .plain) pieces PartialText.absorb rfl
      fun t _ p _ => t.part_absorb p
  have hbegin : begin '"' = (text {}, []) := by decide
  rw [read, step, hbegin]
  dsimp only
  rw [read_append, read_pieces rfl]
  have hchars := (PartialText.chars_foldl_absorb pieces {}).1
  simp [read, step, stepText, hpart, PartialText.token, hchars]

end Lexer

/-! ## 2. Numerals -/

/-- All of these are decimal digits. -/
def Digits (cs : List Char) : Prop := ∀ c ∈ cs, c.isDigit = true

instance (cs : List Char) : Decidable (Digits cs) := List.decidableBAll _ cs

/-- The whole part of a numeral: a zero alone, or digits that do not begin with a zero. -/
inductive WholePart : List Char → Prop
  | zero : WholePart ['0']
  | digits {c : Char} {cs : List Char} (hzero : c ≠ '0') (h : Digits (c :: cs)) :
    WholePart (c :: cs)

/-- How the digits after the point are written; no point if there are none. -/
def pointed : List Char → List Char
  | [] => []
  | c :: cs => '.' :: c :: cs

/-- How an exponent is written. -/
inductive SpellsExponent : Option (Bool × List Char) → List Char → Prop
  | absent : SpellsExponent none []
  | unsigned {mark c : Char} {cs : List Char} (hmark : mark = 'e' ∨ mark = 'E')
    (h : Digits (c :: cs)) : SpellsExponent (some (false, c :: cs)) (mark :: c :: cs)
  | plus {mark c : Char} {cs : List Char} (hmark : mark = 'e' ∨ mark = 'E')
    (h : Digits (c :: cs)) : SpellsExponent (some (false, c :: cs)) (mark :: '+' :: c :: cs)
  | minus {mark c : Char} {cs : List Char} (hmark : mark = 'e' ∨ mark = 'E')
    (h : Digits (c :: cs)) : SpellsExponent (some (true, c :: cs)) (mark :: '-' :: c :: cs)

/-- How a numeral is written. -/
structure SpellsNumeral (n : Numeral) (chars : List Char) : Prop where
  whole : WholePart n.whole
  fraction : Digits n.fraction
  parts : ∃ exponent, SpellsExponent n.exponent exponent ∧
    chars = (if n.negative then ['-'] else []) ++ n.whole ++ pointed n.fraction ++ exponent

namespace Lexer

/-- A character that continues a numeral. -/
theorem read_continued {n n' : Numeral} {part part' : NumeralPart} {c : Char}
    (h : continued n part c = some (n', part')) (rest : List Char) :
    (numeral n part).read (c :: rest) = (numeral n' part').read rest := by
  simp [read, step, stepNumeral, h]

/-- Digits that a part of a numeral goes on with, where `f` adds digits to that part. -/
theorem read_digits {part : NumeralPart} {f : Numeral → List Char → Numeral}
    (hnil : ∀ n, f n [] = n) (hcons : ∀ n c cs, f (f n [c]) cs = f n (c :: cs))
    (hf : ∀ n c, c.isDigit = true → continued n part c = some (f n [c], part))
    {cs : List Char} (h : Digits cs) (n : Numeral) :
    (numeral n part).read cs = (numeral (f n cs) part, []) := by
  induction cs generalizing n with
  | nil => rw [hnil, read]
  | cons c rest ih =>
    obtain ⟨hc, hrest⟩ := List.forall_mem_cons.mp h
    rw [read_continued (hf n c hc), ih hrest, hcons]

theorem read_whole_digits {cs : List Char} (h : Digits cs) (n : Numeral) :
    (numeral n .whole).read cs = (numeral { n with whole := n.whole ++ cs } .whole, []) :=
  read_digits (f := fun n cs => { n with whole := n.whole ++ cs }) (by simp) (by simp)
    (by simp +contextual [continued]) h n

theorem read_fraction_digits {cs : List Char} (h : Digits cs) (n : Numeral) :
    (numeral n .fraction).read cs =
      (numeral { n with fraction := n.fraction ++ cs } .fraction, []) :=
  read_digits (f := fun n cs => { n with fraction := n.fraction ++ cs }) (by simp) (by simp)
    (by simp +contextual [continued]) h n

theorem read_exponent_digits {cs : List Char} (h : Digits cs) {n : Numeral} {negative : Bool}
    {digits : List Char} (hn : n.exponent = some (negative, digits)) :
    (numeral n .exponent).read cs =
      (numeral { n with exponent := some (negative, digits ++ cs) } .exponent, []) := by
  have hf : cs.foldl withExponentDigit n =
      { n with exponent := some (negative, digits ++ cs) } := by
    clear h
    induction cs generalizing n digits with
    | nil => simp [← hn]
    | cons c rest ih =>
      have hnext : (withExponentDigit n c).exponent = some (negative, digits ++ [c]) := by
        simp [withExponentDigit, hn]
      rw [List.foldl_cons, ih hnext]
      simp [withExponentDigit, hn]
  rw [← hf]
  exact read_digits (f := fun n cs => cs.foldl withExponentDigit n) (fun _ => rfl)
    (fun _ _ _ => rfl) (by simp +contextual [continued]) h n

/-- A digit is none of the other characters. -/
theorem ne_of_isDigit {c d : Char} (hc : c.isDigit = true) (hd : d.isDigit = false) : c ≠ d := by
  rintro rfl
  exact absurd hc (by simp [hd])

theorem begin_digit {c : Char} (hc : c.isDigit = true) (hzero : c ≠ '0') :
    begin c = (numeral { whole := [c] } .whole, []) := by
  have hne : ∀ d : Char, d.isDigit = false → (c = d) = False := fun d hd =>
    eq_false (ne_of_isDigit hc hd)
  simp (disch := decide) [begin, isBlank, hne, hzero, hc]

/-- The machine after the whole part of a numeral. -/
theorem read_whole {cs : List Char} (h : WholePart cs) (negative : Bool) :
    ∃ part, (part = .zero ∨ part = .whole) ∧
      between.read ((if negative then ['-'] else []) ++ cs) =
        (numeral { negative, whole := cs } part, []) := by
  cases h with
  | zero => exact ⟨.zero, .inl rfl, by cases negative <;> decide⟩
  | @digits c cs hzero h =>
    refine ⟨.whole, .inr rfl, ?_⟩
    have hc := h c List.mem_cons_self
    have hrest := read_whole_digits (List.forall_mem_cons.mp h).2
    cases negative with
    | false => simp [read, step, begin_digit hc hzero, hrest]
    | true =>
      have hminus : begin '-' = (numeral { negative := true } .sign, []) := by decide
      simp [read, step, hminus, stepNumeral, continued, hzero, hc, hrest]

/-- The machine after a point and digits. -/
theorem read_fraction {n : Numeral} {part : NumeralPart} (hpart : part = .zero ∨ part = .whole)
    (hn : n.fraction = []) {cs : List Char} (h : Digits cs) :
    ∃ part', (part' = .zero ∨ part' = .whole ∨ part' = .fraction) ∧
      (numeral n part).read (pointed cs) = (numeral { n with fraction := cs } part', []) := by
  cases cs with
  | nil =>
    refine ⟨part, hpart.elim .inl (.inr ∘ .inl), ?_⟩
    obtain ⟨negative, whole, fraction, exponent⟩ := n
    cases hn
    rfl
  | cons c cs =>
    refine ⟨.fraction, .inr (.inr rfl), ?_⟩
    have hc := h c List.mem_cons_self
    have hpoint : continued n part '.' = some (n, .point) := by
      rcases hpart with rfl | rfl <;> simp [continued]
    have hfirst : continued n .point c = some ({ n with fraction := [c] }, .fraction) := by
      simp [continued, hc]
    rw [pointed, read_continued hpoint, read_continued hfirst,
      read_fraction_digits (List.forall_mem_cons.mp h).2]
    rfl

/-- The machine after an exponent. -/
theorem read_exponent {n : Numeral} {part : NumeralPart}
    (hpart : part = .zero ∨ part = .whole ∨ part = .fraction) (hn : n.exponent = none)
    {e : Option (Bool × List Char)} {chars : List Char} (h : SpellsExponent e chars) :
    ∃ part', part'.complete = true ∧
      (numeral n part).read chars = (numeral { n with exponent := e } part', []) := by
  have hmark : ∀ mark : Char, mark = 'e' ∨ mark = 'E' →
      continued n part mark = some ({ n with exponent := some (false, []) }, .mark) := by
    rintro mark (rfl | rfl) <;> rcases hpart with rfl | rfl | rfl <;> simp [continued]
  -- the digits, after a mark that may have a sign
  have hdigits : ∀ (negative : Bool) (c : Char) (cs : List Char), Digits (c :: cs) →
      ∀ {before : NumeralPart}, before = .mark ∨ before = .markSign →
      (numeral { n with exponent := some (negative, []) } before).read (c :: cs) =
        (numeral { n with exponent := some (negative, c :: cs) } .exponent, []) := by
    intro negative c cs h before hfrom
    obtain ⟨hc, hcs⟩ := List.forall_mem_cons.mp h
    have hfirst : continued { n with exponent := some (negative, []) } before c =
        some ({ n with exponent := some (negative, [c]) }, .exponent) := by
      have hplus : c ≠ '+' := ne_of_isDigit hc (by decide)
      have hminus : c ≠ '-' := ne_of_isDigit hc (by decide)
      rcases hfrom with rfl | rfl <;> simp [continued, hc, hplus, hminus, withExponentDigit]
    rw [read_continued hfirst, read_exponent_digits hcs rfl]
    rfl
  cases h with
  | absent =>
    refine ⟨part, by rcases hpart with rfl | rfl | rfl <;> rfl, ?_⟩
    obtain ⟨negative, whole, fraction, exponent⟩ := n
    cases hn
    rfl
  | @unsigned mark c cs hm h =>
    refine ⟨.exponent, rfl, ?_⟩
    rw [read_continued (hmark mark hm), hdigits false c cs h (.inl rfl)]
  | @plus mark c cs hm h =>
    refine ⟨.exponent, rfl, ?_⟩
    have hplus : ∀ n : Numeral, continued n .mark '+' = some (n, .markSign) := by simp [continued]
    rw [read_continued (hmark mark hm), read_continued (hplus _), hdigits false c cs h (.inr rfl)]
  | @minus mark c cs hm h =>
    refine ⟨.exponent, rfl, ?_⟩
    have hminus : ∀ n : Numeral,
        continued n .mark '-' = some ({ n with exponent := some (true, []) }, .markSign) := by
      simp [continued]
    rw [read_continued (hmark mark hm), read_continued (hminus _), hdigits true c cs h (.inr rfl)]

/-- The machine after a numeral, which may end there. -/
theorem read_numeral {n : Numeral} {chars : List Char} (h : SpellsNumeral n chars) :
    ∃ part, part.complete = true ∧ between.read chars = (numeral n part, []) := by
  obtain ⟨exponent, hexponent, rfl⟩ := h.parts
  obtain ⟨part₁, hpart₁, hwhole⟩ := read_whole h.whole n.negative
  obtain ⟨part₂, hpart₂, hfraction⟩ :=
    read_fraction (n := { n with fraction := [], exponent := none }) hpart₁ rfl h.fraction
  obtain ⟨part₃, hcomplete, hread⟩ :=
    read_exponent (n := { n with exponent := none }) hpart₂ rfl hexponent
  refine ⟨part₃, hcomplete, ?_⟩
  rw [read_append, read_append, hwhole]
  dsimp only
  rw [hfraction]
  dsimp only
  rw [hread]
  rfl

end Lexer

/-! ## 3. Tokens and the blanks between them -/

/-- How a token is written that has only one form. -/
def Token.fixed? : Token → Option (List Char)
  | .openArray => some ['[']
  | .closeArray => some [']']
  | .openObject => some ['\x7b']
  | .closeObject => some ['\x7d']
  | .comma => some [',']
  | .colon => some [':']
  | .null => some ['n', 'u', 'l', 'l']
  | .bool true => some ['t', 'r', 'u', 'e']
  | .bool false => some ['f', 'a', 'l', 's', 'e']
  | .number _ | .string _ | .torn _ _ _ | .stray => none

/-- How a token is written.  What is torn or stray is no token of the language, and is not. -/
inductive Spells : Token → List Char → Prop
  | fixed {t : Token} {chars : List Char} (h : t.fixed? = some chars) : Spells t chars
  | number {n : Numeral} {chars : List Char} (h : SpellsNumeral n chars) : Spells (.number n) chars
  | text (pieces : List Piece) :
    Spells (.string ((Piece.decode pieces).map String.ofList))
      ('"' :: (pieces.flatMap Piece.chars ++ ['"']))

/-- A text before which a numeral ends. -/
def EndsNumeral (text : List Char) : Prop :=
  ∀ c ∈ text.head?, c.isDigit = false ∧ c ≠ '.' ∧ c ≠ 'e' ∧ c ≠ 'E'

/-- The text is made of the tokens, with any blanks before each of them, and of `rest`. -/
inductive Layout (rest : List Char) : List Token → List Char → Prop
  | done : Layout rest [] rest
  | blank {c : Char} {ts : List Token} {text : List Char} (hc : Lexer.isBlank c = true)
    (h : Layout rest ts text) : Layout rest ts (c :: text)
  | token {t : Token} {ts : List Token} {chars text : List Char} (ht : Spells t chars)
    (hends : ∀ n, t = .number n → EndsNumeral text) (h : Layout rest ts text) :
    Layout rest (t :: ts) (chars ++ text)

/-- A text is spelled by spelling each of its characters. -/
theorem Spells.each {spell : Char → List Char} {s : List Char}
    (h : ∀ c ∈ s, ∃ p : Piece, p.StandsFor c ∧ p.chars = spell c) :
    Spells (.string (some (String.ofList s))) ('"' :: (s.flatMap spell ++ ['"'])) := by
  obtain ⟨pieces, hdecode, hchars⟩ := Piece.exists_pieces h
  have htext := Spells.text pieces
  rwa [hdecode, hchars] at htext

/-- Characters that can stand for themselves do so. -/
theorem Spells.plain {s : List Char} (h : s.all isPlain = true) :
    Spells (.string (some (String.ofList s))) ('"' :: (s ++ ['"'])) := by
  have heach : Spells (.string (some (String.ofList s)))
      ('"' :: (s.flatMap (fun c => [c]) ++ ['"'])) := .each fun c hc =>
    ⟨.plain c (List.all_eq_true.mp h c hc), fun _ => rfl, rfl⟩
  rwa [List.flatMap_singleton'] at heach

namespace Layout

theorem fixed {rest text chars : List Char} {t : Token} {ts : List Token}
    (ht : t.fixed? = some chars) (h : Layout rest ts text) :
    Layout rest (t :: ts) (chars ++ text) :=
  .token (.fixed ht) (by rintro n rfl; cases ht) h

/-- A token that is a single character. -/
theorem mark {rest text : List Char} {c : Char} {t : Token} {ts : List Token}
    (ht : t.fixed? = some [c]) (h : Layout rest ts text) : Layout rest (t :: ts) (c :: text) :=
  .fixed ht h

theorem plain {rest text s : List Char} {ts : List Token}
    (hs : s.all isPlain = true) (h : Layout rest ts text) :
    Layout rest (.string (some (String.ofList s)) :: ts) ('"' :: (s ++ ['"']) ++ text) :=
  .token (.plain hs) (fun _ hn => by cases hn) h

/-- More tokens may be laid out in the rest. -/
theorem append {mid rest text : List Char} {a b : List Token} (ha : Layout mid a text)
    (hb : Layout rest b mid) : Layout rest (a ++ b) text := by
  induction ha with
  | done => exact hb
  | blank hc h ih => exact .blank hc ih
  | token ht hends h ih => exact .token ht hends ih

/-- A laid out text begins with its first tokens. -/
theorem left {rest text : List Char} {a b : List Token} (h : Layout rest (a ++ b) text) :
    ∃ rest', Layout rest' a text := by
  generalize hts : a ++ b = ts at h
  induction h generalizing a with
  | done =>
    obtain ⟨rfl, -⟩ := List.append_eq_nil_iff.mp hts
    exact ⟨rest, .done⟩
  | blank hc h ih =>
    obtain ⟨rest', ha⟩ := ih hts
    exact ⟨rest', .blank hc ha⟩
  | @token t ts chars text ht hends h ih =>
    cases a with
    | nil => exact ⟨chars ++ text, .done⟩
    | cons t' a =>
      obtain ⟨rfl, rfl⟩ := List.cons.inj hts
      obtain ⟨rest', ha⟩ := ih rfl
      exact ⟨rest', .token ht hends ha⟩

end Layout

namespace Lexer

/-- The tokens that the machine finds from here on. -/
def found (l : Lexer) (text : List Char) : List Token := (l.read text).2 ++ (l.read text).1.finish

theorem found_append {l l' : Lexer} {ts : List Token} {a : List Char} (h : l.read a = (l', ts))
    (b : List Char) : l.found (a ++ b) = ts ++ l'.found b := by
  simp [found, read_append, h]

/-- A numeral that may end is found as soon as it does. -/
theorem found_numeral {n : Numeral} {part : NumeralPart} (hpart : part.complete = true)
    {text : List Char} (h : EndsNumeral text) :
    (numeral n part).found text = .number n :: between.found text := by
  cases text with
  | nil => simp [found, read, finish, hpart]
  | cons c rest =>
    obtain ⟨hdigit, hpoint, hmark, hMark⟩ := h c rfl
    have hstop : continued n part c = none := by
      cases part <;> simp_all [continued, NumeralPart.complete]
    simp [found, read, step, stepNumeral, hstop, hpart, hdigit]

/-- A token is found wherever it begins. -/
theorem found_token {t : Token} {chars text : List Char} (ht : Spells t chars)
    (hends : ∀ n, t = .number n → EndsNumeral text) :
    between.found (chars ++ text) = t :: between.found text := by
  cases ht with
  | fixed h =>
    have hread : between.read chars = (between, [t]) := by
      rcases t with _ | _ | _ | _ | _ | _ | _ | (_ | _) | _ | _ | _ | _ <;> cases h <;> rfl
    exact found_append hread text
  | @number n _ h =>
    obtain ⟨part, hpart, hread⟩ := read_numeral h
    rw [found_append hread, found_numeral hpart (hends n rfl)]
    rfl
  | text pieces => exact found_append (read_text pieces) text

end Lexer

/-- The tokens of a laid out text are the ones that it was made of, and then those of the rest. -/
theorem tokens_of_layout {rest text : List Char} {ts : List Token} (h : Layout rest ts text) :
    tokens text = ts ++ tokens rest := by
  induction h with
  | done => rfl
  | @blank c ts text hc h ih =>
    have hbegin : Lexer.begin c = (.between, []) := by simp [Lexer.begin, hc]
    have hread : Lexer.between.read [c] = (.between, []) := by
      rw [Lexer.read, Lexer.step, hbegin]
      rfl
    exact (Lexer.found_append hread text).trans ih
  | token ht hends h ih =>
    rw [List.cons_append, ← ih]
    exact Lexer.found_token ht hends

end ChangeAudit.Json
