/-
# Reading back what was written

A reader reads a document as a value if it takes the tokens of the document for that value and
leaves what comes after them (`Reads`).  Here are the documents that the readers of single values,
of arrays and of records read: for a record, an object with all its fields in their order
(`Form.reads_written`).

A whole number of 64 bits is read back from its decimal digits, the least one included, whose size
is one more than that of the largest (`reads_int64`).
-/
import Mathlib.Data.List.Forall2
import ChangeAudit.Proofs.Json.Compact

namespace ChangeAudit.Json

/-- The reader takes the document for this value, whatever comes after it. -/
def Reads {α : Type} (read : Reader α) (d : Document) (a : α) : Prop :=
  ∀ ts, read (d.tokens ++ ts) = .ok (a, ts)

/-! ## 1. Single values -/

/-- The digits of a number that 64 bits hold give back the number. -/
theorem Numeral.integer?_ofInt {n : Int} (hleast : -(maxSigned + 1 : Int) ≤ n)
    (hgreatest : n ≤ maxWord) : (Numeral.ofInt n).integer? = some n := by
  have hsize : Nat.ofDigitChars 10 (Nat.toDigits 10 n.natAbs) 0 = n.natAbs :=
    Nat.ofDigitChars_ten_toDigits
  have hwhole : (Numeral.ofInt n).isWhole = true := rfl
  rw [maxSigned] at hleast
  rw [maxWord] at hgreatest
  rw [Numeral.integer?, hwhole]
  simp only [Numeral.ofInt, hsize, maxSigned, maxWord, decide_eq_true_eq, Bool.not_true,
    Bool.false_eq_true, if_false]
  split
  · rw [if_pos (by omega)]
    exact congrArg some (by omega)
  · rw [if_pos (by omega)]
    exact congrArg some (by omega)

theorem reads_int64 (n : Int64) : Reads readInt64 (.number (.ofInt n.toInt)) n := by
  intro ts
  have hleast : -(maxSigned + 1 : Int) ≤ n.toInt := n.le_toInt
  have hgreatest : n.toInt ≤ maxSigned := Int.le_of_lt_add_one n.toInt_lt
  have hinteger := Numeral.integer?_ofInt hleast (Int.le_trans hgreatest (by decide))
  simp only [Document.tokens, List.cons_append, List.nil_append, readInt64, hinteger,
    if_pos hgreatest, Int64.ofInt_toInt]

theorem reads_bool (b : Bool) : Reads readBool (.bool b) b := fun _ => rfl

theorem reads_text (s : String) : Reads (readText "a string") (.text (some s)) s :=
  fun _ => rfl

theorem reads_text? (s : Option String) : Reads readText? (ofText? s).document s := by
  cases s <;> exact fun _ => rfl

/-- A named value is read back from its name. -/
theorem reads_variant {α : Type} {known : List (String × α)} {name : String} {a : α}
    (h : known.lookup name = some a) : Reads (readVariant known) (.text (some name)) a := by
  intro ts
  simp only [Document.tokens, List.singleton_append, readVariant, chosen, h]
  rfl

/-! ## 2. Arrays -/

/-- Every element after the first has a token at least. -/
theorem length_lt_moreItems (items : List Document) :
    items.length < (Document.moreItems items).length := by
  induction items with
  | nil => exact Nat.zero_lt_one
  | cons d items ih =>
    rw [Document.moreItems, List.length_cons, List.length_cons, List.length_append]
    omega

/-- There is another element after a comma. -/
theorem nextElement_comma (d : Document) (ts : List Token) :
    nextElement false (.comma :: (d.tokens ++ ts)) = .ok (true, d.tokens ++ ts) := by
  obtain ⟨t, rest, htokens, ht⟩ := d.exists_head ts
  rw [htokens]
  cases t with
  | closeArray => exact absurd rfl ht
  | _ => rfl

/-- There is a first element where an array does not end at once. -/
theorem nextElement_first (d : Document) (ts : List Token) :
    nextElement true (d.tokens ++ ts) = .ok (true, d.tokens ++ ts) := by
  obtain ⟨t, rest, htokens, ht⟩ := d.exists_head ts
  rw [htokens]
  cases t with
  | closeArray => exact absurd rfl ht
  | _ => rfl

section Arrays

variable {α : Type} {element : Reader α} {written : α → Document}

/-- The elements after the first, if the bound leaves room for them. -/
theorem readElements_more {xs : List α} (h : ∀ x ∈ xs, Reads element (written x) x) {bound : Nat}
    (hbound : xs.length < bound) (ts : List Token) :
    readElements element bound false (Document.moreItems (xs.map written) ++ ts) =
      .ok (xs, ts) := by
  induction xs generalizing bound with
  | nil =>
    cases bound with
    | zero => exact absurd hbound (Nat.not_lt_zero 0)
    | succ bound => rfl
  | cons x xs ih =>
    cases bound with
    | zero => exact absurd hbound (Nat.not_lt_zero _)
    | succ bound =>
      have hx := h x List.mem_cons_self
      have hxs := ih (fun y hy => h y (List.mem_cons_of_mem x hy)) (Nat.lt_of_succ_lt_succ hbound)
      rw [List.map_cons, Document.moreItems, List.cons_append, List.append_assoc, readElements,
        nextElement_comma]
      simp only [bind, Except.bind, if_true, hx _, hxs]

/-- **An array is read back** if each of its elements is. -/
theorem reads_list {xs : List α} (h : ∀ x ∈ xs, Reads element (written x) x) :
    Reads (readList element) (.array (xs.map written)) xs := by
  intro ts
  cases xs with
  | nil => rfl
  | cons x xs =>
    have hx := h x List.mem_cons_self
    have hxs : ∀ bound, xs.length < bound →
        readElements element bound false (Document.moreItems (xs.map written) ++ ts) =
          .ok (xs, ts) :=
      fun bound hbound =>
        readElements_more (fun y hy => h y (List.mem_cons_of_mem x hy)) hbound ts
    have hroom := length_lt_moreItems (xs.map written)
    rw [List.map_cons, Document.tokens, List.cons_append, readList, List.append_assoc,
      readElements, nextElement_first]
    simp only [bind, Except.bind, if_true, hx _]
    rw [hxs]
    rw [List.length_map] at hroom
    rw [List.length_append, List.length_append]
    omega

end Arrays

/-! ## 3. Records -/

namespace Form

variable {ρ : Type} {form : Form ρ}

/-- A field as it is written: its name, its value, and what the value changes in a record. -/
structure WrittenField (ρ : Type) where
  name : String
  value : Document
  update : ρ → ρ

/-- The member that holds the field. -/
def WrittenField.member (w : WrittenField ρ) : Member := (w.name, w.value)

/-- The field of the record is read back from what is written. -/
structure WrittenField.Fits (field : Field ρ) (w : WrittenField ρ) : Prop where
  name_eq : field.name = w.name
  reads : Reads field.read w.value w.update

/-- A field is read back if its value is. -/
theorem WrittenField.Fits.of {β : Type} {read : Reader β} {d : Document} {b : β}
    (h : Reads read d b) (name : String) (store : ρ → β → ρ) :
    WrittenField.Fits (.of name read store) ⟨name, d, fun r => store r b⟩ := by
  refine ⟨rfl, fun ts => ?_⟩
  simp only [Field.of, h ts]
  rfl

/-- One more member, which holds a field that has not been seen. -/
theorem readMembers_field {field : Field ρ} {w : WrittenField ρ} (hw : w.Fits field)
    (hfield : form.field? w.name = some field) {seen : List String} (hseen : w.name ∉ seen)
    (bound : Nat) (isFirst : Bool) (r : ρ) (ts : List Token) :
    form.readMembers (bound + 1) isFirst seen r
        ((if isFirst then [] else [.comma]) ++
          .string (some w.name) :: .colon :: (w.value.tokens ++ ts)) =
      form.readMembers bound false (w.name :: seen) (w.update r) ts := by
  have hcontains : ¬seen.contains w.name = true := by simpa using hseen
  rw [readMembers, nextName_member]
  simp only [bind, Except.bind, hfield, if_neg hcontains, readColon, hw.reads ts]

/-- Where the names of the fields differ, a field is found by its name. -/
theorem field?_of_nodup (hnames : (form.fields.map (·.name)).Nodup) {before after : List (Field ρ)}
    {field : Field ρ} (hfields : form.fields = before ++ field :: after) :
    field.name ∉ before.map (·.name) ∧ form.field? field.name = some field := by
  rw [hfields, List.map_append, List.map_cons, List.nodup_append] at hnames
  have hbefore : field.name ∉ before.map (·.name) := fun hmem =>
    hnames.2.2 _ hmem _ List.mem_cons_self rfl
  refine ⟨hbefore, ?_⟩
  have hnone : before.find? (·.name == field.name) = none := by
    rw [List.find?_eq_none]
    intro f hf hname
    rw [beq_iff_eq] at hname
    exact hbefore (hname ▸ List.mem_map_of_mem hf)
  rw [field?, hfields, List.find?_append, hnone, Option.none_or]
  exact List.find?_cons_of_pos (p := fun f : Field ρ => f.name == field.name)
    (beq_self_eq_true field.name)

/-- The members after those that hold the fields `before`, up to the end of the object. -/
theorem readMembers_written (hnames : (form.fields.map (·.name)).Nodup)
    (before : List (Field ρ)) {after : List (Field ρ)} {ws : List (WrittenField ρ)}
    (hfields : form.fields = before ++ after) (h : List.Forall₂ WrittenField.Fits after ws)
    (bound : Nat) (isFirst : Bool) (r : ρ) (ts : List Token) :
    form.readMembers (ws.length + (bound + 1)) isFirst (before.map (·.name)).reverse r
        (memberTokens isFirst (ws.map WrittenField.member) ++ .closeObject :: ts) =
      .ok (ws.foldl (fun r w => w.update r) r, ts) := by
  induction h generalizing before isFirst r with
  | nil =>
    -- every field has been seen
    have hmissing : form.missing? (before.map (·.name)).reverse = none := by
      rw [missing?, hfields, List.append_nil]
      split
      · rw [List.find?_eq_none]
        intro name hname
        simpa using hname
      · rfl
    simp only [List.map_nil, memberTokens, List.nil_append, readMembers, nextName, hmissing, bind,
      Except.bind, List.foldl_nil]
  | @cons field w after ws hw hrest ih =>
    obtain ⟨hunseen, hfield⟩ := field?_of_nodup hnames hfields
    rw [hw.name_eq] at hunseen hfield
    have hseen : w.name ∉ (before.map (·.name)).reverse := by
      rwa [List.mem_reverse]
    have hbound : (w :: ws).length + (bound + 1) = ws.length + (bound + 1) + 1 := by
      rw [List.length_cons]
      omega
    have hmore := ih (before ++ [field]) (by rw [hfields, List.append_assoc]; rfl) false
      (w.update r)
    rw [List.map_append, List.reverse_append] at hmore
    rw [List.map_cons, memberTokens_cons_append, WrittenField.member, hbound,
      readMembers_field hw hfield hseen, ← hw.name_eq]
    exact hmore

/-- **A record is read back** from an object that holds all its fields in their order. -/
theorem reads_written (form : Form ρ) (hnames : (form.fields.map (·.name)).Nodup)
    {ws : List (WrittenField ρ)} (h : List.Forall₂ WrittenField.Fits form.fields ws) :
    Reads form.read (.ofMembers (ws.map WrittenField.member))
      (ws.foldl (fun r w => w.update r) form.start) := by
  intro ts
  obtain ⟨bound, hbound⟩ := exists_bound (ws.map WrittenField.member) (.closeObject :: ts)
  rw [List.length_map] at hbound
  rw [tokens_ofMembers, List.cons_append, List.append_assoc, Form.read, List.singleton_append,
    hbound]
  exact readMembers_written hnames [] rfl h bound true form.start ts

end Form

/-! ## 4. Whole texts -/

/-- What a reader reads a document as, it reads the compact form of the document as. -/
theorem readWhole_compact {α : Type} {read : Reader α} {d : Json} {a : α}
    (h : Reads read d.document a) : readWhole read d.compact = .ok a := by
  have hread := h []
  rw [List.append_nil] at hread
  rw [readWhole, tokens_compact, hread]

end ChangeAudit.Json
