/-
# Documents as readers find them

A document is a tree (`Document`), and its tokens are those of the tree in order, with commas and
colons between.  Each reader is described by what it makes of a tree: the value, or what is wrong
with it (`Document.refusal`, `asText?`, `asBool`, `asVariant`).  A reader finds that at the front of
the tokens whatever comes after them, and leaves what comes after them.

Passing over a value leaves the same, however deep the value is (`pass_tokens`).  So a record that
is written as an object is its members taken one by one: those with other names count for nothing
(`Meaning.take`, `Form.readMembers_tokens`).
-/
import ChangeAudit.Json.Form

namespace ChangeAudit.Json

/-! ## 1. Documents and their tokens -/

/-- A document as it is written.  A text, or the name of a member, is `none` if it holds half of a
character pair alone. -/
inductive Document where
  | null
  | bool (b : Bool)
  | number (n : Numeral)
  | text (s : Option String)
  | array (items : List Document)
  | object (members : List (Option String × Document))

namespace Document

mutual

/-- The tokens of a document. -/
def tokens : Document → List Token
  | .null => [.null]
  | .bool b => [.bool b]
  | .number n => [.number n]
  | .text s => [.string s]
  | .array [] => [.openArray, .closeArray]
  | .array (d :: items) => .openArray :: (d.tokens ++ moreItems items)
  | .object [] => [.openObject, .closeObject]
  | .object ((name, d) :: members) =>
    .openObject :: .string name :: .colon :: (d.tokens ++ moreMembers members)

/-- The elements after the first, and the end of the array. -/
def moreItems : List Document → List Token
  | [] => [.closeArray]
  | d :: items => .comma :: (d.tokens ++ moreItems items)

/-- The members after the first, and the end of the object. -/
def moreMembers : List (Option String × Document) → List Token
  | [] => [.closeObject]
  | (name, d) :: members => .comma :: .string name :: .colon :: (d.tokens ++ moreMembers members)

end

/-! ## 2. Passing over a document -/

/-- What is left to pass over after a value, if these brackets are open around it. -/
def passOn (opened : List Bracket) (rest : List Token) : Except ReadError (List Token) :=
  match opened with
  | [] => .ok rest
  | _ :: _ => passRest .next opened rest

/-- One token of a value that is passed over. -/
theorem passRest_of_ok {due due' : Due} {opened opened' : List Bracket} {t : Token}
    (h : passToken due opened t = .ok (due', opened')) (hdue : due' ≠ .next ∨ opened' ≠ [])
    (ts : List Token) : passRest due opened (t :: ts) = passRest due' opened' ts := by
  rw [passRest, h]
  split
  · cases ‹Except.ok _ = Except.error _›
  · rename_i heq
    cases heq
    simp at hdue
  · rename_i heq
    cases heq
    rfl

/-- The last token of a value that is passed over. -/
theorem passRest_of_next {due : Due} {opened outer : List Bracket} {t : Token}
    (h : passToken due opened t = .ok (.next, outer)) (ts : List Token) :
    passRest due opened (t :: ts) = passOn outer ts := by
  cases outer with
  | nil => rw [passRest, h]; rfl
  | cons b outer => exact passRest_of_ok h (.inr (by simp)) ts

/-- A document does not begin with the end of an array. -/
theorem exists_head (d : Document) (rest : List Token) :
    ∃ t ts, d.tokens ++ rest = t :: ts ∧ t ≠ .closeArray := by
  cases d with
  | null | bool | number | text => exact ⟨_, _, rfl, by simp⟩
  | array items => cases items <;> exact ⟨_, _, rfl, by simp⟩
  | object members => cases members <;> exact ⟨_, _, rfl, by simp⟩

/-- The first element of an array is a value like any other. -/
theorem passRest_first (d : Document) (outer : List Bracket) (rest : List Token) :
    passRest .first (.array :: outer) (d.tokens ++ rest) =
      passRest .value (.array :: outer) (d.tokens ++ rest) := by
  obtain ⟨t, ts, htokens, ht⟩ := d.exists_head rest
  have htoken : passToken .first (.array :: outer) t = passToken .value (.array :: outer) t := by
    simp [passToken, ht]
  rw [htokens, passRest, passRest, htoken]

mutual

/-- **Passing over a value leaves what comes after it**, at any depth. -/
theorem passRest_tokens (d : Document) (opened : List Bracket) (rest : List Token) :
    passRest .value opened (d.tokens ++ rest) = passOn opened rest := by
  match d with
  | .null | .bool _ | .number _ | .text _ => exact passRest_of_next rfl rest
  | .array [] =>
    rw [tokens, List.cons_append, passRest_of_ok rfl (.inl (by simp))]
    exact passRest_of_next rfl rest
  | .array (d :: items) =>
    rw [tokens, List.cons_append, passRest_of_ok rfl (.inl (by simp)), List.append_assoc,
      passRest_first, passRest_tokens d]
    exact passRest_items items opened rest
  | .object [] =>
    rw [tokens, List.cons_append, passRest_of_ok rfl (.inl (by simp))]
    exact passRest_of_next rfl rest
  | .object ((name, d) :: members) =>
    rw [tokens, List.cons_append, passRest_of_ok rfl (.inl (by simp)), List.cons_append,
      passRest_of_ok rfl (.inl (by simp)), List.cons_append, passRest_of_ok rfl (.inl (by simp)),
      List.append_assoc, passRest_tokens d]
    exact passRest_members members opened rest

theorem passRest_items (items : List Document) (outer : List Bracket) (rest : List Token) :
    passRest .next (.array :: outer) (moreItems items ++ rest) = passOn outer rest := by
  match items with
  | [] => exact passRest_of_next rfl rest
  | d :: items =>
    rw [moreItems, List.cons_append, passRest_of_ok rfl (.inl (by simp)), List.append_assoc,
      passRest_tokens d]
    exact passRest_items items outer rest

theorem passRest_members (members : List (Option String × Document)) (outer : List Bracket)
    (rest : List Token) :
    passRest .next (.object :: outer) (moreMembers members ++ rest) = passOn outer rest := by
  match members with
  | [] => exact passRest_of_next rfl rest
  | (name, d) :: members =>
    rw [moreMembers, List.cons_append, passRest_of_ok rfl (.inl (by simp)), List.cons_append,
      passRest_of_ok rfl (.inl (by simp)), List.cons_append, passRest_of_ok rfl (.inl (by simp)),
      List.append_assoc, passRest_tokens d]
    exact passRest_members members outer rest

end

theorem pass_tokens (d : Document) (rest : List Token) : pass (d.tokens ++ rest) = .ok rest :=
  passRest_tokens d [] rest

/-! ## 3. What readers make of a document -/

/-- What is wrong with a document where something else was expected. -/
def refusal (expected : String) : Document → ReadError
  | .null => .unfit (.wrongType .null expected)
  | .bool b => .unfit (.wrongType (.bool b) expected)
  | .number n =>
    match n.number? with
    | some v => .unfit (.wrongType (.number v) expected)
    | none => .broken .malformed
  | .text (some s) => .unfit (.wrongType (.text s) expected)
  | .text none => .broken .malformed
  | .array _ => .unfit (.wrongType .sequence expected)
  | .object _ => .unfit (.wrongType .map expected)

theorem refuse_tokens {α : Type} (expected : String) (d : Document) (rest : List Token) :
    (refuse expected (d.tokens ++ rest) : Except ReadError α) = .error (d.refusal expected) := by
  cases d with
  | null | bool => rfl
  | number n =>
    simp only [tokens, List.cons_append, refuse, refusal]
    cases n.number? <;> rfl
  | text s => cases s <;> rfl
  | array items => cases items <;> rfl
  | object members => cases members <;> rfl

/-- A document as a text or nothing. -/
def asText? : Document → Except ReadError (Option String)
  | .null => .ok none
  | .text (some s) => .ok (some s)
  | d => .error (d.refusal "a string")

theorem asText?_isOk (d : Document) :
    (∃ s, d.asText? = .ok s) ↔ d = .null ∨ ∃ s, d = .text (some s) := by
  cases d with
  | text s => cases s <;> simp [asText?]
  | _ => simp [asText?]

theorem readText?_tokens (d : Document) (rest : List Token) :
    readText? (d.tokens ++ rest) = d.asText?.map (·, rest) := by
  have hrefuse :
      (refuse "a string" (d.tokens ++ rest) : Except ReadError (String × List Token)).map
        (fun p => (some p.1, p.2)) = .error (d.refusal "a string") := by
    rw [refuse_tokens]
    rfl
  cases d with
  | null => rfl
  | text s => cases s <;> rfl
  | bool | number => exact hrefuse
  | array items => cases items <;> exact hrefuse
  | object members => cases members <;> exact hrefuse

/-- A document as a truth value. -/
def asBool : Document → Except ReadError Bool
  | .bool b => .ok b
  | d => .error (d.refusal "a boolean")

theorem asBool_isOk (d : Document) : (∃ b, d.asBool = .ok b) ↔ ∃ b, d = .bool b := by
  cases d <;> simp [asBool]

theorem readBool_tokens (d : Document) (rest : List Token) :
    readBool (d.tokens ++ rest) = d.asBool.map (·, rest) := by
  have hrefuse : (refuse "a boolean" (d.tokens ++ rest) : Except ReadError (Bool × List Token)) =
      .error (d.refusal "a boolean") := refuse_tokens "a boolean" d rest
  cases d with
  | bool b => rfl
  | null | number | text => exact hrefuse
  | array items => cases items <;> exact hrefuse
  | object members => cases members <;> exact hrefuse

/-- A document as nothing. -/
def asUnit : Document → Except ReadError Unit
  | .null => .ok ()
  | d => .error (d.refusal "unit")

theorem readUnit_tokens (d : Document) (rest : List Token) :
    readUnit (d.tokens ++ rest) = d.asUnit.map (·, rest) := by
  have hrefuse : (refuse "unit" (d.tokens ++ rest) : Except ReadError (Unit × List Token)) =
      .error (d.refusal "unit") := refuse_tokens "unit" d rest
  cases d with
  | null => rfl
  | bool | number | text => exact hrefuse
  | array items => cases items <;> exact hrefuse
  | object members => cases members <;> exact hrefuse

/-- A document as one of several named values: its name, or an object whose only member has that
name and holds nothing. -/
def asVariant {α : Type} (known : List (String × α)) : Document → Except ReadError α
  | .text (some name) => chosen known name
  | .object ((some name, d) :: members) => do
    let a ← chosen known name
    let () ← d.asUnit
    if members.isEmpty then .ok a else .error (.broken .malformed)
  | _ => .error (.broken .malformed)

/-- The document is a choice of this name: the name as a text, or an object whose only member has
the name and holds nothing. -/
def Names (d : Document) (name : String) : Prop :=
  d = .text (some name) ∨ d = .object [(some name, .null)]

theorem asUnit_eq_ok {d : Document} : d.asUnit = .ok () ↔ d = .null := by
  cases d <;> simp [asUnit]

theorem chosen_isOk {α : Type} (known : List (String × α)) (name : String) :
    (∃ a, chosen known name = .ok a) ↔ ∃ entry ∈ known, entry.1 = name := by
  rw [chosen]
  cases h : known.lookup name with
  | none =>
    have hnone := List.lookup_eq_none_iff.mp h
    simp only [unfit, reduceCtorEq, exists_false, false_iff, not_exists, not_and]
    intro entry hentry
    exact fun hname => absurd (hnone entry hentry) (by simp [hname])
  | some a =>
    obtain ⟨before, after, rfl, -⟩ := List.lookup_eq_some_iff.mp h
    exact iff_of_true ⟨a, rfl⟩ ⟨(name, a), by simp, rfl⟩

/-- A document is one of the named values exactly if it is a choice of its name. -/
theorem asVariant_isOk {α : Type} (known : List (String × α)) (d : Document) :
    (∃ a, d.asVariant known = .ok a) ↔ ∃ entry ∈ known, d.Names entry.1 := by
  match d with
  | .null | .bool _ | .number _ | .text none | .array _ | .object [] | .object ((none, _) :: _) =>
    simp [asVariant, Names]
  | .text (some name) =>
    rw [asVariant, chosen_isOk]
    simp [Names, eq_comm]
  | .object ((some name, d) :: members) =>
    have hchosen := chosen_isOk known name
    constructor
    · rintro ⟨a, h⟩
      rw [asVariant] at h
      cases hb : chosen known name with
      | error e => rw [hb] at h; cases h
      | ok b =>
        cases hunit : d.asUnit with
        | error e => rw [hb, hunit] at h; cases h
        | ok u =>
          cases members with
          | cons m members => rw [hb, hunit] at h; cases h
          | nil =>
            obtain ⟨entry, hentry, rfl⟩ := hchosen.mp ⟨b, hb⟩
            exact ⟨entry, hentry, .inr (by rw [asUnit_eq_ok.mp hunit])⟩
    · rintro ⟨entry, hentry, h | h⟩
      · cases h
      · cases h
        obtain ⟨a, ha⟩ := hchosen.mpr ⟨entry, hentry, rfl⟩
        exact ⟨a, by rw [asVariant, ha]; rfl⟩

theorem readVariant_tokens {α : Type} (known : List (String × α)) (d : Document)
    (rest : List Token) :
    readVariant known (d.tokens ++ rest) = (d.asVariant known).map (·, rest) := by
  cases d with
  | null | bool | number => rfl
  | text s => cases s <;> rfl
  | array items => cases items <;> rfl
  | object members =>
    match members with
    | [] => rfl
    | (none, d) :: members => rfl
    | (some name, d) :: members =>
      have hread : readVariant known ((object ((some name, d) :: members)).tokens ++ rest) =
          (chosen known name).bind fun a =>
            (readUnit (d.tokens ++ (moreMembers members ++ rest))).bind fun p =>
              (readClosing .closeObject p.2).bind fun p => .ok (a, p.2) := by
        rw [← List.append_assoc]
        rfl
      rw [hread, readUnit_tokens, asVariant]
      cases chosen known name with
      | error e => rfl
      | ok a =>
        cases d.asUnit with
        | error e => rfl
        | ok u => cases members <;> rfl

end Document

/-! ## 4. Records written as objects -/

/-- A member of an object whose name is a text. -/
abbrev Member := String × Document

/-- An object of such members. -/
def Document.ofMembers (members : List Member) : Document :=
  .object (members.map fun m => (some m.1, m.2))

/-- The members of an object, without its end; there is a comma before all but the first. -/
def memberTokens : (isFirst : Bool) → List Member → List Token
  | _, [] => []
  | isFirst, (name, d) :: members =>
    (if isFirst then [] else [.comma]) ++
      .string (some name) :: .colon :: (d.tokens ++ memberTokens false members)

/-- A member, and what comes after it. -/
theorem memberTokens_cons_append (isFirst : Bool) (m : Member) (members : List Member)
    (ts : List Token) :
    memberTokens isFirst (m :: members) ++ ts =
      (if isFirst then [] else [.comma]) ++
        .string (some m.1) :: .colon :: (m.2.tokens ++ (memberTokens false members ++ ts)) := by
  simp [memberTokens]

theorem moreMembers_eq (members : List Member) :
    Document.moreMembers (members.map fun m => (some m.1, m.2)) =
      memberTokens false members ++ [.closeObject] := by
  induction members with
  | nil => rfl
  | cons m rest ih => simp [Document.moreMembers, memberTokens, ih]

theorem tokens_ofMembers (members : List Member) :
    (Document.ofMembers members).tokens =
      .openObject :: (memberTokens true members ++ [.closeObject]) := by
  cases members with
  | nil => rfl
  | cons m rest => simp [Document.ofMembers, Document.tokens, memberTokens, moreMembers_eq]

theorem memberTokens_append (isFirst : Bool) (a b : List Member) :
    memberTokens isFirst (a ++ b) =
      memberTokens isFirst a ++ memberTokens (isFirst && a.isEmpty) b := by
  induction a generalizing isFirst with
  | nil => simp [memberTokens]
  | cons m rest ih => simp [memberTokens, ih]

/-- Every member has a token at least. -/
theorem length_le_memberTokens (isFirst : Bool) (members : List Member) :
    members.length ≤ (memberTokens isFirst members).length := by
  induction members generalizing isFirst with
  | nil => exact Nat.zero_le _
  | cons m rest ih =>
    have := ih false
    simp only [memberTokens, List.length_append, List.length_cons]
    omega

/-- What the fields of a record make of documents, by their names. -/
abbrev Meaning (ρ : Type) := String → Option (Document → Except ReadError (ρ → ρ))

namespace Meaning

variable {ρ : Type}

/-- One more member of a record, of which the fields `seen` have been read into `r`. -/
def take (meaning : Meaning ρ) : List String × ρ → Member → Except ReadError (List String × ρ)
  | (seen, r), (name, d) =>
    match meaning name with
    | none => .ok (seen, r)
    | some value =>
      if seen.contains name then .error (.unfit (.duplicateField name))
      else (value d).map fun update => (name :: seen, update r)

/-- A record after more members. -/
def takeAll (meaning : Meaning ρ) (state : List String × ρ) (members : List Member) :
    Except ReadError (List String × ρ) :=
  members.foldlM meaning.take state

end Meaning

namespace Form

variable {ρ : Type}

/-- The fields of the form make of documents what `meaning` says. -/
def Means (form : Form ρ) (meaning : Meaning ρ) : Prop :=
  ∀ name, Option.Rel
    (fun field value => ∀ d ts, field.read (d.tokens ++ ts) = (value d).map (·, ts))
    (form.field? name) (meaning name)

variable {form : Form ρ} {meaning : Meaning ρ}

/-- The name of a member is found behind the comma, or at once if the member is the first. -/
theorem nextName_member (isFirst : Bool) (name : String) (ts : List Token) :
    nextName isFirst ((if isFirst then [] else [.comma]) ++ .string (some name) :: ts) =
      .ok (some name, ts) := by
  cases isFirst <;> rfl

/-- The next member. -/
theorem readMembers_member (hform : form.Means meaning) (bound : Nat) (isFirst : Bool)
    (seen : List String) (r : ρ) (name : String) (d : Document) (ts : List Token) :
    form.readMembers (bound + 1) isFirst seen r
        ((if isFirst then [] else [.comma]) ++
          .string (some name) :: .colon :: (d.tokens ++ ts)) =
      (meaning.take (seen, r) (name, d)).bind fun state =>
        form.readMembers bound false state.1 state.2 ts := by
  have hfield := hform name
  rw [readMembers, nextName_member, Meaning.take]
  simp only [bind, Except.bind]
  cases hf : form.field? name with
  | none =>
    cases hm : meaning name with
    | none => simp only [readColon, Document.pass_tokens]
    | some value =>
      rw [hf, hm] at hfield
      cases hfield
  | some field =>
    cases hm : meaning name with
    | none =>
      rw [hf, hm] at hfield
      cases hfield
    | some value =>
      rw [hf, hm] at hfield
      cases hfield with | some hread
      by_cases hseen : seen.contains name
      · simp only [if_pos hseen, unfit]
      · simp only [if_neg hseen, readColon, hread]
        cases value d <;> rfl

/-- **A record that is written as an object is its members taken one by one.** -/
theorem readMembers_tokens (hform : form.Means meaning) (bound : Nat) (isFirst : Bool)
    (seen : List String) (r : ρ) (members : List Member) (ts : List Token) :
    form.readMembers (members.length + bound) isFirst seen r (memberTokens isFirst members ++ ts) =
      (meaning.takeAll (seen, r) members).bind fun state =>
        form.readMembers bound (isFirst && members.isEmpty) state.1 state.2 ts := by
  induction members generalizing isFirst seen r with
  | nil =>
    rw [List.isEmpty_nil, Bool.and_true, List.length_nil, Nat.zero_add]
    rfl
  | cons m rest ih =>
    have hbound : (m :: rest).length + bound = rest.length + bound + 1 := by
      rw [List.length_cons]
      omega
    rw [memberTokens_cons_append, hbound, readMembers_member hform, Meaning.takeAll,
      List.foldlM_cons]
    cases meaning.take (seen, r) m with
    | error e => rfl
    | ok state =>
      rw [List.isEmpty_cons, Bool.and_false]
      exact ih false state.1 state.2

/-- The tokens of an object leave room for its members. -/
theorem exists_bound (members : List Member) (ts : List Token) :
    ∃ bound, (memberTokens true members ++ ts).length + 1 = members.length + (bound + 1) := by
  have hlength := length_le_memberTokens true members
  refine ⟨(memberTokens true members).length - members.length + ts.length, ?_⟩
  rw [List.length_append]
  omega

/-- What a record that need not be complete is after its last member. -/
theorem read_ofMembers (hform : form.Means meaning) (hcomplete : form.complete = false)
    (members : List Member) :
    form.read (Document.ofMembers members).tokens =
      (meaning.takeAll ([], form.start) members).map fun state => (state.2, []) := by
  obtain ⟨bound, hbound⟩ := exists_bound members [.closeObject]
  rw [tokens_ofMembers, Form.read, hbound, readMembers_tokens hform]
  cases meaning.takeAll ([], form.start) members with
  | error e => rfl
  | ok state =>
    have hend : form.missing? state.1 = none := by simp [missing?, hcomplete]
    simp [Except.bind, readMembers, nextName, hend, bind, Except.map]

/-- What is wrong with a member of a record is wrong whatever comes after it. -/
theorem read_of_error (hform : form.Means meaning) {members : List Member} {e : ReadError}
    (h : meaning.takeAll ([], form.start) members = .error e) (ts : List Token) :
    form.read (.openObject :: (memberTokens true members ++ ts)) = .error e := by
  obtain ⟨bound, hbound⟩ := exists_bound members ts
  rw [Form.read, hbound, readMembers_tokens hform, h]
  rfl

/-- A member whose name is no text breaks the text. -/
theorem read_of_half_name (hform : form.Means meaning) {members : List Member}
    {state : List String × ρ} (h : meaning.takeAll ([], form.start) members = .ok state)
    (ts : List Token) :
    form.read (.openObject :: (memberTokens true members ++
      ((if members.isEmpty then [] else [.comma]) ++ .string none :: ts))) =
        .error (.broken .malformed) := by
  obtain ⟨bound, hbound⟩ :=
    exists_bound members ((if members.isEmpty then [] else [.comma]) ++ .string none :: ts)
  rw [Form.read, hbound, readMembers_tokens hform, h]
  cases members <;> rfl

end Form

end ChangeAudit.Json
