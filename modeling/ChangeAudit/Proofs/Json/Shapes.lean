/-
# Records in either shape

What a reader takes from the front of the tokens is decided by the document that stands there
(`Takes`): a value, or what is wrong with it.  This holds of the readers of single values and of
arrays, and of a record if it holds of its fields (`Form.takes`).  So a record is described by what
it makes of a document, and both shapes by the same means:

* an array is taken like an object that names the fields in their order, and then its length is
  looked at (`Form.ofItems`);
* an object is its members taken one by one, and then the names are looked at that have not been
  seen (`Form.ofNamed`).

Members with other names count for nothing (`Meaning.takeAll_filter`), but their names have to be
texts as well (`Form.none_not_mem_of_ofNamed`).  Where a record has to be complete, an object that
is accepted has each field exactly once (`Form.count_of_ofNamed`).
-/
import Mathlib.Data.List.Nodup
import ChangeAudit.Proofs.Json.Reading

namespace ChangeAudit.Json

/-- The reader takes from a document what `value` makes of it, and leaves what comes after. -/
def Takes {α : Type} (read : Reader α) (value : Document → Except ReadError α) : Prop :=
  ∀ d ts, read (d.tokens ++ ts) = (value d).map (·, ts)

/-- What comes to a result in two steps has a result after the first. -/
theorem exists_of_bind_eq_ok {α β : Type} {first : Except ReadError α}
    {next : α → Except ReadError β} {b : β} (h : first.bind next = .ok b) :
    ∃ a, first = .ok a ∧ next a = .ok b := by
  cases first with
  | error e => cases h
  | ok a => exact ⟨a, rfl, h⟩

/-! ## 1. Single values -/

namespace Document

/-- A document as a text. -/
def asText (expected : String) : Document → Except ReadError String
  | .text (some s) => .ok s
  | d => .error (d.refusal expected)

/-- A document as a whole number of 64 bits with sign. -/
def asInt64 : Document → Except ReadError Int64
  | .number n =>
    match n.integer? with
    | some i =>
      if i ≤ maxSigned then .ok (Int64.ofInt i)
      else .error (.unfit (.wrongValue (.number (.integer i)) "i64"))
    | none => .error ((Document.number n).refusal "i64")
  | d => .error (d.refusal "i64")

/-- A document as an array. -/
def asList {α : Type} (value : Document → Except ReadError α) : Document → Except ReadError (List α)
  | .array items => items.mapM value
  | d => .error (d.refusal "a sequence")

end Document

open Document

/-- What is refused is refused whatever comes after. -/
theorem refuse_eq_map {α : Type} (expected : String) (d : Document) (ts : List Token) :
    refuse expected (d.tokens ++ ts) =
      (Except.error (d.refusal expected) : Except ReadError α).map (·, ts) :=
  refuse_tokens expected d ts

theorem takes_text (expected : String) : Takes (readText expected) (asText expected) := by
  intro d ts
  have hrefuse := refuse_eq_map (α := String) expected d ts
  cases d with
  | text s =>
    cases s with
    | none => exact hrefuse
    | some s => rfl
  | null | bool | number => exact hrefuse
  | array items => cases items <;> exact hrefuse
  | object members => cases members <;> exact hrefuse

theorem takes_text? : Takes readText? asText? := readText?_tokens

theorem takes_bool : Takes readBool asBool := readBool_tokens

theorem takes_variant {α : Type} (known : List (String × α)) :
    Takes (readVariant known) (asVariant known) := readVariant_tokens known

theorem takes_int64 : Takes readInt64 asInt64 := by
  intro d ts
  have hrefuse := refuse_eq_map (α := Int64) "i64" d ts
  cases d with
  | number n =>
    rw [Document.tokens, List.cons_append, List.nil_append] at hrefuse ⊢
    rw [readInt64, asInt64]
    cases n.integer? with
    | none => exact hrefuse
    | some i =>
      dsimp only
      split <;> rfl
  | null | bool | text => exact hrefuse
  | array items => cases items <;> exact hrefuse
  | object members => cases members <;> exact hrefuse

/-- A field takes what its reader takes, and stores it. -/
theorem Takes.field {ρ β : Type} {read : Reader β} {value : Document → Except ReadError β}
    (h : Takes read value) (name : String) (store : ρ → β → ρ) :
    Takes (Field.of name read store).read fun d => (value d).map fun b r => store r b := by
  intro d ts
  simp only [Field.of, h d ts]
  cases value d <;> rfl

/-! ## 2. Arrays -/

section Arrays

variable {α : Type} {element : Reader α} {value : Document → Except ReadError α}

/-- The elements after the first. -/
theorem Takes.more (h : Takes element value) {bound : Nat} {items : List Document}
    (hbound : items.length < bound) (ts : List Token) :
    readElements element bound false (moreItems items ++ ts) = (items.mapM value).map (·, ts) := by
  induction items generalizing bound with
  | nil =>
    obtain ⟨bound, rfl⟩ := Nat.exists_eq_add_one.mpr hbound
    rfl
  | cons d items ih =>
    obtain ⟨bound, rfl⟩ := Nat.exists_eq_add_one.mpr (Nat.zero_lt_of_lt hbound)
    have hrest := ih (Nat.lt_of_succ_lt_succ hbound)
    rw [moreItems, List.cons_append, List.append_assoc, readElements, nextElement_comma,
      List.mapM_cons]
    simp only [bind, Except.bind, if_true, h d]
    cases value d with
    | error e => rfl
    | ok x =>
      simp only [Except.map, hrest]
      cases items.mapM value <;> rfl

/-- **An array is its elements taken one by one.** -/
theorem Takes.list (h : Takes element value) : Takes (readList element) (asList value) := by
  intro d ts
  have hrefuse := refuse_eq_map (α := List α) "a sequence" d ts
  cases d with
  | array items =>
    cases items with
    | nil => rfl
    | cons d items =>
      have hroom := length_lt_moreItems items
      have hbound : items.length < (d.tokens ++ (moreItems items ++ ts)).length := by
        rw [List.length_append, List.length_append]
        omega
      rw [Document.tokens, List.cons_append, readList, List.append_assoc, readElements,
        nextElement_first, asList, List.mapM_cons]
      simp only [bind, Except.bind, if_true, h d]
      cases value d with
      | error e => rfl
      | ok x =>
        simp only [Except.map, h.more hbound]
        cases items.mapM value <;> rfl
  | null | bool | number | text => exact hrefuse
  | object members => cases members <;> exact hrefuse

end Arrays

/-! ## 3. Records -/

namespace Meaning

variable {ρ : Type}

/-- What fields make of documents, from a list. -/
def ofList (values : List (String × (Document → Except ReadError (ρ → ρ)))) : Meaning ρ :=
  fun name => values.lookup name

/-- One more member, whose name may not be a text. -/
def takeNamed (meaning : Meaning ρ) (state : List String × ρ) :
    Option String × Document → Except ReadError (List String × ρ)
  | (some name, d) => meaning.take state (name, d)
  | (none, _) => .error (.broken .malformed)

variable {meaning : Meaning ρ}

theorem takeAll_cons (state : List String × ρ) (m : Member) (members : List Member) :
    meaning.takeAll state (m :: members) =
      (meaning.take state m).bind fun state => meaning.takeAll state members := rfl

theorem foldlM_takeNamed_map (state : List String × ρ) (members : List Member) :
    (members.map fun m => (some m.1, m.2)).foldlM meaning.takeNamed state =
      meaning.takeAll state members := by
  rw [List.foldlM_map]
  rfl

/-- A member that names no field counts for nothing. -/
theorem take_of_unknown {m : Member} (hm : meaning m.1 = none) (state : List String × ρ) :
    meaning.take state m = .ok state := by
  rw [take, hm]

/-- A field that has not been seen is taken for what it means. -/
theorem take_of_unseen {name : String} {value : Document → Except ReadError (ρ → ρ)}
    (hvalue : meaning name = some value) {seen : List String} (hseen : name ∉ seen) (r : ρ)
    (d : Document) :
    meaning.take (seen, r) (name, d) =
      (value d).map fun update => (name :: seen, update r) := by
  have hcontains : ¬seen.contains name = true := by simpa using hseen
  rw [take, hvalue]
  exact if_neg hcontains

/-- Two fields, one after the other. -/
theorem takeAll_pair {name name' : String} {value value' : Document → Except ReadError (ρ → ρ)}
    (hvalue : meaning name = some value) (hvalue' : meaning name' = some value')
    (hne : name' ≠ name) (r : ρ) (d d' : Document) :
    meaning.takeAll ([], r) [(name, d), (name', d')] =
      (value d).bind fun update => (value' d').map fun update' =>
        ([name', name], update' (update r)) := by
  rw [takeAll_cons, take_of_unseen hvalue List.not_mem_nil]
  cases value d with
  | error e => rfl
  | ok update =>
    simp only [Except.map, Except.bind]
    rw [takeAll_cons, take_of_unseen hvalue' (by simpa using hne)]
    cases value' d' <;> rfl

/-- **Only the members count that name a field.** -/
theorem takeAll_filter (state : List String × ρ) (members : List Member) :
    meaning.takeAll state (members.filter fun m => (meaning m.1).isSome) =
      meaning.takeAll state members := by
  induction members generalizing state with
  | nil => rfl
  | cons m members ih =>
    rw [List.filter_cons]
    cases hm : meaning m.1 with
    | none =>
      rw [Option.isSome_none, if_neg Bool.false_ne_true, takeAll_cons, take_of_unknown hm]
      exact ih state
    | some value =>
      rw [Option.isSome_some, if_pos rfl, takeAll_cons, takeAll_cons]
      exact congrArg _ (funext ih)

/-- A member that is taken, and names a field, is the first to do so. -/
theorem seen_of_takeNamed {state state' : List String × ρ} {m : Option String × Document}
    (h : meaning.takeNamed state m = .ok state') :
    (state.1.Nodup → state'.1.Nodup) ∧
      ∀ name, (meaning name).isSome = true →
        state'.1.count name = state.1.count name + [m.1].count (some name) := by
  obtain ⟨seen, r⟩ := state
  obtain ⟨name? | name, d⟩ := m
  · cases h
  · rw [takeNamed, take] at h
    cases hm : meaning name with
    | none =>
      rw [hm] at h
      obtain rfl := Except.ok.inj h
      refine ⟨id, fun name' hname' => ?_⟩
      have hne : ¬(some name == some name') = true := by
        rintro heq
        rw [beq_iff_eq, Option.some.injEq] at heq
        rw [← heq, hm] at hname'
        cases hname'
      rw [List.count_singleton, if_neg hne, Nat.add_zero]
    | some value =>
      rw [hm] at h
      dsimp only at h
      split at h
      · cases h
      · rename_i hseen
        cases hvalue : value d with
        | error e =>
          rw [hvalue] at h
          cases h
        | ok update =>
          rw [hvalue] at h
          obtain rfl := Except.ok.inj h
          refine ⟨fun hnodup => List.nodup_cons.mpr ⟨by simpa using hseen, hnodup⟩, ?_⟩
          intro name' _
          rw [List.count_cons, List.count_singleton]
          rfl

/-- So the names that were seen are different, and as many as the members that name a field. -/
theorem seen_of_foldlM {state state' : List String × ρ} {members : List (Option String × Document)}
    (h : members.foldlM meaning.takeNamed state = .ok state') :
    (state.1.Nodup → state'.1.Nodup) ∧
      ∀ name, (meaning name).isSome = true →
        state'.1.count name = state.1.count name + (members.map (·.1)).count (some name) := by
  induction members generalizing state with
  | nil =>
    obtain rfl := Except.ok.inj h
    exact ⟨id, fun _ _ => rfl⟩
  | cons m members ih =>
    rw [List.foldlM_cons] at h
    obtain ⟨next, hm, hrest⟩ := exists_of_bind_eq_ok h
    obtain ⟨hnodup, hcount⟩ := seen_of_takeNamed hm
    obtain ⟨hnodup', hcount'⟩ := ih hrest
    refine ⟨hnodup' ∘ hnodup, fun name hname => ?_⟩
    have hone := hcount name hname
    have hmore := hcount' name hname
    rw [List.map_cons, ← List.singleton_append, List.count_append]
    omega

/-- Members that are taken have texts for their names, also those that count for nothing. -/
theorem none_not_mem_of_foldlM {state state' : List String × ρ}
    {members : List (Option String × Document)}
    (h : members.foldlM meaning.takeNamed state = .ok state') : none ∉ members.map (·.1) := by
  induction members generalizing state with
  | nil => exact List.not_mem_nil
  | cons m members ih =>
    rw [List.foldlM_cons] at h
    obtain ⟨next, hm, hrest⟩ := exists_of_bind_eq_ok h
    obtain ⟨_ | name, d⟩ := m
    · cases hm
    · rw [List.map_cons, List.mem_cons, not_or]
      exact ⟨nofun, ih hrest⟩

end Meaning

namespace Form

variable {ρ : Type}

/-- A record from an array of its first fields. -/
def ofItems (form : Form ρ) (meaning : Meaning ρ) (items : List Document) : Except ReadError ρ :=
  (meaning.takeAll ([], form.start) ((form.fields.map (·.name)).zip items)).bind fun state =>
    if form.fields.length < items.length then .error (.broken .malformed)
    else if form.complete && decide (items.length < form.fields.length) then
      .error (.unfit (.wrongLength items.length form.titleWithSize))
    else .ok state.2

/-- The record at the end of an object, if no name is missing. -/
def concluded (form : Form ρ) (state : List String × ρ) : Except ReadError ρ :=
  match form.missing? state.1 with
  | some name => .error (.unfit (.missingField name))
  | none => .ok state.2

/-- A record from the members of an object. -/
def ofNamed (form : Form ρ) (meaning : Meaning ρ) (members : List (Option String × Document)) :
    Except ReadError ρ :=
  (members.foldlM meaning.takeNamed ([], form.start)).bind form.concluded

/-- A record from a document. -/
def value (form : Form ρ) (meaning : Meaning ρ) : Document → Except ReadError ρ
  | .array items => form.ofItems meaning items
  | .object members => form.ofNamed meaning members
  | d => .error (d.refusal form.title)

variable {form : Form ρ} {meaning : Meaning ρ}

/-- The fields of a form mean what their readers take. -/
theorem means_ofList {values : List (String × (Document → Except ReadError (ρ → ρ)))}
    (h : List.Forall₂ (fun (field : Field ρ) entry =>
      field.name = entry.1 ∧ Takes field.read entry.2) form.fields values) :
    form.Means (.ofList values) := by
  intro name
  rw [field?, Meaning.ofList]
  generalize form.fields = fields at h
  induction h with
  | nil => exact .none
  | @cons field entry fields values hfield _ ih =>
    obtain ⟨hname, htakes⟩ := hfield
    by_cases heq : name = entry.1
    · rw [List.find?_cons_of_pos (by simp [hname, heq])]
      obtain ⟨key, value⟩ := entry
      obtain rfl := heq
      rw [List.lookup_cons_self]
      exact .some htakes
    · rw [List.find?_cons_of_neg (by simp [hname, Ne.symm heq])]
      obtain ⟨key, value⟩ := entry
      rw [List.lookup_cons, beq_false_of_ne heq]
      exact ih

/-- A field of the form has a meaning, which its reader takes. -/
theorem Means.exists_value (hform : form.Means meaning) {name : String} {field : Field ρ}
    (hfield : form.field? name = some field) :
    ∃ value, meaning name = some value ∧ Takes field.read value := by
  have hrel := hform name
  rw [hfield] at hrel
  cases hm : meaning name with
  | none =>
    rw [hm] at hrel
    cases hrel
  | some value =>
    rw [hm] at hrel
    cases hrel with | some htakes
    exact ⟨value, rfl, htakes⟩

/-! ## 4. A record as an array -/

/-- The tokens of an element, with a comma before all but the first. -/
theorem nextElement_item (isFirst : Bool) (d : Document) (ts : List Token) :
    nextElement isFirst ((if isFirst then [] else [.comma]) ++ (d.tokens ++ ts)) =
      .ok (true, d.tokens ++ ts) := by
  cases isFirst with
  | true => exact nextElement_first d ts
  | false => exact nextElement_comma d ts

/-- Nothing follows the last field. -/
theorem readClosing_item (isFirst : Bool) (d : Document) (ts : List Token) :
    readClosing .closeArray ((if isFirst then [] else [.comma]) ++ (d.tokens ++ ts)) =
      .error (.broken .malformed) := by
  cases isFirst with
  | true =>
    obtain ⟨t, rest, htokens, ht⟩ := d.exists_head ts
    rw [if_pos rfl, List.nil_append, htokens, readClosing, if_neg ht]
    rfl
  | false => rfl

/-- The elements of an array up to its end, with a comma before all but the first. -/
def itemTokens : (isFirst : Bool) → List Document → List Token
  | _, [] => [.closeArray]
  | isFirst, d :: items => (if isFirst then [] else [.comma]) ++ (d.tokens ++ itemTokens false items)

theorem itemTokens_more (items : List Document) : itemTokens false items = moreItems items := by
  induction items with
  | nil => rfl
  | cons d items ih =>
    rw [itemTokens, moreItems, ih]
    rfl

theorem tokens_array (items : List Document) :
    (Document.array items).tokens = .openArray :: itemTokens true items := by
  cases items with
  | nil => rfl
  | cons d items =>
    rw [Document.tokens, itemTokens, itemTokens_more, if_pos rfl, List.nil_append]

theorem itemTokens_cons_append (isFirst : Bool) (d : Document) (items : List Document)
    (ts : List Token) :
    itemTokens isFirst (d :: items) ++ ts =
      (if isFirst then [] else [.comma]) ++ (d.tokens ++ (itemTokens false items ++ ts)) := by
  simp [itemTokens]

/-- The elements for the fields after those of `before`: they are taken like members with the names
of these fields, and then their number is looked at. -/
theorem readInOrder_items (hnames : (form.fields.map (·.name)).Nodup) (hform : form.Means meaning)
    (before : List (Field ρ)) {after : List (Field ρ)} (hfields : form.fields = before ++ after)
    (items : List Document) (r : ρ) (ts : List Token) :
    form.readInOrder before.length r after (itemTokens (before.length = 0) items ++ ts) =
      (meaning.takeAll ((before.map (·.name)).reverse, r) ((after.map (·.name)).zip items)).bind
        fun state =>
          if after.length < items.length then .error (.broken .malformed)
          else if form.complete && decide (items.length < after.length) then
            .error (.unfit (.wrongLength (before.length + items.length) form.titleWithSize))
          else .ok (state.2, ts) := by
  induction after generalizing before items r with
  | nil =>
    rw [readInOrder, List.map_nil, List.zip_nil_left]
    cases items with
    | nil =>
      simp [itemTokens, readClosing, Meaning.takeAll, bind, Except.bind, pure, Except.pure]
    | cons d items =>
      rw [itemTokens_cons_append, readClosing_item, List.length_cons, List.length_nil]
      rfl
  | cons field after ih =>
    obtain ⟨hunseen, hfield⟩ := field?_of_nodup hnames hfields
    obtain ⟨value, hvalue, htakes⟩ := hform.exists_value hfield
    have hseen : field.name ∉ (before.map (·.name)).reverse := by
      rwa [List.mem_reverse]
    cases items with
    | nil =>
      have hend : nextElement (before.length = 0) (itemTokens (before.length = 0) [] ++ ts) =
          .ok (false, ts) := by
        cases decide (before.length = 0) <;> rfl
      rw [readInOrder, hend, List.zip_nil_right]
      cases form.complete <;> rfl
    | cons d items =>
      have hmore := ih (before ++ [field]) (by rw [hfields, List.append_assoc]; rfl) items
      have hlater : decide ((before ++ [field]).length = 0) = false := by simp
      rw [hlater, List.length_append, List.map_append, List.reverse_append] at hmore
      rw [itemTokens_cons_append, readInOrder, nextElement_item, List.map_cons, List.zip_cons_cons,
        Meaning.takeAll_cons, Meaning.take_of_unseen hvalue hseen]
      simp only [bind, Except.bind, if_true, htakes d]
      cases value d with
      | error e => rfl
      | ok update =>
        have hcount : before.length + (d :: items).length = before.length + 1 + items.length := by
          rw [List.length_cons]
          omega
        simp only [Except.map]
        rw [hcount]
        simp only [List.length_cons, Nat.add_lt_add_iff_right]
        exact hmore (update r)

/-! ## 5. A record as an object -/

/-- The end of an object. -/
theorem readMembers_end (isFirst : Bool) (bound : Nat) (state : List String × ρ) (ts : List Token) :
    form.readMembers (bound + 1) isFirst state.1 state.2 (.closeObject :: ts) =
      (form.concluded state).map (·, ts) := by
  simp only [readMembers, concluded, nextName, bind, Except.bind]
  cases form.missing? state.1 <;> rfl

/-- The next member, whether or not its name is a text. -/
theorem readMembers_named (hform : form.Means meaning) (bound : Nat) (isFirst : Bool)
    (state : List String × ρ) (m : Option String × Document) (ts : List Token) :
    form.readMembers (bound + 1) isFirst state.1 state.2
        ((if isFirst then [] else [.comma]) ++ .string m.1 :: .colon :: (m.2.tokens ++ ts)) =
      (meaning.takeNamed state m).bind fun state =>
        form.readMembers bound false state.1 state.2 ts := by
  obtain ⟨name? | name, d⟩ := m
  · cases isFirst <;> rfl
  · exact readMembers_member hform bound isFirst state.1 state.2 name d ts

/-- The members after the first, up to the end of the object. -/
theorem readMembers_more (hform : form.Means meaning) {bound : Nat}
    {members : List (Option String × Document)} (hbound : members.length < bound)
    (state : List String × ρ) (ts : List Token) :
    form.readMembers bound false state.1 state.2 (moreMembers members ++ ts) =
      ((members.foldlM meaning.takeNamed state).bind form.concluded).map (·, ts) := by
  induction members generalizing bound state with
  | nil =>
    obtain ⟨bound, rfl⟩ := Nat.exists_eq_add_one.mpr hbound
    exact readMembers_end false bound state ts
  | cons m members ih =>
    obtain ⟨bound, rfl⟩ := Nat.exists_eq_add_one.mpr (Nat.zero_lt_of_lt hbound)
    have hone := readMembers_named hform bound false state m (moreMembers members ++ ts)
    have htokens : moreMembers (m :: members) ++ ts =
        (if false then [] else [.comma]) ++
          .string m.1 :: .colon :: (m.2.tokens ++ (moreMembers members ++ ts)) := by
      simp [moreMembers]
    rw [htokens, hone, List.foldlM_cons]
    cases meaning.takeNamed state m with
    | error e => rfl
    | ok state => exact ih (Nat.lt_of_succ_lt_succ hbound) state

/-- Every member after the first has a token at least. -/
theorem length_lt_moreMembers (members : List (Option String × Document)) :
    members.length < (moreMembers members).length := by
  induction members with
  | nil => exact Nat.zero_lt_one
  | cons m members ih =>
    rw [moreMembers, List.length_cons]
    simp only [List.length_cons, List.length_append]
    omega

/-! ## 6. A record in either shape -/

/-- **A record takes what its fields make of a document**, in either shape. -/
theorem takes (hnames : (form.fields.map (·.name)).Nodup) (hform : form.Means meaning) :
    Takes form.read (form.value meaning) := by
  intro d ts
  have hrefuse := refuse_eq_map (α := ρ) form.title d ts
  cases d with
  | null | bool | number | text => exact hrefuse
  | array items =>
    have hitems := readInOrder_items hnames hform [] rfl items form.start ts
    rw [tokens_array, List.cons_append, read, value, ofItems]
    refine hitems.trans ?_
    rw [List.map_nil, List.reverse_nil, List.length_nil, Nat.zero_add]
    cases meaning.takeAll ([], form.start) ((form.fields.map (·.name)).zip items) with
    | error e => rfl
    | ok state =>
      simp only [Except.bind]
      split
      · rfl
      · split <;> rfl
  | object members =>
    rw [value, ofNamed]
    cases members with
    | nil => exact readMembers_end true _ ([], form.start) ts
    | cons m members =>
      have hroom := length_lt_moreMembers members
      have htokens : (Document.object (m :: members)).tokens ++ ts =
          .openObject :: .string m.1 :: .colon :: (m.2.tokens ++ (moreMembers members ++ ts)) := by
        simp [Document.tokens]
      rw [htokens, read, List.foldlM_cons]
      refine (readMembers_named hform _ true ([], form.start) m _).trans ?_
      cases meaning.takeNamed ([], form.start) m with
      | error e => rfl
      | ok state =>
        refine readMembers_more hform ?_ state ts
        simp only [List.length_cons, List.length_append]
        omega

/-- A record that need not be complete is read alike from an array and from an object that names the
fields in their order. -/
theorem value_array_eq (hcomplete : form.complete = false) {items : List Document}
    (hlength : items.length ≤ form.fields.length) :
    form.value meaning (.array items) =
      form.value meaning (.ofMembers ((form.fields.map (·.name)).zip items)) := by
  rw [value, ofItems, ofMembers, value, ofNamed, Meaning.foldlM_takeNamed_map]
  cases meaning.takeAll ([], form.start) ((form.fields.map (·.name)).zip items) with
  | error e => rfl
  | ok state =>
    simp only [Except.bind, concluded, missing?, hcomplete, Bool.false_and, Bool.false_eq_true,
      if_false, if_neg (Nat.not_lt.mpr hlength)]

/-- An array that is accepted has no more elements than there are fields, and no fewer if the record
has to be complete. -/
theorem length_of_ofItems {items : List Document} {r : ρ}
    (h : form.ofItems meaning items = .ok r) :
    items.length ≤ form.fields.length ∧
      (form.complete = true → items.length = form.fields.length) := by
  rw [ofItems] at h
  obtain ⟨state, -, hrest⟩ := exists_of_bind_eq_ok h
  split at hrest
  · cases hrest
  · split at hrest
    · cases hrest
    · rename_i hlong hshort
      refine ⟨Nat.not_lt.mp hlong, fun hcomplete => ?_⟩
      rw [hcomplete, Bool.true_and, decide_eq_true_eq] at hshort
      omega

/-- An object that is accepted has texts for the names of its members. -/
theorem none_not_mem_of_ofNamed {members : List (Option String × Document)} {r : ρ}
    (h : form.ofNamed meaning members = .ok r) : none ∉ members.map (·.1) := by
  rw [ofNamed] at h
  obtain ⟨state, hstate, -⟩ := exists_of_bind_eq_ok h
  exact Meaning.none_not_mem_of_foldlM hstate

/-- **An object that is accepted as a complete record names each field exactly once.** -/
theorem count_of_ofNamed (hform : form.Means meaning) (hcomplete : form.complete = true)
    {members : List (Option String × Document)} {r : ρ} (h : form.ofNamed meaning members = .ok r)
    {name : String} (hname : name ∈ form.fields.map (·.name)) :
    (members.map (·.1)).count (some name) = 1 := by
  have hmeant : (meaning name).isSome = true := by
    obtain ⟨field, hmem, rfl⟩ := List.mem_map.mp hname
    cases hfield : form.field? field.name with
    | none => exact absurd (beq_self_eq_true field.name) (List.find?_eq_none.mp hfield field hmem)
    | some found =>
      obtain ⟨value, hvalue, -⟩ := hform.exists_value hfield
      rw [hvalue]
      rfl
  rw [ofNamed] at h
  obtain ⟨state, hstate, hrest⟩ := exists_of_bind_eq_ok h
  obtain ⟨hnodup, hcount⟩ := Meaning.seen_of_foldlM hstate
  have hone := hcount name hmeant
  rw [List.count_nil, Nat.zero_add] at hone
  rw [concluded] at hrest
  split at hrest
  · cases hrest
  · rename_i hmissing
    rw [missing?, hcomplete, if_pos rfl, List.find?_eq_none] at hmissing
    have hseen := hmissing name hname
    rw [← hone]
    exact List.count_eq_one_of_mem (hnodup List.nodup_nil) (by simpa using hseen)

end Form

/-! ## 7. Whole texts -/

/-- The text spells this document, with any blanks between its tokens. -/
def Document.WrittenAs (d : Document) (text : String) : Prop := Layout [] d.tokens text.toList

/-- What a text holds is what the reader takes from its document. -/
theorem Takes.readWhole_eq {α : Type} {read : Reader α} {value : Document → Except ReadError α}
    (h : Takes read value) {d : Document} {text : String} (htext : d.WrittenAs text) :
    readWhole read text = value d := by
  have hread := h d []
  have htokens : Json.tokens text.toList = d.tokens ++ [] := tokens_of_layout htext
  rw [readWhole, htokens, hread]
  cases value d <;> rfl

end ChangeAudit.Json
