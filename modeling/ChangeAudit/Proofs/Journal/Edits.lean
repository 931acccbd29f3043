/-
# What a mutation does, entry by entry

A mutation changes the items and gathers into the pending change.  Both follow one sequence of
entries, which depends on the mutation and the items alone (`Mutation.entries`): the pending change
gathers the entries (`Journal.apply_pending`), and the items are edited by them
(`Journal.apply_edits`).  In particular an element is recorded as removed only when it is there.

The one exception is a selector that panics.  It leaves no items at all and nothing recorded, so
no sequence of entries leads from the old items to the new ones.
-/
import ChangeAudit.Journal
import ChangeAudit.Proofs.Entries

namespace ChangeAudit

open Counting
open scoped List

variable {α : Type}

/-! ## 1. Editing by entries -/

/-- Entries lead from one list to another: an added element joins, a removed one has to be there
and leaves.  Where an element joins or leaves does not matter. -/
inductive Edits : List α → List (Entry α) → List α → Prop where
  | done {xs ys : List α} (h : xs ~ ys) : Edits xs [] ys
  | added {xs ys : List α} {es : List (Entry α)} (x : α) (h : Edits (x :: xs) es ys) :
      Edits xs (.added x :: es) ys
  | removed {xs rest ys : List α} {es : List (Entry α)} (x : α) (hx : xs ~ x :: rest)
      (h : Edits rest es ys) : Edits xs (.removed x :: es) ys

namespace Edits

/-- Additions only. -/
theorem of_added {xs ys : List α} (new : List α) (h : new ++ xs ~ ys) :
    Edits xs (new.map .added) ys := by
  induction new generalizing xs with
  | nil => exact .done h
  | cons x new ih => exact .added x (ih (List.perm_middle.trans h))

/-- Removals only. -/
theorem of_removed {xs ys : List α} (out : List α) (h : xs ~ out ++ ys) :
    Edits xs (out.map .removed) ys := by
  induction out generalizing xs with
  | nil => exact .done h
  | cons x out ih => exact .removed x h (ih (.refl _))

/-- **Items and gathered change move alike**: what is in excess of the net effect of the gathered
change stays what it was. -/
theorem count_sub_net [BEq α] [PartialEquivBEq α] {xs ys : List α} {es : List (Entry α)}
    (h : Edits xs es ys) (c : Change α) (x : α) :
    (ys.count x : Int) - (c.recordAll es).net x = xs.count x - c.net x := by
  induction h generalizing c with
  | done h => rw [Change.recordAll_nil, h.count_eq]
  | @added xs ys es y _ ih =>
    rw [Change.recordAll_cons, ih, Change.net_record, Change.net_alone_added, count_cons_add y xs]
    omega
  | @removed xs rest ys es y hy _ ih =>
    rw [Change.recordAll_cons, ih, Change.net_record, Change.net_alone_removed, hy.count_eq,
      count_cons_add y rest]
    omega

/-- Sizes move alike, too. -/
theorem length_sub_growth [BEq α] {xs ys : List α} {es : List (Entry α)}
    (h : Edits xs es ys) (c : Change α) :
    (ys.length : Int) - (c.recordAll es).growth = xs.length - c.growth := by
  induction h generalizing c with
  | done h => rw [Change.recordAll_nil, h.length_eq]
  | @added xs ys es y _ ih =>
    rw [Change.recordAll_cons, ih, Change.growth_record]
    simp only [Change.growth, Entry.alone, Change.ofAdded, List.length_cons, List.length_nil]
    omega
  | @removed xs rest ys es y hy _ ih =>
    rw [Change.recordAll_cons, ih, Change.growth_record, hy.length_eq]
    simp only [Change.growth, Entry.alone, Change.ofRemoved, List.length_cons, List.length_nil]
    omega

end Edits

/-! ## 2. The entries of a mutation -/

/-- What a mutation of `items` records, in order. -/
def Mutation.entries [BEq α] (items : List α) : Mutation α → List (Entry α)
  | .push x => [.added x]
  | .extend xs _ => xs.map .added
  | .remove x =>
    match items.find? (· == x) with
    | none => []
    | some y => [.removed y]
  | .removeWhere selector =>
    match Journal.select selector [] items with
    | none => []
    | some (out, _) => out.map .removed
  | .clear => items.map .removed
  | .replace old new =>
    match items.find? (· == old) with
    | none => []
    | some y => [.removed y, .added new]

namespace Journal

theorem eq_nil_of_select {selector : Selector α} {earlier out kept : List α}
    (h : select selector earlier [] = some (out, kept)) : out = [] ∧ kept = [] := by
  simp only [select, Option.some.injEq, Prod.mk.injEq] at h
  exact ⟨h.1.symm, h.2.symm⟩

/-- What became of the first element, and how the visit went on. -/
theorem select_cons_cases {selector : Selector α} {earlier rest out kept : List α} {x : α}
    (h : select selector earlier (x :: rest) = some (out, kept)) :
    (∃ out', out = x :: out' ∧ selector earlier x = some true ∧
      select selector (earlier ++ [x]) rest = some (out', kept)) ∨
    ∃ kept', kept = x :: kept' ∧ selector earlier x = some false ∧
      select selector (earlier ++ [x]) rest = some (out, kept') := by
  simp only [select] at h
  split at h
  · cases h
  · rename_i chosen hx
    split at h
    · cases h
    · rename_i restOut restKept hrest
      cases chosen with
      | true =>
        simp only [if_true, Option.some.injEq, Prod.mk.injEq] at h
        obtain ⟨rfl, rfl⟩ := h
        exact Or.inl ⟨restOut, rfl, hx, hrest⟩
      | false =>
        simp only [Bool.false_eq_true, if_false, Option.some.injEq, Prod.mk.injEq] at h
        obtain ⟨rfl, rfl⟩ := h
        exact Or.inr ⟨restKept, rfl, hx, hrest⟩

/-- Those selected and those not selected are all the elements. -/
theorem perm_of_select {selector : Selector α} {earlier items out kept : List α}
    (h : select selector earlier items = some (out, kept)) : items ~ out ++ kept := by
  induction items generalizing earlier out kept with
  | nil =>
    obtain ⟨rfl, rfl⟩ := eq_nil_of_select h
    exact .refl _
  | cons x rest ih =>
    rcases select_cons_cases h with ⟨out', rfl, -, hrest⟩ | ⟨kept', rfl, -, hrest⟩
    · exact (ih hrest).cons x
    · exact ((ih hrest).cons x).trans List.perm_middle.symm

/-- Replacing an element takes it out and puts the new one in. -/
theorem perm_replaceFirst [BEq α] {items : List α} {old y : α} (new : α)
    (h : items.find? (· == old) = some y) :
    new :: items.eraseP (· == old) ~ replaceFirst items old new := by
  induction items with
  | nil => cases h
  | cons x rest ih =>
    by_cases hx : (x == old) = true
    · rw [List.eraseP_cons_of_pos (p := (· == old)) hx, replaceFirst, if_pos hx]
    · rw [List.find?_cons_of_neg (p := (· == old)) hx] at h
      rw [List.eraseP_cons_of_neg (p := (· == old)) hx, replaceFirst, if_neg hx]
      exact (List.Perm.swap x new _).trans ((ih h).cons x)

/-! ## 3. Carrying out a mutation -/

/-- **The pending change gathers the entries of the mutation.** -/
theorem apply_pending [BEq α] (j : Journal α) (m : Mutation α) :
    (j.apply m).1.pending = j.pending.recordAll (m.entries j.items) := by
  cases m with
  | push x => rfl
  | extend xs interrupted => exact (Change.recordAll_map_added _ _).symm
  | remove x =>
    simp only [apply, Mutation.entries]
    cases j.items.find? (· == x) <;> rfl
  | removeWhere selector =>
    simp only [apply, Mutation.entries]
    cases select selector [] j.items with
    | none => rfl
    | some parts => exact (Change.recordAll_map_removed _ _).symm
  | clear => exact (Change.recordAll_map_removed _ _).symm
  | replace old new =>
    simp only [apply, Mutation.entries]
    cases j.items.find? (· == old) <;> rfl

/-- **The items are edited by the entries of the mutation**, unless a selector panics. -/
theorem apply_edits [BEq α] (j : Journal α) (m : Mutation α)
    (h : (j.apply m).2 ≠ .error .predicate) :
    Edits j.items (m.entries j.items) (j.apply m).1.items := by
  cases m with
  | push x => exact .of_added [x] List.perm_append_comm
  | extend xs interrupted => exact .of_added xs List.perm_append_comm
  | remove x =>
    simp only [apply, Mutation.entries]
    cases hx : j.items.find? (· == x) with
    | none => exact .done (.refl _)
    | some y => exact .of_removed [y] (perm_cons_eraseP hx)
  | removeWhere selector =>
    simp only [apply, Mutation.entries] at h ⊢
    cases hparts : select selector [] j.items with
    | none =>
      rw [hparts] at h
      exact absurd rfl h
    | some parts => exact .of_removed parts.1 (perm_of_select hparts)
  | clear => exact .of_removed j.items (.of_eq (List.append_nil _).symm)
  | replace old new =>
    simp only [apply, Mutation.entries]
    cases hy : j.items.find? (· == old) with
    | none => exact .done (.refl _)
    | some y =>
      exact .removed y (perm_cons_eraseP hy) (.of_added [new] (perm_replaceFirst new hy))

/-- Only the code of the caller cuts a mutation short. -/
theorem apply_error [BEq α] {j : Journal α} {m : Mutation α} {cause : Panic}
    (h : (j.apply m).2 = .error cause) : cause = .iterator ∨ cause = .predicate := by
  cases m with
  | push x => cases h
  | extend xs interrupted =>
    cases interrupted with
    | false => cases h
    | true =>
      cases h
      exact Or.inl rfl
  | remove x =>
    simp only [apply] at h
    cases hx : j.items.find? (· == x) <;> rw [hx] at h <;> cases h
  | removeWhere selector =>
    simp only [apply] at h
    cases hparts : select selector [] j.items <;> rw [hparts] at h <;> cases h
    exact Or.inr rfl
  | clear => cases h
  | replace old new =>
    simp only [apply] at h
    cases hy : j.items.find? (· == old) <;> rw [hy] at h <;> cases h

/-- **A selector that panics leaves no items and records nothing.**  There was an item, for it
panicked on one. -/
theorem apply_of_predicate [BEq α] {j : Journal α} {m : Mutation α}
    (h : (j.apply m).2 = .error .predicate) :
    (j.apply m).1 = { j with items := [] } ∧ m.entries j.items = [] ∧ j.items ≠ [] := by
  cases m with
  | push x => cases h
  | extend xs interrupted => cases interrupted <;> cases h
  | remove x =>
    simp only [apply] at h
    cases hx : j.items.find? (· == x) <;> rw [hx] at h <;> cases h
  | removeWhere selector =>
    simp only [apply, Mutation.entries] at h ⊢
    cases hparts : select selector [] j.items with
    | none =>
      refine ⟨rfl, rfl, fun hnil => ?_⟩
      rw [hnil] at hparts
      cases hparts
    | some parts =>
      rw [hparts] at h
      cases h
  | clear => cases h
  | replace old new =>
    simp only [apply] at h
    cases hy : j.items.find? (· == old) <;> rw [hy] at h <;> cases h

end Journal

end ChangeAudit
