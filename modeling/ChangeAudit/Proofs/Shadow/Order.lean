/-
# Replays that keep the order

A change carries no positions.  Its replay takes the first of equal elements out of the base and
puts the additions at the end, and it may well lead to the very items of the list, each in its place
(`Change.LeadsTo`).

Gathering an addition keeps this up, for the list puts it at the end as well.  A removal takes the
first of equal elements out of the list, but out of the change it takes a waiting addition before
anything else.  If an equal element of the base is still there, the list loses that one, and the
replay the addition.  This cannot happen while nothing is waiting, nor in a list whose elements are
all different (`Change.LeadsTo.recordRemoved`).
-/
import ChangeAudit.Proofs.Journal.Edits
import ChangeAudit.Shadow

namespace ChangeAudit

open scoped List

variable {α : Type} [BEq α]

/-! ## 1. Different elements -/

/-- No element of the one list equals one of the other. -/
def Apart (xs ys : List α) : Prop := ∀ x ∈ xs, ∀ y ∈ ys, (x == y) = false

/-- No two elements of the list are equal. -/
def Distinct (xs : List α) : Prop := xs.Pairwise fun x y => (x == y) = false

instance (xs : List α) : Decidable (Distinct xs) :=
  inferInstanceAs (Decidable (xs.Pairwise fun x y => (x == y) = false))

theorem Distinct.eraseP {xs : List α} (h : Distinct xs) (p : α → Bool) : Distinct (xs.eraseP p) :=
  List.Pairwise.sublist (List.eraseP_sublist) h

theorem Distinct.apart {xs ys : List α} (h : Distinct (xs ++ ys)) : Apart xs ys :=
  (List.pairwise_append.mp h).2.2

/-- The order of the elements makes no difference. -/
theorem Distinct.perm [PartialEquivBEq α] {xs ys : List α} (h : Distinct xs) (hp : xs ~ ys) :
    Distinct ys :=
  (hp.pairwise_iff fun h => BEq.symm_false h).mp h

/-! ## 2. Taking out, in order -/

namespace Shadow

/-- Taking out goes on with the rest, whether or not the first one was found. -/
theorem takeOut_cons_left (items : List α) (x : α) (xs : List α) :
    (takeOut items (x :: xs)).left = (takeOut (items.eraseP (· == x)) xs).left := by
  rw [takeOut]
  cases h : items.any (· == x) with
  | true => rw [if_pos rfl]
  | false =>
    rw [if_neg Bool.false_ne_true, List.eraseP_of_forall_not]
    intro y hy
    exact List.any_eq_false.mp h y hy

theorem takeOut_append_left (items xs ys : List α) :
    (takeOut items (xs ++ ys)).left = (takeOut (takeOut items xs).left ys).left := by
  induction xs generalizing items with
  | nil => rfl
  | cons x xs ih => rw [List.cons_append, takeOut_cons_left, takeOut_cons_left, ih]

/-- An element stays in front while what is taken out differs from it. -/
theorem takeOut_cons_of_apart {x : α} {out : List α} (h : ∀ y ∈ out, (x == y) = false)
    (items : List α) : (takeOut (x :: items) out).left = x :: (takeOut items out).left := by
  induction out generalizing items with
  | nil => rfl
  | cons y out ih =>
    have hxy : ¬(x == y) = true := by
      rw [h y List.mem_cons_self]
      exact Bool.false_ne_true
    rw [takeOut_cons_left, takeOut_cons_left, List.eraseP_cons_of_neg (p := (· == y)) hxy]
    exact ih (fun z hz => h z (List.mem_cons_of_mem y hz)) _

variable [EquivBEq α]

/-- Taking out the first element takes out that very one. -/
theorem takeOut_cons_self (x : α) (items out : List α) :
    (takeOut (x :: items) (x :: out)).left = (takeOut items out).left := by
  rw [takeOut_cons_left, List.eraseP_cons_of_pos (p := (· == x)) (BEq.refl x)]

theorem takeOut_self_left (items : List α) : (takeOut items items).left = [] := by
  induction items with
  | nil => rfl
  | cons x items ih => rw [takeOut_cons_self, ih]

/-- **Taking the selected elements out leaves those that were kept, in order**, if none of these
equals one of those. -/
theorem takeOut_of_select {selector : Selector α} {earlier items out kept : List α}
    (h : Journal.select selector earlier items = some (out, kept)) (hapart : Apart out kept) :
    (takeOut items out).left = kept := by
  induction items generalizing earlier out kept with
  | nil =>
    obtain ⟨rfl, rfl⟩ := Journal.eq_nil_of_select h
    rfl
  | cons x rest ih =>
    rcases Journal.select_cons_cases h with ⟨out', rfl, -, hrest⟩ | ⟨kept', rfl, -, hrest⟩
    · rw [takeOut_cons_self]
      exact ih hrest fun y hy => hapart y (List.mem_cons_of_mem x hy)
    · have hx : ∀ y ∈ out, (x == y) = false := fun y hy =>
        BEq.symm_false (hapart y hy x List.mem_cons_self)
      rw [takeOut_cons_of_apart hx, ih hrest]
      intro y hy z hz
      exact hapart y hy z (List.mem_cons_of_mem x hz)

end Shadow

/-! ## 3. Changes that lead to the items -/

namespace Change

open Shadow

/-- Replaying the change on the base leads to the items, each in its place. -/
def LeadsTo (c : Change α) (base items : List α) : Prop :=
  ((⟨base⟩ : Shadow α).apply c).1.items = items

namespace LeadsTo

variable {c : Change α} {base items : List α}

theorem refl (items : List α) : (.empty : Change α).LeadsTo items items := List.append_nil items

/-- Additions go to the end of the list, and of the change. -/
theorem recordAllAdded (h : c.LeadsTo base items) (xs : List α) :
    (c.recordAllAdded xs).LeadsTo base (items ++ xs) := by
  rw [recordAllAdded_eq, ← h]
  exact (List.append_assoc _ _ _).symm

/-- **A removal takes the same element out of both**, if nothing is waiting or all elements are
different. -/
theorem recordRemoved [PartialEquivBEq α] (h : c.LeadsTo base items)
    (hone : c.added = [] ∨ Distinct items) (y : α) :
    (c.recordRemoved y).LeadsTo base (items.eraseP (· == y)) := by
  have hitems : (takeOut base c.removed).left ++ c.added = items := h
  cases hw : c.added.any (· == y) with
  | true =>
    obtain ⟨z, hz, hzy⟩ := List.any_eq_true.mp hw
    rw [recordRemoved_of_waiting hw, ← hitems]
    rcases hone with hnone | hdistinct
    · rw [hnone] at hz
      cases hz
    · -- an equal element of the base would be a second one in the list
      rw [← hitems] at hdistinct
      refine (List.eraseP_append_right _ ?_).symm
      intro x hx hxy
      have hsame : (x == z) = true := BEq.trans hxy (BEq.symm hzy)
      rw [hdistinct.apart x hx z hz] at hsame
      cases hsame
  | false =>
    rw [recordRemoved_of_not_waiting hw, ← hitems]
    have hleft : (takeOut base (c.removed ++ [y])).left =
        (takeOut base c.removed).left.eraseP (· == y) := by
      rw [takeOut_append_left, takeOut_cons_left, takeOut]
    have hnone : ∀ x ∈ c.added, ¬(x == y) = true := List.any_eq_false.mp hw
    have herase : ((takeOut base c.removed).left ++ c.added).eraseP (· == y) =
        (takeOut base c.removed).left.eraseP (· == y) ++ c.added := by
      rw [List.eraseP_append]
      split
      · rfl
      · rename_i hany
        rw [List.eraseP_of_forall_not hnone, List.eraseP_of_forall_not]
        intro x hx hxy
        exact hany (List.any_eq_true.mpr ⟨x, hx, hxy⟩)
    rw [herase, ← hleft]
    rfl

/-- Removals, one after another. -/
theorem recordAllRemoved [PartialEquivBEq α] (h : c.LeadsTo base items)
    (hone : c.added = [] ∨ Distinct items) (out : List α) :
    (c.recordAllRemoved out).LeadsTo base (takeOut items out).left := by
  induction out generalizing c items with
  | nil => exact h
  | cons y out ih =>
    have hone' : (c.recordRemoved y).added = [] ∨ Distinct (items.eraseP (· == y)) := by
      rcases hone with hnone | hdistinct
      · have hw : c.added.any (· == y) = false := by
          rw [hnone]
          rfl
        rw [recordRemoved_of_not_waiting hw]
        exact Or.inl hnone
      · exact Or.inr (hdistinct.eraseP _)
    rw [takeOut_cons_left]
    exact ih (h.recordRemoved hone y) hone'

end LeadsTo

end Change

end ChangeAudit
