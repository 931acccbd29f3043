/-
# What a replay does to counts

Taking elements out of a list lowers each count by as much as is asked for, down to zero; what is
asked for beyond that is unmatched.  So counts after a replay depend on counts before it and on
the change, and on nothing else: not on the order of the shadow, and not on which of several equal
elements is taken (`Shadow.apply_count`, `Shadow.unmatched_count`).
-/
import ChangeAudit.Shadow
import ChangeAudit.Proofs.Entries

namespace ChangeAudit.Shadow

open Counting

variable {α : Type} [BEq α] [PartialEquivBEq α]

/-! ## 1. Taking out -/

theorem takeOut_left_count (items xs : List α) (x : α) :
    (takeOut items xs).left.count x = items.count x - xs.count x := by
  induction xs generalizing items with
  | nil => rfl
  | cons y ys ih =>
    rw [count_cons_add y ys, takeOut]
    cases h : items.any (· == y) with
    | true =>
      have herase := count_eraseP_add h x
      rw [if_pos rfl, ih]
      omega
    | false =>
      rw [if_neg Bool.false_ne_true, ih]
      rcases count_eq_zero_of_not_any h x with hzero | hnone
      · omega
      · omega

theorem takeOut_unmatched_count (items xs : List α) (x : α) :
    (takeOut items xs).unmatched.count x = xs.count x - items.count x := by
  induction xs generalizing items with
  | nil => rw [takeOut, List.count_nil, Nat.zero_sub]
  | cons y ys ih =>
    rw [count_cons_add y ys, takeOut]
    cases h : items.any (· == y) with
    | true =>
      have herase := count_eraseP_add h x
      rw [if_pos rfl, ih]
      omega
    | false =>
      rw [if_neg Bool.false_ne_true, count_cons_add y, ih]
      rcases count_eq_zero_of_not_any h x with hzero | hnone
      · omega
      · omega

/-! ## 2. Replaying a change -/

theorem apply_count (s : Shadow α) (c : Change α) (x : α) :
    (s.apply c).1.items.count x = s.items.count x - c.removed.count x + c.added.count x := by
  rw [apply, List.count_append, takeOut_left_count]

theorem unmatched_count (s : Shadow α) (c : Change α) (x : α) :
    (s.apply c).2.unmatched.count x = c.removed.count x - s.items.count x :=
  takeOut_unmatched_count s.items c.removed x

/-- If every removal is matched, a replay moves the counts by the net effect of the change. -/
theorem apply_count_of_matched {s : Shadow α} {c : Change α}
    (h : (s.apply c).2.unmatched = []) (x : α) :
    ((s.apply c).1.items.count x : Int) = s.items.count x + c.net x := by
  have hle := s.unmatched_count c x
  have hcount := s.apply_count c x
  rw [h, List.count_nil] at hle
  rw [Change.net]
  omega

end ChangeAudit.Shadow

namespace ChangeAudit.Shadow

open Counting

variable {α : Type} [BEq α] [EquivBEq α]

/-- Every removal is matched just if the shadow holds as many of each element as the change
removes. -/
theorem unmatched_eq_nil_iff (s : Shadow α) (c : Change α) :
    (s.apply c).2.unmatched = [] ↔ ∀ x, c.removed.count x ≤ s.items.count x := by
  constructor
  · intro h x
    have hcount := s.unmatched_count c x
    rw [h, List.count_nil] at hcount
    omega
  · intro h
    refine eq_nil_of_count_eq_zero fun x => ?_
    have hle := h x
    rw [s.unmatched_count c x]
    omega

end ChangeAudit.Shadow
