/-
# A replay in closed form

A replay takes elements out one after another, and each search goes over what the earlier ones
left.  What comes of it can be said without any order of events: of the elements of the shadow that
equal `x` the first `n` go, where `n` is how often the change removes `x`; and of its removals of
`x` all but the first `m` are unmatched, where `m` is how often the shadow held `x`
(`takeOut_left_eq`, `takeOut_unmatched_eq`).  Neither depends on the additions of the change.
-/
import ChangeAudit.Element
import ChangeAudit.Proofs.Ranks
import ChangeAudit.Proofs.Shadow.Counts
import ChangeAudit.Proofs.Shadow.Order

namespace ChangeAudit.Shadow

open Counting

variable {α : Type} [BEq α] [PartialEquivBEq α]

/-! ## 1. Taking out -/

/-- **What is left** are the elements with at least as many equal ones before them as are taken
out. -/
theorem takeOut_left_eq (items xs : List α) :
    (takeOut items xs).left = atRanks (fun x n => xs.count x ≤ n) items := by
  induction xs generalizing items with
  | nil => exact (atRanks_of_accepts (by simp) items).symm
  | cons y ys ih =>
    rw [takeOut_cons_left, ih, atRanks_eraseP]
    refine atRanks_congr (fun x n => ?_) items
    rw [count_cons_add y ys, ← Bool.decide_and, decide_eq_decide]
    omega

/-- **What is unmatched** are the removals with at least as many equal ones before them as there
were elements. -/
theorem takeOut_unmatched_eq (items xs : List α) :
    (takeOut items xs).unmatched = atRanks (fun x n => items.count x ≤ n) xs := by
  induction xs generalizing items with
  | nil => rfl
  | cons y ys ih =>
    rw [takeOut, atRanks_cons]
    cases h : items.any (· == y) with
    | true =>
      have hpos := any_beq_iff.mp h
      have hhead : ¬decide (items.count y ≤ 0) = true := by
        rw [decide_eq_true_eq]
        omega
      rw [if_pos rfl, if_neg hhead, List.nil_append]
      dsimp only
      rw [ih]
      refine atRanks_congr (fun x n => ?_) ys
      have herase := count_eraseP_add h x
      rw [decide_eq_decide]
      omega
    | false =>
      have hzero := any_beq_eq_false_iff.mp h
      rw [if_neg Bool.false_ne_true, if_pos (by simp [hzero]), List.singleton_append]
      dsimp only
      rw [ih]
      refine congrArg (y :: ·) (atRanks_congr (fun x n => ?_) ys)
      -- where the removal itself counts, nothing is there
      rw [decide_eq_decide]
      rcases count_eq_zero_of_not_any h x with hnone | hnone
      · omega
      · omega

/-! ## 2. Replaying a change -/

/-- **A replay in closed form.**  For every shadow and every change, fitting or not:

* the elements that stay are those with at least as many equal ones before them as the change
  removes, in their order, and the additions follow in theirs;
* the unmatched removals are those with at least as many equal ones before them in the change as
  the shadow held, in their order;
* every removal is carried out or unmatched, and every addition is carried out;
* so of each element there are afterwards as many as before, less the removals but not below none,
  and with the additions; and as many removals of it are unmatched as there were too many;
* with other additions the same elements stay and the same removals are unmatched, so a removal is
  never matched with an addition of its own change. -/
theorem apply_eq_atRanks (s : Shadow α) (c : Change α) :
    (s.apply c).1.items = atRanks (fun x n => c.removed.count x ≤ n) s.items ++ c.added ∧
      (s.apply c).2.unmatched = atRanks (fun x n => s.items.count x ≤ n) c.removed ∧
      (s.apply c).2.removed + (s.apply c).2.unmatched.length = c.removed.length ∧
      (s.apply c).2.added = c.added.length ∧
      (∀ x, (s.apply c).1.items.count x =
          s.items.count x - c.removed.count x + c.added.count x ∧
        (s.apply c).2.unmatched.count x = c.removed.count x - s.items.count x) ∧
      ∀ added, s.apply { c with added } =
        (⟨atRanks (fun x n => c.removed.count x ≤ n) s.items ++ added⟩,
          { (s.apply c).2 with added := added.length }) := by
  have hleft := takeOut_left_eq s.items c.removed
  refine ⟨?_, takeOut_unmatched_eq s.items c.removed, s.removed_add_unmatched c, rfl,
    fun x => ⟨s.apply_count c x, s.unmatched_count c x⟩, fun added => ?_⟩
  · exact congrArg (· ++ c.added) hleft
  · rw [← hleft]
    rfl

/-- Of three records with one key the first two go, though the values differ; a fourth of that key
and one of a key that was not there are added. -/
theorem apply_eq_atRanks_of_records :
    let s : Shadow Keyed := ⟨[⟨"a", 1⟩, ⟨"b", 2⟩, ⟨"a", 3⟩, ⟨"a", 4⟩]⟩
    let c : Change Keyed := ⟨[⟨"a", 9⟩, ⟨"c", 5⟩, ⟨"a", 8⟩], [⟨"c", 6⟩, ⟨"a", 7⟩]⟩
    (s.apply c).1.items = [⟨"b", 2⟩, ⟨"a", 4⟩, ⟨"c", 6⟩, ⟨"a", 7⟩] ∧
      (s.apply c).2.unmatched = [⟨"c", 5⟩] := by
  intro s c
  obtain ⟨hitems, hunmatched, -⟩ := apply_eq_atRanks s c
  exact ⟨hitems.trans rfl, hunmatched.trans rfl⟩

end ChangeAudit.Shadow
