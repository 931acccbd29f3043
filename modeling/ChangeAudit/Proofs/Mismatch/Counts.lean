/-
# What a comparison counts

Pairing off two lists leaves of each element as many as one list holds more than the other, on the
side of that list (`excess_count`).  So two contents agree as multisets just if they hold equally
many of each element (`ComparisonMode.agrees_multiset_iff`), and a mismatch tells by how many they
differ (`count_of_compare_multiset`).
-/
import ChangeAudit.Mismatch
import ChangeAudit.Proofs.Counting

namespace ChangeAudit

open Counting

variable {α : Type} [BEq α]

/-! ## 1. Pairing off -/

/-- Each side keeps its surplus. -/
theorem pairOff_count [PartialEquivBEq α] (xs ys : List α) (x : α) :
    (pairOff xs ys).1.count x = xs.count x - ys.count x ∧
      (pairOff xs ys).2.count x = ys.count x - xs.count x := by
  induction xs with
  | nil => simp [pairOff]
  | cons y xs ih =>
    obtain ⟨halone, hrest⟩ := ih
    rw [count_cons_add y xs, pairOff]
    dsimp only
    cases h : (pairOff xs ys).2.any (· == y) with
    | true =>
      have herase := count_eraseP_add h x
      have hle := count_singleton_le_of_any h x
      rw [if_pos rfl]
      dsimp only
      constructor
      · omega
      · omega
    | false =>
      rw [if_neg Bool.false_ne_true]
      dsimp only
      rw [count_cons_add]
      rcases count_eq_zero_of_not_any h x with hzero | hnone
      · omega
      · omega

theorem excess_count [PartialEquivBEq α] (xs ys : List α) (x : α) :
    (excess xs ys).count x = xs.count x - ys.count x := (pairOff_count xs ys x).1

/-! ## 2. Agreeing as multisets -/

/-- Nothing is in excess just if nothing is counted more often. -/
theorem excess_eq_nil_iff [EquivBEq α] (xs ys : List α) :
    excess xs ys = [] ↔ ∀ x, xs.count x ≤ ys.count x := by
  constructor
  · intro h x
    have hcount := excess_count xs ys x
    rw [h, List.count_nil] at hcount
    omega
  · intro h
    refine eq_nil_of_count_eq_zero fun x => ?_
    have hle := h x
    rw [excess_count]
    omega

/-- **Contents agree as multisets just if every element has the same count in both.** -/
theorem ComparisonMode.agrees_multiset_iff [EquivBEq α] (expected actual : List α) :
    ComparisonMode.multiset.agrees expected actual = true ↔
      ∀ x, expected.count x = actual.count x := by
  rw [ComparisonMode.agrees, Bool.and_eq_true, List.isEmpty_iff, List.isEmpty_iff,
    excess_eq_nil_iff, excess_eq_nil_iff]
  constructor
  · rintro ⟨hle, hge⟩ x
    exact Nat.le_antisymm (hle x) (hge x)
  · intro h
    exact ⟨fun x => Nat.le_of_eq (h x), fun x => Nat.le_of_eq (h x).symm⟩

/-- A comparison as multisets reports what either side has in excess. -/
theorem count_of_compare_multiset [PartialEquivBEq α] {expected actual : List α}
    {label : Option String} {m : Mismatch α}
    (h : compare expected actual .multiset label = some m) (x : α) :
    m.missing.count x = expected.count x - actual.count x ∧
      m.unexpected.count x = actual.count x - expected.count x := by
  rw [compare] at h
  split at h
  · cases h
  · rw [Option.some.injEq] at h
    rw [← h]
    exact ⟨excess_count expected actual x, excess_count actual expected x⟩

end ChangeAudit
