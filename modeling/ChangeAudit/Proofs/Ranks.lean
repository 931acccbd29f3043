/-
# Ranks among equal elements

Which of several equal elements an operation takes is told by their ranks: the rank of a position
is the number of earlier positions that hold an equal element.  `atRanks` selects the positions
whose element and rank a test accepts.  So "the first three that equal `x`" are those of rank below
3, and "all but the first three" are those of rank 3 and above.

Selections are compared head first, where the ranks behind an element that equals it go up by one
(`atRanks_cons`).  Taking out the first element that equals `y` moves the ranks of the others that
equal it down by one (`atRanks_eraseP`).
-/
import ChangeAudit.Proofs.Counting

namespace ChangeAudit

open Counting

variable {α : Type} [BEq α]

/-- The elements of `xs` at the positions that `keep` accepts by element and rank, in order. -/
def atRanks (keep : α → Nat → Bool) (xs : List α) : List α :=
  (xs.zipIdx.filter fun p => keep p.1 ((xs.take p.2).count p.1)).map Prod.fst

/-- The head has rank 0; behind it the ranks of what equals it go up by one. -/
theorem atRanks_cons (keep : α → Nat → Bool) (x : α) (xs : List α) :
    atRanks keep (x :: xs) =
      (if keep x 0 then [x] else []) ++ atRanks (fun y n => keep y ([x].count y + n)) xs := by
  have hrest : ((xs.zipIdx 1).filter fun p => keep p.1 (((x :: xs).take p.2).count p.1)).map
      Prod.fst = atRanks (fun y n => keep y ([x].count y + n)) xs := by
    rw [List.zipIdx_succ, List.filter_map, List.map_map]
    simp only [atRanks, Function.comp_def, List.take_succ_cons, ← count_cons_add]
  rw [← hrest, atRanks, List.zipIdx_cons, List.filter_cons]
  cases h : keep x 0 <;> simp [h]

/-- Tests that say the same select the same. -/
theorem atRanks_congr {keep keep' : α → Nat → Bool} (h : ∀ x n, keep x n = keep' x n)
    (xs : List α) : atRanks keep xs = atRanks keep' xs := by
  have hkeep : keep = keep' := funext fun x => funext (h x)
  rw [hkeep]

/-- A test that accepts everything selects everything. -/
theorem atRanks_of_accepts {keep : α → Nat → Bool} (h : ∀ x n, keep x n = true) (xs : List α) :
    atRanks keep xs = xs := by
  rw [atRanks, List.filter_eq_self.mpr fun p _ => h p.1 _, List.zipIdx_map_fst]

/-- **Without the first element that equals `y`**, the others that equal it move down one rank. -/
theorem atRanks_eraseP [PartialEquivBEq α] (keep : α → Nat → Bool) (y : α) (xs : List α) :
    atRanks keep (xs.eraseP (· == y)) =
      atRanks (fun x n => decide ([y].count x ≤ n) && keep x (n - [y].count x)) xs := by
  induction xs generalizing keep with
  | nil => rfl
  | cons z xs ih =>
    rw [atRanks_cons _ z xs]
    by_cases hzy : (z == y) = true
    · -- the head is the one that is taken, so the ranks behind it are the old ones
      have hsame : ∀ x, [z].count x = [y].count x := fun x => by
        rw [List.count_singleton, List.count_singleton, BEq.congr_left hzy]
      have hone : [y].count z = 1 := by
        rw [List.count_singleton, if_pos (BEq.symm hzy)]
      rw [List.eraseP_cons_of_pos (p := (· == y)) hzy, hone]
      simp [hsame]
    · have hnone : [y].count z = 0 := by
        rw [List.count_singleton, if_neg fun hyz => hzy (BEq.symm hyz)]
      -- nothing equals both
      have hapart : ∀ x, [y].count x = 0 ∨ [z].count x = 0 := by
        intro x
        rw [List.count_singleton, List.count_singleton]
        by_cases hyx : (y == x) = true
        · exact Or.inr (if_neg fun hzx => hzy (BEq.trans hzx (BEq.symm hyx)))
        · exact Or.inl (if_neg hyx)
      rw [List.eraseP_cons_of_neg (p := (· == y)) hzy, atRanks_cons, ih, hnone]
      congr 1
      refine atRanks_congr (fun x n => ?_) xs
      rcases hapart x with hzero | hzero
      · simp [hzero]
      · simp [hzero]

end ChangeAudit
