/-
# Lists in another order

Two lists hold the same elements if the one is a permutation of the other, up to equality
(`Reordered`).  An equal element may stand in the place of an element, for equality may tell less
apart than the elements show; where it tells everything apart, nothing is left but the permutation
(`reordered_iff_perm`).

What makes the relation handy is that it is the same as counting alike (`reordered_iff_count`): every
operation that has an equation for its counts respects it.
-/
import Mathlib.Data.List.Perm.Basic
import ChangeAudit.Proofs.Counting

namespace ChangeAudit

open Counting
open scoped List

variable {α : Type} [BEq α]

/-- The second list has the elements of the first, or equal ones, in any order. -/
def Reordered (xs ys : List α) : Prop :=
  ∃ zs, xs ~ zs ∧ List.Forall₂ (fun z y => (z == y) = true) zs ys

/-! ## 1. The same counts -/

/-- Equal elements in the same places count the same. -/
theorem count_eq_of_forall₂ [PartialEquivBEq α] {xs ys : List α}
    (h : List.Forall₂ (fun x y => (x == y) = true) xs ys) (z : α) : xs.count z = ys.count z := by
  induction h with
  | nil => rfl
  | cons hxy _ ih => rw [List.count_cons, List.count_cons, ih, BEq.congr_left hxy]

theorem Reordered.count_eq [PartialEquivBEq α] {xs ys : List α} (h : Reordered xs ys) (z : α) :
    xs.count z = ys.count z := by
  obtain ⟨zs, hperm, hequal⟩ := h
  rw [hperm.count_eq, count_eq_of_forall₂ hequal]

/-- A permutation may also come after the exchange of equal elements. -/
theorem Reordered.of_forall₂_perm {xs zs ys : List α}
    (hequal : List.Forall₂ (fun x z => (x == z) = true) xs zs) (hperm : zs ~ ys) :
    Reordered xs ys := by
  have hcomp : Relation.Comp (List.Forall₂ fun x z : α => (x == z) = true) List.Perm xs ys :=
    ⟨zs, hequal, hperm⟩
  rw [List.forall₂_comp_perm_eq_perm_comp_forall₂] at hcomp
  exact hcomp

variable [EquivBEq α]

theorem reordered_of_count {xs ys : List α} (h : ∀ z, xs.count z = ys.count z) :
    Reordered xs ys := by
  induction xs generalizing ys with
  | nil =>
    obtain rfl : ys = [] := eq_nil_of_count_eq_zero fun z => (h z).symm
    exact ⟨[], .nil, .nil⟩
  | cons x xs ih =>
    -- the partner of `x` is the first element that equals it
    have hx : ys.any (· == x) = true := by
      rw [any_beq_iff, ← h x, List.count_cons, if_pos (beq_self_eq_true x)]
      exact Nat.succ_pos _
    have hrest : Reordered xs (ys.eraseP (· == x)) := by
      refine ih fun z => ?_
      have hz := h z
      have herase := count_eraseP_add hx z
      rw [count_cons_add] at hz
      omega
    obtain ⟨y, hy⟩ : ∃ y, ys.find? (· == x) = some y := by
      obtain ⟨y, hmem, hyx⟩ := List.any_eq_true.mp hx
      exact Option.isSome_iff_exists.mp (List.find?_isSome.mpr ⟨y, hmem, hyx⟩)
    obtain ⟨zs, hperm, hequal⟩ := hrest
    have hyx := List.find?_some hy
    have hxy : (x == y) = true := BEq.symm hyx
    obtain ⟨us, hus, hys⟩ := Reordered.of_forall₂_perm (.cons hxy hequal) (perm_cons_eraseP hy).symm
    exact ⟨us, (hperm.cons x).trans hus, hys⟩

/-- **Lists hold the same elements just if they count the same.** -/
theorem reordered_iff_count {xs ys : List α} :
    Reordered xs ys ↔ ∀ z, xs.count z = ys.count z :=
  ⟨fun h => h.count_eq, reordered_of_count⟩

/-! ## 2. Elements that equality tells apart -/

omit [EquivBEq α] in
/-- Where only an element itself equals it, nothing is left but the permutation. -/
theorem reordered_iff_perm [LawfulBEq α] {xs ys : List α} : Reordered xs ys ↔ xs ~ ys := by
  rw [Reordered]
  simp only [beq_iff_eq, List.forall₂_eq_eq_eq]
  constructor
  · rintro ⟨zs, hperm, rfl⟩
    exact hperm
  · intro hperm
    exact ⟨ys, hperm, rfl⟩

/-! ## 3. What holds of such lists -/

namespace Reordered

variable {xs ys zs : List α}

theorem length_eq (h : Reordered xs ys) : xs.length = ys.length :=
  length_eq_of_count_eq h.count_eq

end Reordered

end ChangeAudit
