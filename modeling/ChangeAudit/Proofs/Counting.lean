/-
# Counting equal elements

Contents are compared by counting: `xs.count x` is how many elements of `xs` equal `x`.  Equality
need not be more than symmetric and transitive for that.  An element that does not even equal
itself then counts as nothing, on either side of every equation below.

The operations of a list and of a shadow come down to one step: taking out the first element that
equals `y`.  The two facts about it are that it lowers the counts of what equals `y` by one, and
no others (`count_eraseP_add`), and that it leaves a list which is, together with the element
taken, a permutation of the old one (`perm_cons_eraseP`).
-/

namespace ChangeAudit.Counting

open scoped List

variable {α : Type} [BEq α]

/-! ## 1. Being there is being counted -/

theorem any_beq_iff {xs : List α} {x : α} : xs.any (· == x) = true ↔ 0 < xs.count x := by
  rw [List.count, List.countP_pos_iff, List.any_eq_true]

theorem any_beq_eq_false_iff {xs : List α} {x : α} :
    xs.any (· == x) = false ↔ xs.count x = 0 := by
  rw [← Bool.not_eq_true, any_beq_iff, Nat.pos_iff_ne_zero, Decidable.not_not]

/-- Of equal elements there are equally many. -/
theorem count_congr [PartialEquivBEq α] {x y : α} (h : x == y) (xs : List α) :
    xs.count x = xs.count y := by
  have hp : (fun z : α => z == x) = fun z => z == y := funext fun _ => BEq.congr_right h
  rw [List.count, List.count, hp]

/-- What is counted in a list is counted at its head or in the rest. -/
theorem count_cons_add (y : α) (xs : List α) (x : α) :
    (y :: xs).count x = [y].count x + xs.count x := by
  rw [← List.count_append, List.singleton_append]

/-- If nothing in a list equals `y`, then nothing is counted both in the list and as `y`. -/
theorem count_eq_zero_of_not_any [PartialEquivBEq α] {xs : List α} {y : α}
    (h : xs.any (· == y) = false) (x : α) : [y].count x = 0 ∨ xs.count x = 0 := by
  by_cases hyx : (y == x) = true
  · exact Or.inr ((count_congr hyx xs).symm.trans (any_beq_eq_false_iff.mp h))
  · exact Or.inl (by rw [List.count_singleton, if_neg hyx])

/-- If something in a list equals `y`, then what is counted as `y` is counted in the list. -/
theorem count_singleton_le_of_any [PartialEquivBEq α] {xs : List α} {y : α}
    (h : xs.any (· == y) = true) (x : α) : [y].count x ≤ xs.count x := by
  by_cases hyx : (y == x) = true
  · have hpos := any_beq_iff.mp h
    rw [count_congr hyx xs] at hpos
    rw [List.count_singleton, if_pos hyx]
    exact hpos
  · rw [List.count_singleton, if_neg hyx]
    exact Nat.zero_le _

/-- A list of elements that equal themselves is empty if it counts nothing. -/
theorem eq_nil_of_count_eq_zero [ReflBEq α] {xs : List α} (h : ∀ x, xs.count x = 0) :
    xs = [] := by
  cases xs with
  | nil => rfl
  | cons y ys =>
    have hy := h y
    rw [List.count_cons, if_pos (beq_self_eq_true y)] at hy
    omega

/-! ## 2. Taking out the first equal element -/

omit [BEq α] in
/-- The first element that passes, and the others. -/
theorem perm_cons_eraseP {xs : List α} {p : α → Bool} {y : α} (h : xs.find? p = some y) :
    xs ~ y :: xs.eraseP p := by
  induction xs with
  | nil => cases h
  | cons z zs ih =>
    by_cases hz : p z = true
    · rw [List.find?_cons_of_pos hz, Option.some.injEq] at h
      rw [h, List.eraseP_cons_of_pos (h ▸ hz)]
    · rw [List.find?_cons_of_neg hz] at h
      rw [List.eraseP_cons_of_neg hz]
      exact ((ih h).cons z).trans (.swap y z _)

/-- **Taking out an element that equals `y` lowers the count of what equals `y`**, and no
other. -/
theorem count_eraseP_add [PartialEquivBEq α] {xs : List α} {y : α}
    (h : xs.any (· == y) = true) (x : α) :
    (xs.eraseP (· == y)).count x + [y].count x = xs.count x := by
  obtain ⟨a, ha, hay⟩ := List.any_eq_true.mp h
  obtain ⟨b, front, back, -, hby, hxs, herase⟩ := List.exists_of_eraseP (p := (· == y)) ha hay
  rw [herase, hxs, List.count_append, List.count_append, List.count_singleton, List.count_cons,
    BEq.congr_left hby]
  omega

/-- Lists with equal counts are equally long, if every element equals itself. -/
theorem length_eq_of_count_eq [EquivBEq α] {xs ys : List α} (h : ∀ x, xs.count x = ys.count x) :
    xs.length = ys.length := by
  induction xs generalizing ys with
  | nil => rw [eq_nil_of_count_eq_zero fun x => (h x).symm]
  | cons y xs ih =>
    have hy : ys.any (· == y) = true := by
      rw [any_beq_iff, ← h y, List.count_cons, if_pos (beq_self_eq_true y)]
      exact Nat.succ_pos _
    have hrest : xs.length = (ys.eraseP (· == y)).length := by
      refine ih fun x => ?_
      have hx := h x
      have herase := count_eraseP_add hy x
      rw [count_cons_add] at hx
      omega
    obtain ⟨z, hz, -⟩ := List.any_eq_true.mp hy
    have hpos := List.length_pos_of_mem hz
    rw [List.length_eraseP, hy, if_pos rfl] at hrest
    rw [List.length_cons]
    omega

end ChangeAudit.Counting
