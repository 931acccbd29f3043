/-
# What a comparison finds

Pairing off two lists leaves of each element its first occurrences, as many as the one list has
more than the other (`excess_eq`).  The same lists are found by passes over a table of balances
(`Balance.leftovers_eq`): one list is counted up, the other down, and then each list is gone through
once more, where an element is taken as long as the table has some of it left on that side.  Both
of these passes take from the same table, so what matters is how a pass leaves it
(`Balance.getD_settle`).

From this follows all that a report says of two contents: when there is one, what is missing and
what is unexpected, and what it would say with the contents exchanged (`comparison_exact`).
-/
import ChangeAudit.Proofs.Mismatch.Counts
import ChangeAudit.Proofs.Ranks
import ChangeAudit.Proofs.Reordering

namespace ChangeAudit

open Counting

variable {α : Type} [BEq α]

/-! ## 1. Pairing off -/

/-- **What pairing off leaves** are the first occurrences of each element, as many as the one list
has more than the other. -/
theorem excess_eq [EquivBEq α] (xs ys : List α) :
    excess xs ys = atRanks (fun x n => n < xs.count x - ys.count x) xs := by
  induction xs with
  | nil => rfl
  | cons y xs ih =>
    have hrest := (pairOff_count xs ys y).2
    have hhead : (y :: xs).count y = xs.count y + 1 := by
      rw [List.count_cons, if_pos (beq_self_eq_true y)]
    -- behind the head, the ranks and the counts of what equals it go up together
    have hlater :
        atRanks (fun x n => decide ([y].count x + n < (y :: xs).count x - ys.count x)) xs =
          (pairOff xs ys).1 := by
      refine Eq.trans (atRanks_congr (fun x n => ?_) xs) ih.symm
      rw [count_cons_add y xs, decide_eq_decide]
      omega
    rw [atRanks_cons, hlater, excess, pairOff]
    dsimp only
    cases h : (pairOff xs ys).2.any (· == y) with
    | true =>
      have hpos := any_beq_iff.mp h
      rw [if_pos rfl, hhead, if_neg, List.nil_append]
      rw [decide_eq_true_eq]
      omega
    | false =>
      have hzero := any_beq_eq_false_iff.mp h
      rw [if_neg Bool.false_ne_true, hhead, if_pos, List.singleton_append]
      rw [decide_eq_true_eq]
      omega

/-! ## 2. A table of balances -/

/-- How many more of each element the one side has than the other. -/
abbrev Balance (α : Type) [BEq α] [Hashable α] : Type := Std.HashMap α Int

namespace Balance

variable [Hashable α]

/-- One more element on a side; the sides are 1 and -1. -/
def count (side : Int) (b : Balance α) (x : α) : Balance α :=
  b.alter x fun n? => some (n?.getD 0 + side)

/-- The table of two lists. -/
def ofLists (left right : List α) : Balance α :=
  right.foldl (count (-1)) (left.foldl (count 1) ∅)

/-- Takes an element wherever the table has some of it left on this side: what was taken, and the
table without it. -/
def settle (side : Int) : Balance α → List α → List α × Balance α
  | b, [] => ([], b)
  | b, x :: xs =>
    if 0 < side * b.getD x 0 then
      (x :: (settle side (b.count (-side) x) xs).1, (settle side (b.count (-side) x) xs).2)
    else settle side b xs

/-- What each list has over. -/
def leftovers (left right : List α) : List α × List α :=
  let (onlyLeft, b) := settle 1 (ofLists left right) left
  (onlyLeft, (settle (-1) b right).1)

variable [EquivBEq α] [LawfulHashable α]

theorem getD_count (side : Int) (b : Balance α) (x y : α) :
    (b.count side x).getD y 0 = b.getD y 0 + side * [x].count y := by
  rw [count, Std.HashMap.getD_alter, List.count_singleton]
  by_cases hxy : (x == y) = true
  · rw [if_pos hxy, if_pos hxy, ← Std.HashMap.getD_eq_getD_getElem?, Std.HashMap.getD_congr hxy]
    simp
  · rw [if_neg hxy, if_neg hxy]
    simp

theorem getD_foldl_count (side : Int) (b : Balance α) (xs : List α) (y : α) :
    (xs.foldl (count side) b).getD y 0 = b.getD y 0 + side * xs.count y := by
  induction xs generalizing b with
  | nil => simp
  | cons x xs ih =>
    rw [List.foldl_cons, ih, getD_count, count_cons_add x xs, Int.natCast_add, Int.mul_add,
      Int.add_assoc]

/-- The table says how many more of an element the first list has. -/
theorem getD_ofLists (left right : List α) (x : α) :
    (ofLists left right).getD x 0 = (left.count x : Int) - right.count x := by
  rw [ofLists, getD_foldl_count, getD_foldl_count, Std.HashMap.getD_empty]
  omega

/-- A pass lowers the table by what it takes. -/
theorem getD_settle (side : Int) (b : Balance α) (xs : List α) (y : α) :
    (settle side b xs).2.getD y 0 = b.getD y 0 - side * (settle side b xs).1.count y := by
  induction xs generalizing b with
  | nil => simp [settle]
  | cons x xs ih =>
    rw [settle]
    split
    · dsimp only
      rw [ih, getD_count, count_cons_add x (settle side (b.count (-side) x) xs).1 y,
        Int.natCast_add, Int.mul_add, Int.neg_mul]
      omega
    · exact ih b

/-- **A pass takes the first occurrences of each element**, as many as the table has of it. -/
theorem settle_eq {side : Int} (hside : side = 1 ∨ side = -1) (b : Balance α) (xs : List α) :
    (settle side b xs).1 = atRanks (fun x n => n < side * b.getD x 0) xs := by
  induction xs generalizing b with
  | nil => rfl
  | cons x xs ih =>
    rw [settle, atRanks_cons]
    split
    · rename_i h
      rw [if_pos (by simpa using h), List.singleton_append]
      dsimp only
      rw [ih]
      refine congrArg (x :: ·) (atRanks_congr (fun y n => ?_) xs)
      rw [getD_count, decide_eq_decide]
      rcases hside with rfl | rfl
      · omega
      · omega
    · rename_i h
      rw [if_neg (by simpa using h), List.nil_append, ih]
      refine atRanks_congr (fun y n => ?_) xs
      rw [decide_eq_decide, List.count_singleton]
      split
      · -- nothing is left of what equals the head
        rename_i hxy
        have hsame : b.getD x 0 = b.getD y 0 := Std.HashMap.getD_congr hxy
        rw [hsame] at h
        omega
      · omega

/-- **The passes find what pairing off leaves**, on either side. -/
theorem leftovers_eq (left right : List α) :
    leftovers left right = (excess left right, excess right left) := by
  have hleft : (settle 1 (ofLists left right) left).1 = excess left right := by
    rw [settle_eq (.inl rfl), excess_eq]
    refine atRanks_congr (fun x n => ?_) left
    rw [getD_ofLists, decide_eq_decide]
    omega
  have hright : (settle (-1) (settle 1 (ofLists left right) left).2 right).1 =
      excess right left := by
    rw [settle_eq (.inr rfl), excess_eq]
    refine atRanks_congr (fun x n => ?_) right
    rw [getD_settle, hleft, getD_ofLists, excess_count, decide_eq_decide]
    omega
  rw [leftovers, ← hleft, ← hright]

end Balance

/-! ## 3. Comparing in order -/

/-- The lists are equally long and have equal elements at every position. -/
def SamePlaces (xs ys : List α) : Prop :=
  xs.length = ys.length ∧
    ∀ (i : Nat) (h : i < xs.length) (h' : i < ys.length), (xs[i] == ys[i]) = true

theorem agrees_sequence_iff (expected actual : List α) :
    ComparisonMode.sequence.agrees expected actual = true ↔ SamePlaces expected actual := by
  change expected.beq actual = true ↔ _
  rw [List.beq_eq_isEqv, List.isEqv_eq_decide, SamePlaces]
  split
  · rename_i hlength
    simp [hlength]
  · rename_i hlength
    simp [hlength]

theorem SamePlaces.symm [PartialEquivBEq α] {xs ys : List α} (h : SamePlaces xs ys) :
    SamePlaces ys xs :=
  ⟨h.1.symm, fun i hi hi' => BEq.symm (h.2 i hi' hi)⟩

theorem samePlaces_iff_forall₂ {xs ys : List α} :
    SamePlaces xs ys ↔ List.Forall₂ (fun x y => (x == y) = true) xs ys := by
  rw [List.forall₂_iff_get]
  rfl

namespace SamePlaces

variable {xs xs' ys ys' zs : List α}

theorem refl [ReflBEq α] (xs : List α) : SamePlaces xs xs := ⟨rfl, fun _ _ _ => BEq.refl _⟩

theorem trans [PartialEquivBEq α] (h : SamePlaces xs ys) (h' : SamePlaces ys zs) :
    SamePlaces xs zs :=
  ⟨h.1.trans h'.1, fun i hi hi' =>
    BEq.trans (h.2 i hi (h.1 ▸ hi)) (h'.2 i (h.1 ▸ hi) hi')⟩

theorem append (h : SamePlaces xs ys) (h' : SamePlaces xs' ys') :
    SamePlaces (xs ++ xs') (ys ++ ys') := by
  rw [samePlaces_iff_forall₂] at h h' ⊢
  exact List.rel_append h h'

theorem eraseIdx (h : SamePlaces xs ys) (n : Nat) : SamePlaces (xs.eraseIdx n) (ys.eraseIdx n) := by
  refine ⟨?_, fun i hi hi' => ?_⟩
  · rw [List.length_eraseIdx, List.length_eraseIdx, h.1]
  · rw [List.getElem_eraseIdx, List.getElem_eraseIdx]
    split
    · exact h.2 i _ _
    · exact h.2 (i + 1) _ _

/-- Such lists hold the same elements. -/
theorem reordered (h : SamePlaces xs ys) : Reordered xs ys :=
  ⟨xs, .refl xs, samePlaces_iff_forall₂.mp h⟩

end SamePlaces

/-! ## 4. Reports -/

/-- The same report with the contents exchanged. -/
def Mismatch.swap (m : Mismatch α) : Mismatch α where
  label := m.label
  mode := m.mode
  expected := m.actual
  actual := m.expected
  missing := m.unexpected
  unexpected := m.missing

theorem ComparisonMode.agrees_comm [PartialEquivBEq α] (mode : ComparisonMode)
    (expected actual : List α) : mode.agrees actual expected = mode.agrees expected actual := by
  cases mode with
  | multiset => exact Bool.and_comm _ _
  | sequence =>
    rw [Bool.eq_iff_iff, agrees_sequence_iff, agrees_sequence_iff]
    exact ⟨SamePlaces.symm, SamePlaces.symm⟩

theorem compare_swap [PartialEquivBEq α] (expected actual : List α) (mode : ComparisonMode)
    (label : Option String) :
    compare actual expected mode label = (compare expected actual mode label).map .swap := by
  rw [compare, compare, mode.agrees_comm]
  split <;> rfl

/-- A report is made of two contents that do not agree, and of what each has over. -/
theorem eq_of_compare {expected actual : List α} {mode : ComparisonMode} {label : Option String}
    {m : Mismatch α} (h : compare expected actual mode label = some m) :
    ¬mode.agrees expected actual = true ∧
      m = ⟨label, mode, expected, actual, excess expected actual, excess actual expected⟩ := by
  rw [compare] at h
  split at h
  · cases h
  · rename_i hagrees
    exact ⟨hagrees, (Option.some.inj h).symm⟩

/-- Neither side has anything over just if the one is the other in some order. -/
theorem excess_eq_nil_iff_reordered [EquivBEq α] (expected actual : List α) :
    excess expected actual = [] ∧ excess actual expected = [] ↔ Reordered expected actual := by
  rw [reordered_iff_count, ← ComparisonMode.agrees_multiset_iff, ComparisonMode.agrees,
    Bool.and_eq_true, List.isEmpty_iff, List.isEmpty_iff]

/-- **A comparison is exact.**  For any two contents, and an equality that hashing respects:

* as multisets they are reported on unless every element has the same count in both; as sequences,
  unless they are equally long and equal at every position;
* with the contents exchanged the report is the same, exchanged;
* missing are the first occurrences in `expected` of each element, as many as `expected` has more
  of it, and unexpected those in `actual`, as many as `actual` has more; both in their order, and
  just as the passes over a table of balances find them;
* nothing is both missing and unexpected, and without the missing and the unexpected ones the
  contents have equally many of each element;
* of contents that differ as sequences, nothing is missing or unexpected just if the one is the
  other in a different order. -/
theorem comparison_exact [EquivBEq α] [Hashable α] [LawfulHashable α] (expected actual : List α)
    (label : Option String) :
    (compare expected actual .multiset label = none ↔
        ∀ x, expected.count x = actual.count x) ∧
      (compare expected actual .sequence label = none ↔ SamePlaces expected actual) ∧
      ∀ mode,
        compare actual expected mode label = (compare expected actual mode label).map .swap ∧
        ∀ m, compare expected actual mode label = some m →
          (m.label = label ∧ m.mode = mode ∧ m.expected = expected ∧ m.actual = actual) ∧
          m.missing = atRanks (fun x n => n < expected.count x - actual.count x) expected ∧
          m.unexpected = atRanks (fun x n => n < actual.count x - expected.count x) actual ∧
          Balance.leftovers expected actual = (m.missing, m.unexpected) ∧
          (∀ x, m.missing.count x = 0 ∨ m.unexpected.count x = 0) ∧
          (∀ x, m.missing.count x ≤ expected.count x ∧ m.unexpected.count x ≤ actual.count x ∧
            expected.count x - m.missing.count x = actual.count x - m.unexpected.count x) ∧
          (mode = .sequence → (m.missing = [] ∧ m.unexpected = [] ↔
            Reordered expected actual ∧ ¬SamePlaces expected actual)) := by
  refine ⟨?_, ?_, fun mode => ⟨compare_swap expected actual mode label, fun m hm => ?_⟩⟩
  · rw [compare_eq_none_iff, ComparisonMode.agrees_multiset_iff]
  · rw [compare_eq_none_iff, agrees_sequence_iff]
  · obtain ⟨hagrees, rfl⟩ := eq_of_compare hm
    have hmissing := excess_count expected actual
    have hunexpected := excess_count actual expected
    refine ⟨⟨rfl, rfl, rfl, rfl⟩, excess_eq expected actual, excess_eq actual expected,
      Balance.leftovers_eq expected actual, fun x => ?_, fun x => ?_, ?_⟩
    · rw [hmissing, hunexpected]
      omega
    · rw [hmissing, hunexpected]
      omega
    · rintro rfl
      have hplaces : ¬SamePlaces expected actual := fun h =>
        hagrees ((agrees_sequence_iff expected actual).mpr h)
      exact (excess_eq_nil_iff_reordered expected actual).trans (and_iff_left hplaces).symm

/-- Of three ones against one the first two are missing, and both fours are unexpected. -/
theorem comparison_exact_of_duplicates :
    compare [1, 2, 1, 1, 3] [2, 3, 4, 1, 4] .sequence (some "tree") =
      some ⟨some "tree", .sequence, [1, 2, 1, 1, 3], [2, 3, 4, 1, 4], [1, 1], [4, 4]⟩ := by
  obtain ⟨-, hsequence, hreports⟩ := comparison_exact [1, 2, 1, 1, 3] [2, 3, 4, 1, 4] (some "tree")
  cases h : compare [1, 2, 1, 1, 3] [2, 3, 4, 1, 4] .sequence (some "tree") with
  | none =>
    have hfirst := (hsequence.mp h).2 0 (by decide) (by decide)
    exact absurd hfirst (by decide)
  | some m =>
    obtain ⟨⟨hlabel, hmode, hexpected, hactual⟩, hmissing, hunexpected, -⟩ :=
      (hreports .sequence).2 m h
    have htwo : m.missing = [1, 1] := hmissing.trans (by decide)
    have hfour : m.unexpected = [4, 4] := hunexpected.trans (by decide)
    cases m
    simp_all

end ChangeAudit
