/-
# Verifiers that compare as multisets do not see the order

Two verifiers with the same settings compare as multisets.  They start from the same elements and
are notified of changes that remove and add the same elements, while their collections hold the
same elements; only the order may differ, everywhere (`Notice.Alike`).  Then nothing but the order
ever differs between the two (`Inspection.Alike`): the counters are equal, the same removals find
nothing, and a complaint of the one is a complaint of the other, about the same elements.

This does not hold of the steps in between.  A removal takes the first of equal elements, so the
two take them from different places, and where the order of the removals differs, the ones that
find nothing are found at different times.  What holds of the whole is a matter of counts
(`reordered_iff_count`).

If only the removals come in another order, even the order of the shadow is the same
(`Shadow.takeOut_left_congr`): an element stays if enough equal ones stand before it, and that does
not depend on when these are asked for.
-/
import ChangeAudit.Proofs.Reordering
import ChangeAudit.Proofs.Shadow.ClosedForm
import ChangeAudit.Proofs.Verifier.Misreports

namespace ChangeAudit

open Counting
open scoped List

variable {α : Type} [BEq α]

/-! ## 1. Replaying in another order -/

namespace Shadow

variable [PartialEquivBEq α]

/-- **What is left, and in which order, depends on which elements are taken out**, not on when. -/
theorem takeOut_left_congr {xs ys : List α} (h : Reordered xs ys) (items : List α) :
    (takeOut items xs).left = (takeOut items ys).left := by
  rw [takeOut_left_eq, takeOut_left_eq]
  refine atRanks_congr (fun x n => ?_) items
  rw [h.count_eq x]

end Shadow

/-- Changes that remove and add the same elements. -/
structure Change.Alike (c c' : Change α) : Prop where
  removed : Reordered c.removed c'.removed
  added : Reordered c.added c'.added

namespace Shadow

variable [EquivBEq α] {s s' : Shadow α} {c c' : Change α}

/-- Replaying the same elements on the same elements leaves the same elements. -/
theorem reordered_apply (hs : Reordered s.items s'.items) (hc : c.Alike c') :
    Reordered (s.apply c).1.items (s'.apply c').1.items := by
  refine reordered_of_count fun x => ?_
  rw [apply_count, apply_count, hs.count_eq, hc.removed.count_eq, hc.added.count_eq]

theorem reordered_unmatched (hs : Reordered s.items s'.items) (hc : c.Alike c') :
    Reordered (s.apply c).2.unmatched (s'.apply c').2.unmatched := by
  refine reordered_of_count fun x => ?_
  rw [unmatched_count, unmatched_count, hs.count_eq, hc.removed.count_eq]

/-- What is found is what was asked for, less what was not found. -/
theorem removed_eq (hs : Reordered s.items s'.items) (hc : c.Alike c') :
    (s.apply c).2.removed = (s'.apply c').2.removed := by
  have hasked := hc.removed.length_eq
  have hmissed := (reordered_unmatched hs hc).length_eq
  have hall := s.removed_add_unmatched c
  have hall' := s'.removed_add_unmatched c'
  omega

end Shadow

/-! ## 2. Comparing in another order -/

/-- Mismatches about the same elements. -/
structure Mismatch.Alike (m m' : Mismatch α) : Prop where
  label : m.label = m'.label
  mode : m.mode = m'.mode
  expected : Reordered m.expected m'.expected
  actual : Reordered m.actual m'.actual
  missing : Reordered m.missing m'.missing
  unexpected : Reordered m.unexpected m'.unexpected

variable [EquivBEq α]

theorem reordered_excess {xs xs' ys ys' : List α} (hx : Reordered xs xs') (hy : Reordered ys ys') :
    Reordered (excess xs ys) (excess xs' ys') := by
  refine reordered_of_count fun z => ?_
  rw [excess_count, excess_count, hx.count_eq, hy.count_eq]

/-- Contents agree as multisets in any order, or in none. -/
theorem agrees_multiset_congr {xs xs' ys ys' : List α} (hx : Reordered xs xs')
    (hy : Reordered ys ys') :
    ComparisonMode.multiset.agrees xs ys = ComparisonMode.multiset.agrees xs' ys' := by
  rw [Bool.eq_iff_iff, ComparisonMode.agrees_multiset_iff, ComparisonMode.agrees_multiset_iff]
  simp only [hx.count_eq, hy.count_eq]

/-- **A comparison as multisets finds the same in any order.** -/
theorem compare_multiset_alike {xs xs' ys ys' : List α} (hx : Reordered xs xs')
    (hy : Reordered ys ys') (label : Option String) :
    Option.Rel Mismatch.Alike (compare xs ys .multiset label)
      (compare xs' ys' .multiset label) := by
  rw [compare, compare, agrees_multiset_congr hx hy]
  cases ComparisonMode.multiset.agrees xs' ys' with
  | true => exact .none
  | false => exact .some ⟨rfl, rfl, hx, hy, reordered_excess hx hy, reordered_excess hy hx⟩

/-! ## 3. Two verifiers -/

namespace Notice

/-- Notifications of changes that remove and add the same elements, with contents of the same
elements. -/
structure Alike (n n' : Notice α) : Prop where
  change : n.change.Alike n'.change
  contents : Reordered n.contents n'.contents

/-- Notifications of changes that add the same in the same order, and remove the same elements;
the contents may be anything. -/
structure SameAdditions (n n' : Notice α) : Prop where
  removed : Reordered n.change.removed n'.change.removed
  added : n.change.added = n'.change.added

end Notice

namespace Inspection

/-- The removals of a notification that find nothing equal. -/
def strays (t : Inspection α) (n : Notice α) : List α :=
  (t.verifier.shadow.apply n.change).2.unmatched

/-- Verifiers with the same settings that track the same elements and have counted alike. -/
structure Alike (t t' : Inspection α) : Prop where
  config : t.verifier.config = t'.verifier.config
  shadow : Reordered t.verifier.shadow.items t'.verifier.shadow.items
  stats : t.verifier.stats = t'.verifier.stats

variable {t t' : Inspection α} {n n' : Notice α} {ns ns' : List (Notice α)}

omit [EquivBEq α] in
theorem Alike.start (config : Config) {items items' : List α} (h : Reordered items items') :
    (start config items).Alike (start config items') := ⟨rfl, h, rfl⟩

/-- Notifications that are alike leave verifiers alike that were so before. -/
theorem Alike.after (h : t.Alike t') (hn : n.Alike n') : (t.after n).Alike (t'.after n') := by
  have hsame : t.verifier.config = t'.verifier.config := h.config
  constructor
  · rw [Inspection.after, Inspection.after, t.verifier.told_config, t'.verifier.told_config, hsame]
  · rw [shadow_after, shadow_after]
    exact Shadow.reordered_apply h.shadow hn.change
  · have hadded : (t.verifier.shadow.apply n.change).2.added =
        (t'.verifier.shadow.apply n'.change).2.added := hn.change.added.length_eq
    have hremoved := Shadow.removed_eq h.shadow hn.change
    have hunmatched := (Shadow.reordered_unmatched h.shadow hn.change).length_eq
    rw [Inspection.after, Inspection.after, t.verifier.told_stats, t'.verifier.told_stats,
      VerifierStats.record, VerifierStats.record, h.stats, hadded, hremoved, hunmatched]

/-- So do any number of them. -/
theorem Alike.run (h : t.Alike t') (hns : List.Forall₂ Notice.Alike ns ns') :
    (t.run ns).Alike (t'.run ns') := by
  induction hns generalizing t t' with
  | nil => exact h
  | cons hn _ ih => exact ih (h.after hn)

/-- **Verifiers that are alike complain alike**, if they compare as multisets. -/
theorem Alike.complaint (h : t.Alike t') (hmode : t.verifier.config.comparison = .multiset)
    (hn : n.Alike n') : Option.Rel Mismatch.Alike (t.complaint n) (t'.complaint n') := by
  rw [complaint_eq, complaint_eq, Verifier.finding_eq, Verifier.finding_eq, Verifier.liveFor,
    Verifier.liveFor, ← h.config, hmode]
  cases t.verifier.config.verifyOnChange with
  | true =>
    exact compare_multiset_alike (Shadow.reordered_apply h.shadow hn.change) hn.contents _
  | false => exact .none

omit [EquivBEq α] in
/-- The order of the removals makes no difference to the shadow at all. -/
theorem shadow_run_congr [PartialEquivBEq α] (h : t.verifier.shadow = t'.verifier.shadow)
    (hns : List.Forall₂ Notice.SameAdditions ns ns') :
    (t.run ns).verifier.shadow = (t'.run ns').verifier.shadow := by
  induction hns generalizing t t' with
  | nil => exact h
  | cons hn _ ih =>
    refine ih ?_
    rw [shadow_after, shadow_after, h, Shadow.apply, Shadow.apply,
      Shadow.takeOut_left_congr hn.removed, hn.added]

omit [EquivBEq α] in
theorem run_config (t : Inspection α) (ns : List (Notice α)) :
    (t.run ns).verifier.config = t.verifier.config := by
  induction ns generalizing t with
  | nil => rfl
  | cons n ns ih => exact (ih (t.after n)).trans (t.verifier.told_config n.contents n.change)

/-! ## 4. The main statement -/

/-- **The order makes no difference to a verifier that compares as multisets.**  Let two of them,
with the same settings, start from the same elements, and let them be notified of the same elements,
in any order, any number of times.  Then their shadows hold the same elements and their counters are
equal; and at the next notification the same removals find nothing equal, and the one complains just
if the other does, with the same elements missing and unexpected.

If only the removals come in another order, the shadows are the same, element by element. -/
theorem order_makes_no_difference {config : Config} (hmode : config.comparison = .multiset)
    {items items' : List α} (hitems : Reordered items items') {ns ns' : List (Notice α)}
    (hns : List.Forall₂ Notice.Alike ns ns') :
    let t := (start config items).run ns
    let t' := (start config items').run ns'
    Reordered t.verifier.shadow.items t'.verifier.shadow.items ∧
      t.verifier.stats = t'.verifier.stats ∧
      (∀ n n', n.Alike n' →
        Reordered (t.strays n) (t'.strays n') ∧
          Option.Rel Mismatch.Alike (t.complaint n) (t'.complaint n')) ∧
      ∀ ms ms', List.Forall₂ Notice.SameAdditions ms ms' →
        ((start config items).run ms).verifier.shadow =
          ((start config items).run ms').verifier.shadow := by
  intro t t'
  have halike : t.Alike t' := (Alike.start config hitems).run hns
  have hcompares : t.verifier.config.comparison = .multiset := by rw [run_config]; exact hmode
  refine ⟨halike.shadow, halike.stats, fun n n' hn => ?_, fun ms ms' hms => ?_⟩
  · exact ⟨Shadow.reordered_unmatched halike.shadow hn.change, halike.complaint hcompares hn⟩
  · exact shadow_run_congr rfl hms

omit [BEq α] [EquivBEq α] in
/-- Equal elements, removals that find nothing, and a complaint, all in two orders. -/
theorem order_makes_no_difference_with_strays :
    let config : Config := { onMismatch := .record }
    let before : List (Notice Nat) := [⟨⟨[2, 9, 7], [3, 4]⟩, [1, 2, 3]⟩]
    let before' : List (Notice Nat) := [⟨⟨[7, 2, 9], [4, 3]⟩, [3, 1, 2]⟩]
    let next : Notice Nat := ⟨⟨[3, 8], [5]⟩, [5, 6, 2]⟩
    let next' : Notice Nat := ⟨⟨[8, 3], [5]⟩, [2, 6, 5]⟩
    let t := (start config [1, 2, 2]).run before
    let t' := (start config [2, 1, 2]).run before'
    Reordered [1, 2, 2] [2, 1, 2] ∧ List.Forall₂ Notice.Alike before before' ∧ next.Alike next' ∧
      t.verifier.shadow.items = [1, 2, 3, 4] ∧ t'.verifier.shadow.items = [1, 2, 4, 3] ∧
      t.verifier.stats = { events := 1, added := 2, removed := 1, unmatched := 2 } ∧
      t'.verifier.stats = t.verifier.stats ∧
      t.strays next = [8] ∧ Reordered (t.strays next) (t'.strays next') ∧
      (∃ m m', t.complaint next = some m ∧ t'.complaint next' = some m' ∧ m.Alike m') ∧
      ((start config [1, 2, 2]).run [⟨⟨[2, 9, 1], [3]⟩, []⟩]).verifier.shadow =
        ((start config [1, 2, 2]).run [⟨⟨[1, 2, 9], [3]⟩, []⟩]).verifier.shadow := by
  intro config before before' next next' t t'
  have hitems : Reordered [1, 2, 2] [2, 1, 2] := reordered_iff_perm.mpr (by decide)
  have hnotice : ∀ {c c' : Change Nat} {l l' : List Nat}, c.removed ~ c'.removed →
      c.added ~ c'.added → l ~ l' → (⟨c, l⟩ : Notice Nat).Alike ⟨c', l'⟩ := fun hr ha hl =>
    ⟨⟨reordered_iff_perm.mpr hr, reordered_iff_perm.mpr ha⟩, reordered_iff_perm.mpr hl⟩
  have hbefore : List.Forall₂ Notice.Alike before before' :=
    .cons (hnotice (by decide) (by decide) (by decide)) .nil
  have hnext : next.Alike next' := hnotice (by decide) (by decide) (by decide)
  have hmode : config.comparison = .multiset := rfl
  obtain ⟨-, hstats, halike, hremovals⟩ := order_makes_no_difference hmode hitems hbefore
  obtain ⟨hstrays, hcomplaint⟩ := halike next next' hnext
  have hcomplains : (t.complaint next).isSome = true := by decide
  refine ⟨hitems, hbefore, hnext, by decide, by decide, by decide, hstats.symm, by decide, hstrays,
    ?_, ?_⟩
  · obtain ⟨m, hm⟩ := Option.isSome_iff_exists.mp hcomplains
    rw [hm] at hcomplaint
    cases hm' : t'.complaint next' with
    | none =>
      rw [hm'] at hcomplaint
      cases hcomplaint
    | some m' =>
      rw [hm'] at hcomplaint
      cases hcomplaint with
      | some h => exact ⟨m, m', hm, rfl, h⟩
  · exact hremovals _ _ (.cons ⟨reordered_iff_perm.mpr (by decide), rfl⟩ .nil)

end Inspection

end ChangeAudit
