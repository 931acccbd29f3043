/-
# What a panicking selector drops

A selector may panic on any element that it visits.  By then the removal has taken all items out of
the list and recorded none of them, and so it leaves them: the list is empty, the pending change is
as it was, and nobody is told (`Journal.step_of_predicate`).

So the pending change does not account for the way from the base to the items any longer.  It
accounts for the way from the base to the items *together with all that selectors have dropped*
since that base (`Inventory.Reachable.accounts`).  Neither more nor less than what was dropped
stays unexplained, and whoever replays the reports will miss just that
(`panicking_selector_drops_items`).
-/
import ChangeAudit.Proofs.Journal.Accounts
import ChangeAudit.Proofs.Mismatch.Counts
import ChangeAudit.Proofs.Shadow.Counts

namespace ChangeAudit

open Counting

variable {α : Type}

/-! ## 1. A step that a selector cuts short -/

/-- What stands aside takes no part in an edit. -/
theorem Edits.append_right {xs ys : List α} {es : List (Entry α)} (h : Edits xs es ys)
    (aside : List α) : Edits (xs ++ aside) es (ys ++ aside) := by
  induction h with
  | done h => exact .done (h.append_right aside)
  | added x _ ih => exact .added x ih
  | removed x hx _ ih => exact .removed x (hx.append_right aside) ih

/-- **A selector that panics empties the list and leaves everything else as it is.** -/
theorem Journal.step_of_predicate [BEq α] {j : Journal α} {a : Action α}
    (h : (j.step a).answer = .error .predicate) :
    j.step a = { journal := { j with items := [] }, answer := .error .predicate } ∧
      j.items ≠ [] := by
  cases a with
  | mutate m =>
    rw [step_mutate_answer] at h
    obtain ⟨hitems, -, hne⟩ := apply_of_predicate h
    refine ⟨?_, hne⟩
    rw [step]
    rcases hm : j.apply m with ⟨after, cause | answer⟩
    · rw [hm] at h hitems
      cases h
      rw [← hitems]
    · rw [hm] at h
      cases h
  | openBatch => cases h
  | endBatch => cases h
  | abandonBatch => cases h

/-! ## 2. What was dropped since the base -/

/-- A journal, the contents at the latest of the start, the last report and the last abandonment,
and what panicking selectors have dropped since then. -/
structure Inventory (α : Type) where
  journal : Journal α
  base : List α
  dropped : List α := []

namespace Inventory

variable [BEq α]

/-- Whether an action reports, or abandons the last open batch. -/
def rebases (v : Inventory α) (a : Action α) : Bool :=
  (v.journal.step a).reported.isSome || a.abandonsAll (v.journal.step a).journal

/-- What is remembered after one more action. -/
def after (v : Inventory α) (a : Action α) : Inventory α :=
  let s := v.journal.step a
  if v.rebases a then { journal := s.journal, base := s.journal.items }
  else if s.answer == .error .predicate then
    { v with journal := s.journal, dropped := v.journal.items ++ v.dropped }
  else { v with journal := s.journal }

/-- All that a list with initial contents can come to; selectors may panic on the way. -/
inductive Reachable (items : List α) : Inventory α → Prop where
  | start : Reachable items { journal := { items }, base := items }
  | step {v : Inventory α} (h : Reachable items v) (a : Action α) : Reachable items (v.after a)

variable {v : Inventory α} {a : Action α} {items : List α}

/-- A new base comes with nothing pending. -/
theorem pending_of_rebases (h : v.rebases a = true) :
    (v.journal.step a).journal.pending = .empty := by
  rw [rebases, Bool.or_eq_true] at h
  rcases h with hsome | habandons
  · obtain ⟨c, hc⟩ := Option.isSome_iff_exists.mp hsome
    rw [(Journal.reported_of_step hc).journal]
  · exact Chronicle.pending_of_abandons habandons

/-- Without a new base the pending change stays. -/
theorem kept_of_not_rebases (h : v.rebases a = false) :
    (v.journal.gathered a).Kept (v.journal.step a) := by
  rw [rebases, Bool.or_eq_false_iff] at h
  obtain ⟨hquiet, habandons⟩ := h
  rcases v.journal.step_fate a with hk | hr | ⟨rfl, hl⟩
  · exact hk
  · rw [hr.reported] at hquiet
    cases hquiet
  · rw [hl.journal] at habandons
    exact absurd hl.depth (ne_of_beq_false habandons)

/-- A selector that panics is no occasion for a new base. -/
theorem not_rebases_of_predicate (h : (v.journal.step a).answer = .error .predicate) :
    v.rebases a = false := by
  cases a with
  | mutate m =>
    rw [rebases, (Journal.step_of_predicate h).1]
    rfl
  | openBatch => cases h
  | endBatch => cases h
  | abandonBatch => cases h

variable [PartialEquivBEq α]

/-- **The pending change accounts for the items and all that was dropped.** -/
theorem Reachable.accounts (h : Reachable items v) :
    v.journal.pending.AccountsFor v.base (v.journal.items ++ v.dropped) := by
  induction h with
  | start =>
    rw [List.append_nil]
    exact .refl items
  | @step v h a ih =>
    by_cases hp : (v.journal.step a).answer = .error .predicate
    · -- the items join what was dropped before
      rw [after, not_rebases_of_predicate hp, (Journal.step_of_predicate hp).1]
      exact ih
    · have hpanic : ((v.journal.step a).answer == .error .predicate) = false :=
        beq_false_of_ne hp
      rw [after, hpanic]
      cases hb : v.rebases a with
      | true =>
        rw [if_pos rfl, pending_of_rebases hb, List.append_nil]
        exact .refl _
      | false =>
        have hedits := (v.journal.gathered_edits a hp).append_right v.dropped
        have hgathered := ih.edits hedits
        rw [← v.journal.gathered_pending a] at hgathered
        rw [if_neg Bool.false_ne_true, if_neg Bool.false_ne_true,
          (kept_of_not_rebases hb).journal]
        exact hgathered

end Inventory

/-! ## 3. What stays unexplained -/

/-- **A selector that panics, on whichever element, drops all items, and nothing accounts for
them.**  The list is empty afterwards, the pending change is the one from before, and nobody is
told.  The counts of the list are then not those of the base with the pending change: what is
lacking is what was dropped, now or earlier.  So a shadow that was in step with the base misses
exactly that, once it is told of all that was pending. -/
theorem panicking_selector_drops_items [BEq α] [EquivBEq α] {items : List α} {v : Inventory α}
    (h : v.Reachable items) {selector : Selector α}
    (hp : (v.journal.step (.mutate (.removeWhere selector))).answer = .error .predicate) :
    let s := v.journal.step (.mutate (.removeWhere selector))
    s.journal = { v.journal with items := [] } ∧ s.reported = none ∧ s.lost = none ∧
      s.journal.pending.AccountsFor v.base (v.journal.items ++ v.dropped) ∧
      (∃ x, s.journal.items.count x ≠ v.base.count x - s.journal.pending.removed.count x +
        s.journal.pending.added.count x) ∧
      ∀ t : Shadow α, (∀ x, t.items.count x = v.base.count x) → ∀ x,
        (excess (t.apply s.journal.pending).1.items s.journal.items).count x =
          (v.journal.items ++ v.dropped).count x := by
  intro s
  obtain ⟨hs, hne⟩ := Journal.step_of_predicate hp
  have haccounts := h.accounts
  have hjournal : s.journal = { v.journal with items := [] } := congrArg Step.journal hs
  refine ⟨hjournal, congrArg Step.reported hs, congrArg Step.lost hs, ?_, ?_, ?_⟩
  · rw [hjournal]
    exact haccounts
  · -- any element that was there is counted among the dropped ones
    obtain ⟨x, hx⟩ := List.exists_mem_of_ne_nil _ hne
    have hpos : 0 < v.journal.items.count x :=
      any_beq_iff.mp (List.any_eq_true.mpr ⟨x, hx, BEq.rfl⟩)
    have hcount := haccounts.count_eq x
    rw [List.count_append] at hcount
    refine ⟨x, ?_⟩
    rw [hjournal, List.count_nil]
    dsimp only
    omega
  · intro t ht x
    rw [hjournal, excess_count, Shadow.apply_count, ht x, List.count_nil, Nat.sub_zero]
    exact (haccounts.count_eq x).symm

/-- In an open batch that has added an element, a selector panics on the second element that it
visits. -/
theorem panicking_selector_drops_items_in_batch :
    let v := (((⟨{ items := [1, 2] }, [1, 2], []⟩ : Inventory Nat).after .openBatch).after
      (.mutate (.push 3)))
    let second : Selector Nat := fun earlier _ => if earlier.length = 1 then none else some true
    let s := v.journal.step (.mutate (.removeWhere second))
    v.Reachable [1, 2] ∧ v.journal.items = [1, 2, 3] ∧ s.answer = .error .predicate ∧
      s.journal.items = [] ∧ s.journal.pending = ⟨[], [3]⟩ ∧ s.reported = none ∧
      (∃ x, s.journal.items.count x ≠ [1, 2].count x - s.journal.pending.removed.count x +
        s.journal.pending.added.count x) ∧
      (excess ((⟨[1, 2]⟩ : Shadow Nat).apply s.journal.pending).1.items s.journal.items).count 2 =
        1 := by
  intro v second s
  have hv : v.Reachable [1, 2] := .step (.step .start .openBatch) (.mutate (.push 3))
  have hpanics : s.answer = .error .predicate := rfl
  obtain ⟨hjournal, hquiet, -, -, hcount, hmissed⟩ := panicking_selector_drops_items hv hpanics
  refine ⟨hv, rfl, hpanics, congrArg Journal.items hjournal, congrArg Journal.pending hjournal, hquiet,
    hcount, ?_⟩
  exact hmissed ⟨[1, 2]⟩ (fun _ => rfl) 2

end ChangeAudit
