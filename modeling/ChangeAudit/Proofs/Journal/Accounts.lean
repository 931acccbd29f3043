/-
# The pending change accounts for the contents

A change accounts for the way from one list to another if it removes nothing that the first does
not hold, adds nothing that the second does not hold, and the counts and sizes add up
(`Change.AccountsFor`).

At every moment the pending change accounts for the way from the base to the items, where the base
is the contents at the latest of three moments: the start, the last report, and the last
abandonment of all that was pending.  So a report accounts for all that happened since the report
before it, unless a batch was abandoned in between (`pending_accounts_for_items`).  Batches may
nest or overlap, an insertion may be cut short, a removal may cancel an addition of the same
batch: none of this matters.
-/
import ChangeAudit.Proofs.Journal.Steps

namespace ChangeAudit

open Counting
open scoped List

variable {α : Type}

/-! ## 1. Accounting for a difference -/

/-- The change tells exactly how `items` came from `base`, up to order. -/
structure Change.AccountsFor [BEq α] (c : Change α) (base items : List α) : Prop where
  removed_le : ∀ x, c.removed.count x ≤ base.count x
  added_le : ∀ x, c.added.count x ≤ items.count x
  count_eq : ∀ x, items.count x = base.count x - c.removed.count x + c.added.count x
  length_eq : items.length + c.removed.length = base.length + c.added.length

namespace Change.AccountsFor

variable [BEq α]

/-- A change accounts for a difference if its net effect and its growth do, and it removes only
what was there. -/
theorem of_net {c : Change α} {base items : List α}
    (hle : ∀ x, c.removed.count x ≤ base.count x)
    (hnet : ∀ x, (items.count x : Int) - c.net x = base.count x)
    (hgrowth : (items.length : Int) - c.growth = base.length) : c.AccountsFor base items := by
  refine ⟨hle, ?_, ?_, ?_⟩
  · intro x
    have h1 := hle x
    have h2 := hnet x
    rw [net] at h2
    omega
  · intro x
    have h1 := hle x
    have h2 := hnet x
    rw [net] at h2
    omega
  · rw [growth] at hgrowth
    omega

theorem net_eq {c : Change α} {base items : List α} (h : c.AccountsFor base items) (x : α) :
    (items.count x : Int) - c.net x = base.count x := by
  have h1 := h.removed_le x
  have h2 := h.count_eq x
  rw [net]
  omega

theorem growth_eq {c : Change α} {base items : List α} (h : c.AccountsFor base items) :
    (items.length : Int) - c.growth = base.length := by
  have h1 := h.length_eq
  rw [growth]
  omega

/-- Nothing accounts for no difference. -/
theorem refl (items : List α) : (.empty : Change α).AccountsFor items items := by
  refine of_net (fun x => Nat.zero_le _) (fun x => ?_) ?_
  · rw [net_empty]
    omega
  · rw [growth_empty]
    omega

/-- A change that removes and adds equally many of each element accounts for no difference, if
what it removes is there. -/
theorem of_level [EquivBEq α] {c : Change α} {items : List α}
    (h : ∀ x, c.removed.count x = c.added.count x ∧ c.removed.count x ≤ items.count x) :
    c.AccountsFor items items := by
  refine ⟨fun x => (h x).2, fun x => ?_, fun x => ?_, ?_⟩
  · rw [← (h x).1]
    exact (h x).2
  · obtain ⟨heq, hle⟩ := h x
    omega
  · rw [length_eq_of_count_eq fun x => (h x).1]

/-- Nothing accounts for a difference in order. -/
theorem of_count_eq [EquivBEq α] {base items : List α}
    (h : ∀ x, base.count x = items.count x) : (.empty : Change α).AccountsFor base items := by
  refine of_net (fun x => Nat.zero_le _) (fun x => ?_) ?_
  · rw [net_empty, h x]
    omega
  · rw [growth_empty, length_eq_of_count_eq h]
    omega

variable [PartialEquivBEq α]

/-- **A recorded removal never exceeds the base.**  If the removal cancels nothing, no addition of
that element is waiting; so the element that is leaving came from the base. -/
theorem removed_le_record {c : Change α} {base xs rest : List α} {y : α}
    (h : c.AccountsFor base xs) (hy : xs ~ y :: rest) (x : α) :
    (c.record (.removed y)).removed.count x ≤ base.count x := by
  cases hw : c.added.any (· == y) with
  | true =>
    rw [record, recordRemoved_of_waiting hw]
    exact h.removed_le x
  | false =>
    have hcount : xs.count x = [y].count x + rest.count x := by
      rw [hy.count_eq, count_cons_add y rest]
    have hle := h.removed_le x
    have heq := h.count_eq x
    rw [record, recordRemoved_of_not_waiting hw, List.count_append]
    rcases count_eq_zero_of_not_any hw x with hzero | hnone
    · omega
    · omega

/-- **Editing and gathering the same entries keeps the accounts.** -/
theorem edits {base items items' : List α} {es : List (Entry α)} (he : Edits items es items')
    {c : Change α} (h : c.AccountsFor base items) : (c.recordAll es).AccountsFor base items' := by
  induction he generalizing c with
  | done hperm =>
    refine of_net h.removed_le (fun x => ?_) ?_
    · rw [← hperm.count_eq, Change.recordAll_nil]
      exact h.net_eq x
    · rw [← hperm.length_eq, Change.recordAll_nil]
      exact h.growth_eq
  | @added xs ys es y _ ih =>
    have hone : Edits xs [.added y] (y :: xs) := .of_added [y] (.refl _)
    rw [recordAll_cons]
    refine ih (of_net h.removed_le (fun x => ?_) ?_)
    · exact (hone.count_sub_net c x).trans (h.net_eq x)
    · exact (hone.length_sub_growth c).trans h.growth_eq
  | @removed xs rest ys es y hy _ ih =>
    have hone : Edits xs [.removed y] rest := .of_removed [y] hy
    rw [recordAll_cons]
    refine ih (of_net (h.removed_le_record hy) (fun x => ?_) ?_)
    · exact (hone.count_sub_net c x).trans (h.net_eq x)
    · exact (hone.length_sub_growth c).trans h.growth_eq

/-- The first half of a step keeps the accounts, unless a selector panics. -/
theorem gathered {j : Journal α} {base : List α} (h : j.pending.AccountsFor base j.items)
    {a : Action α} (ha : (j.step a).answer ≠ .error .predicate) :
    (j.gathered a).pending.AccountsFor base (j.gathered a).items := by
  rw [j.gathered_pending a]
  exact h.edits (j.gathered_edits a ha)

end Change.AccountsFor

/-! ## 2. The past of a journal -/

/-- Whether an action ends the last open batch by abandoning it; `after` is the journal that it
leaves. -/
def Action.abandonsAll (after : Journal α) : Action α → Bool
  | .abandonBatch => after.depth == 0
  | .mutate _ | .openBatch | .endBatch => false

/-- A journal, and what is remembered of its past. -/
structure Chronicle (α : Type) where
  journal : Journal α
  /-- The contents at the last report; before the first, the initial contents. -/
  told : List α
  /-- The contents at the latest of the start, the last report and the last abandonment. -/
  base : List α
  /-- Whether the last open batch was abandoned since the last report. -/
  abandoned : Bool := false

namespace Chronicle

/-- A list that has no past. -/
def ofItems (items : List α) : Chronicle α := { journal := { items }, told := items, base := items }

/-- What is remembered after one more action. -/
def after [BEq α] (h : Chronicle α) (a : Action α) : Chronicle α :=
  let s := h.journal.step a
  if s.reported.isSome then { journal := s.journal, told := s.journal.items, base := s.journal.items }
  else if a.abandonsAll s.journal then
    { h with journal := s.journal, base := s.journal.items, abandoned := true }
  else { h with journal := s.journal }

/-- The states that a list with initial contents `items` can come to; no selector panics on the
way.  Batches may be opened, ended and abandoned in any order. -/
inductive Reachable [BEq α] (items : List α) : Chronicle α → Prop where
  | start : Reachable items (.ofItems items)
  | step {h : Chronicle α} (hr : Reachable items h) (a : Action α)
      (ha : (h.journal.step a).answer ≠ .error .predicate) : Reachable items (h.after a)

/-- What holds of every past. -/
structure Sound [BEq α] (h : Chronicle α) : Prop where
  accounts : h.journal.pending.AccountsFor h.base h.journal.items
  base_eq : h.abandoned = false → h.base = h.told

variable [BEq α]

theorem after_of_reported {h : Chronicle α} {a : Action α} {c : Change α}
    (hc : (h.journal.step a).reported = some c) :
    h.after a =
      { journal := (h.journal.step a).journal, told := (h.journal.step a).journal.items,
        base := (h.journal.step a).journal.items } := by
  simp [after, hc]

theorem after_of_abandons {h : Chronicle α} {a : Action α}
    (hc : (h.journal.step a).reported = none)
    (ha : a.abandonsAll (h.journal.step a).journal = true) :
    h.after a =
      { h with journal := (h.journal.step a).journal, base := (h.journal.step a).journal.items,
               abandoned := true } := by
  simp [after, hc, ha]

theorem after_of_quiet {h : Chronicle α} {a : Action α}
    (hc : (h.journal.step a).reported = none)
    (ha : a.abandonsAll (h.journal.step a).journal = false) :
    h.after a = { h with journal := (h.journal.step a).journal } := by
  simp [after, hc, ha]

/-- Abandoning all leaves nothing pending, whether or not something was lost. -/
theorem pending_of_abandons {j : Journal α} {a : Action α}
    (ha : a.abandonsAll (j.step a).journal = true) : (j.step a).journal.pending = .empty := by
  cases a with
  | abandonBatch =>
    have hdone : (j.step .abandonBatch).answer = .ok .done := rfl
    exact Journal.step_pending_of_closed hdone (eq_of_beq ha)
  | mutate m => cases ha
  | openBatch => cases ha
  | endBatch => cases ha

variable [PartialEquivBEq α]

/-- One step keeps it. -/
theorem Sound.after {h : Chronicle α} (hs : h.Sound) {a : Action α}
    (ha : (h.journal.step a).answer ≠ .error .predicate) : (h.after a).Sound := by
  have hg := hs.accounts.gathered ha
  cases hab : a.abandonsAll (h.journal.step a).journal with
  | true =>
    have hp := pending_of_abandons hab
    rcases h.journal.step_fate a with hk | hr | ⟨-, hl⟩
    · rw [after_of_abandons hk.reported hab]
      exact ⟨hp ▸ .refl _, fun hf => by cases hf⟩
    · rw [after_of_reported hr.reported]
      exact ⟨hp ▸ .refl _, fun _ => rfl⟩
    · rw [after_of_abandons hl.reported hab]
      exact ⟨hp ▸ .refl _, fun hf => by cases hf⟩
  | false =>
    rcases h.journal.step_fate a with hk | hr | ⟨rfl, hl⟩
    · rw [after_of_quiet hk.reported hab, hk.journal]
      exact ⟨hg, hs.base_eq⟩
    · rw [after_of_reported hr.reported, hr.journal]
      exact ⟨.refl _, fun _ => rfl⟩
    · rw [hl.journal] at hab
      exact absurd hl.depth (ne_of_beq_false hab)

/-- So every reachable past is sound. -/
theorem Reachable.sound {items : List α} {h : Chronicle α} (hr : Reachable items h) :
    h.Sound := by
  induction hr with
  | start => exact ⟨.refl items, fun _ => rfl⟩
  | step _ a ha ih => exact ih.after ha

/-! ## 3. What the pending change and the reports account for -/

/-- **In every reachable state the pending change accounts for the way from the base to the
items.**  And every report accounts for the way from the contents at the report before it to the
contents now, if no batch was abandoned in between. -/
theorem pending_accounts_for_items {items : List α} {h : Chronicle α} (hr : Reachable items h) :
    h.journal.pending.AccountsFor h.base h.journal.items ∧
      ∀ (a : Action α) (c : Change α), (h.journal.step a).reported = some c →
        h.abandoned = false → c.AccountsFor h.told (h.journal.step a).journal.items := by
  refine ⟨hr.sound.accounts, ?_⟩
  intro a c hc hab
  obtain ⟨answer, ha⟩ := Journal.answer_of_reported hc
  have hg := hr.sound.accounts.gathered (a := a) (by rw [ha]; exact fun hf => by cases hf)
  have hrep := Journal.reported_of_step hc
  rw [hrep.reported, Option.some.injEq] at hc
  rw [← hc, hrep.journal, ← hr.sound.base_eq hab]
  exact hg

/-- Two overlapping batches, of which one is abandoned; an insertion that is cut short, a removal
from the initial contents and one that cancels an addition; then the other batch ends. -/
theorem pending_accounts_for_items_overlapping :
    let h := ((((((ofItems [1, 2, 2]).after .openBatch).after .openBatch).after
      (.mutate (.extend [5, 5] true))).after .abandonBatch).after (.mutate (.remove 2))).after
      (.mutate (.remove 5))
    Reachable [1, 2, 2] h ∧ h.journal.pending = ⟨[2], [5]⟩ ∧
      h.journal.pending.AccountsFor [1, 2, 2] [1, 2, 5] ∧
      (h.journal.step .endBatch).reported = some ⟨[2], [5]⟩ ∧ h.abandoned = false ∧
      (⟨[2], [5]⟩ : Change Nat).AccountsFor [1, 2, 2] [1, 2, 5] := by
  intro h
  have hr : Reachable [1, 2, 2] h :=
    .step (.step (.step (.step (.step (.step .start .openBatch (by decide)) .openBatch
      (by decide)) (.mutate (.extend [5, 5] true)) (by decide)) .abandonBatch (by decide))
      (.mutate (.remove 2)) (by decide)) (.mutate (.remove 5)) (by decide)
  obtain ⟨hpending, hreport⟩ := pending_accounts_for_items hr
  exact ⟨hr, rfl, hpending, rfl, rfl, hreport .endBatch _ rfl rfl⟩

end Chronicle

end ChangeAudit
