/-
# Attaching a verifier while something is pending

A verifier may come at any moment, also while a batch is open.  Its snapshot then contains what is
pending already, and when the batch ends the report tells it of the same changes again.  This is
harmless only if the pending change would not move any count of the snapshot: it has to add and
remove equally many of each element, and the snapshot has to hold what it removes
(`Journal.Settled`).

So attaching is safe at such a moment, and only then: at any other, the very first notification
finds a mismatch or an unmatched removal, although the list has reported all that it should
(`attachment_safe_iff_settled`).
-/
import ChangeAudit.Proofs.Verifier.Tracking

namespace ChangeAudit

variable {τ α : Type} [BEq α]

/-! ## 1. Settled journals -/

/-- Replaying the pending change on the items would leave all counts as they are. -/
def Journal.Settled (j : Journal α) : Prop :=
  ∀ x, j.pending.removed.count x = j.pending.added.count x ∧
    j.pending.removed.count x ≤ j.items.count x

namespace Session

/-! ## 2. Before the first notification -/

/-- The verifier has not been told of anything since `start`. -/
structure Untold (start t : Session τ α) : Prop where
  shadow : t.verifier.shadow = start.verifier.shadow
  unmatched : t.verifier.stats.unmatched = start.verifier.stats.unmatched
  /-- What was pending as removed still is. -/
  removed : start.list.journal.pending.removed.Sublist t.list.journal.pending.removed

variable [Element α] {t start : Session τ α} {id : SubscriptionId} {a : Action α} {c : Change α}
  {config : Config}

/-- Until the first notification nothing changes but the list, unless something is lost. -/
theorem Run.untold (h : Run id start t) (hvalid : start.list.registry.Valid)
    (hevents : t.verifier.stats.events = 0) (hlost : t.lost = []) : Untold start t := by
  induction h with
  | start => exact ⟨rfl, rfl, .refl _⟩
  | @act t h a ha ih =>
    obtain ⟨hbefore, hnone⟩ := List.append_eq_nil_iff.mp hlost
    rcases t.list.journal.step_fate a with hk | hr | ⟨-, hl⟩
    · obtain ⟨hverifier, -⟩ := after_of_quiet hk.reported
      rw [hverifier] at hevents
      have hu := ih hevents hbefore
      refine ⟨?_, ?_, ?_⟩
      · rw [hverifier]
        exact hu.shadow
      · rw [hverifier]
        exact hu.unmatched
      · rw [after_journal, hk.journal, Journal.gathered_pending]
        exact hu.removed.trans (Change.removed_sublist_recordAll _ _)
    · obtain ⟨halone, -⟩ := after_of_reported (h.valid hvalid) ha hr.reported
      rw [halone.stats, Verifier.told_stats] at hevents
      exact absurd hevents (Nat.succ_ne_zero _)
    · rw [hl.lost] at hnone
      cases hnone
  | aside _ hjournal _ hverifier hsame ih =>
    rw [hverifier.stats] at hevents
    have hu := ih hevents (hsame.symm.trans hlost)
    refine ⟨hverifier.shadow.trans hu.shadow, ?_, ?_⟩
    · rw [hverifier.stats]
      exact hu.unmatched
    · rw [hjournal]
      exact hu.removed

/-! ## 3. When attaching is safe -/

variable [EquivBEq α]

/-- With a settled journal at the start, no notification finds anything. -/
theorem Run.sound_of_settled (h : Run id start t) (hstart : start.Attached config)
    (hmode : config.comparison = .multiset) (hsettled : start.list.journal.Settled)
    (hlost : t.lost = []) (ha : t.Allows id a) (hc : (t.list.journal.step a).reported = some c) :
    t.verifier.finding (t.list.journal.step a).journal.items c = none ∧
      (t.after a).verifier.stats.unmatched = 0 := by
  have hin := h.inStep hstart hmode (hstart.inStep (.of_level hsettled)) hlost
  obtain ⟨-, hfinding, hnext⟩ := hin.after (h.comparison_eq hstart hmode) (h.valid hstart.valid) ha
  exact ⟨hfinding c hc, (hnext ((after_lost_of_reported hc).trans hlost)).unmatched⟩

/-- If the first notification finds nothing, the journal was settled at the start. -/
theorem Run.settled_of_sound (h : Run id start t) (hstart : start.Attached config)
    (hmode : config.comparison = .multiset) (hverify : config.verifyOnChange = true)
    (hlost : t.lost = []) (ha : t.Allows id a) (hc : (t.list.journal.step a).reported = some c)
    (hevents : t.verifier.stats.events = 0)
    (hfinding : t.verifier.finding (t.list.journal.step a).journal.items c = none)
    (hunmatched : (t.after a).verifier.stats.unmatched = 0) : start.list.journal.Settled := by
  have hu := h.untold hstart.valid hevents hlost
  have hreported := Journal.reported_of_step hc
  intro x
  constructor
  · -- the counts agree after the notification, so nothing was unexplained at the start
    have hsame := (finding_eq_none_iff (h.comparison_eq hstart hmode) _ _).mp hfinding
      (by rw [h.config_eq hstart]; exact hverify) x
    have hdivergence := (Run.act h a ha).divergence_eq hstart hunmatched x
    have hshadow := (after_of_reported (h.valid hstart.valid) ha hc).1.shadow
    rw [divergence, lostNet, after_lost_of_reported hc, hlost, ObservableList.items, after_journal,
      hshadow, Verifier.told_shadow, hsame, hreported.journal] at hdivergence
    simp only [Change.net, Change.netAll, Change.empty, List.count_nil] at hdivergence
    omega
  · -- what was pending as removed was reported as such, and found in the snapshot
    rw [unmatched_after_of_reported (h.valid hstart.valid) ha hc] at hunmatched
    have hmatched := (Shadow.unmatched_eq_nil_iff _ _).mp
      (List.eq_nil_of_length_eq_zero (Nat.eq_zero_of_add_eq_zero_left hunmatched)) x
    rw [hu.shadow, hstart.verifier] at hmatched
    refine Nat.le_trans ?_ hmatched
    have hc' := hreported.reported
    rw [hc, Option.some.injEq, Journal.gathered_pending] at hc'
    rw [hc']
    exact (hu.removed.trans (Change.removed_sublist_recordAll _ _)).count_le x

/-- **Attaching is safe just if the journal is settled.**  If it is, no notification finds a
mismatch and no removal goes unmatched, as long as nothing is lost; if it is not, the first
notification shows it. -/
theorem attachment_safe_iff_settled (hmode : config.comparison = .multiset)
    (hverify : config.verifyOnChange = true) (hstart : start.Attached config)
    (hrun : Run id start t) (hlost : t.lost = []) (ha : t.Allows id a)
    (hc : (t.list.journal.step a).reported = some c) :
    (start.list.journal.Settled →
      t.verifier.finding (t.list.journal.step a).journal.items c = none ∧
        (t.after a).verifier.stats.unmatched = 0) ∧
    (t.verifier.stats.events = 0 →
      (t.verifier.finding (t.list.journal.step a).journal.items c = none ∧
        (t.after a).verifier.stats.unmatched = 0 ↔ start.list.journal.Settled)) := by
  have hsound : start.list.journal.Settled → _ := fun hsettled =>
    hrun.sound_of_settled hstart hmode hsettled hlost ha hc
  refine ⟨hsound, fun hevents => ⟨?_, hsound⟩⟩
  rintro ⟨hfinding, hunmatched⟩
  exact hrun.settled_of_sound hstart hmode hverify hlost ha hc hevents hfinding hunmatched

/-- In an open batch that has added an element, attaching is not safe; in one that has removed an
element and added it again, it is. -/
theorem attachment_safe_iff_settled_in_batch :
    let list (m : List (Mutation Int64)) : ObservableList (Verifier Int64 × Unit) Int64 :=
      { journal := m.foldl (fun j m => (j.step (.mutate m)).journal)
          ({ items := [1] } : Journal Int64).opened,
        registry := { listName := "numbers", source := 0 } }
    let added := (attach { onMismatch := .record } (list [.push 2]) ()).1
    let restored := (attach { onMismatch := .record } (list [.remove 1, .push 1]) ()).1
    ¬ added.list.journal.Settled ∧
      (added.list.journal.step .endBatch).reported = some ⟨[], [2]⟩ ∧
      ¬ (added.verifier.finding [1, 2] ⟨[], [2]⟩ = none ∧
        (added.after .endBatch).verifier.stats.unmatched = 0) ∧
      restored.list.journal.Settled ∧
      (restored.list.journal.step .endBatch).reported = some ⟨[1], [1]⟩ ∧
      restored.verifier.finding [1] ⟨[1], [1]⟩ = none ∧
      (restored.after .endBatch).verifier.stats.unmatched = 0 := by
  intro list added restored
  have hunsettled : ¬ added.list.journal.Settled := fun h => absurd (h 2).1 (by decide)
  have hsettled : restored.list.journal.Settled := fun x => ⟨rfl, Nat.le_refl _⟩
  have hattached : ∀ m, (attach { onMismatch := .record } (list m) ()).1.Attached
      { onMismatch := .record } := fun m => attached_attach (Registry.valid_new _ _) _ _
  have hadded := attachment_safe_iff_settled (a := .endBatch) (c := ⟨[], [2]⟩)
    rfl rfl (hattached [.push 2]) (.start : Run ⟨0, 0⟩ _ _) rfl (.of_alone rfl (by decide)) rfl
  have hrestored := attachment_safe_iff_settled (a := .endBatch) (c := ⟨[1], [1]⟩)
    rfl rfl (hattached [.remove 1, .push 1]) (.start : Run ⟨0, 0⟩ _ _) rfl (.of_alone rfl (by decide)) rfl
  exact ⟨hunsettled, rfl, fun h => hunsettled ((hadded.2 rfl).mp h), hsettled, rfl,
    hrestored.1 hsettled⟩

end Session

end ChangeAudit
