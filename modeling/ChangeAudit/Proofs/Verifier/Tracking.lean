/-
# How far a verifier can be from its list

For each element, the list may hold more or less of it than the shadow of its verifier
(`Session.divergence`).  Three things explain that: what is pending has not been told yet, what
was lost will never be told, and what was pending when the verifier took its snapshot is in the
snapshot already.  As long as every removal was matched there is no other reason
(`Session.Run.divergence_eq`): one step of the list and what it tells the verifier never change
the part of the divergence that is not explained (`Session.unexplained_after`).

If nothing was lost, and nothing was pending at the snapshot, more is true: the pending change
accounts for the way from the shadow to the list.  Then every removal that is reported is matched,
and no notification finds a mismatch (`Session.InStep`, `tracking_divergence`).
-/
import ChangeAudit.Proofs.Journal.Accounts
import ChangeAudit.Proofs.Mismatch.Counts
import ChangeAudit.Proofs.Shadow.Counts
import ChangeAudit.Proofs.Verifier.Session

namespace ChangeAudit.Session

open Counting

variable {τ α : Type} [BEq α]

/-! ## 1. Explained and unexplained divergence -/

/-- The net effect of all that was lost. -/
def lostNet (t : Session τ α) (x : α) : Int := Change.netAll x t.lost

/-- How many more elements equal to `x` the list holds than the shadow. -/
def divergence (t : Session τ α) (x : α) : Int :=
  t.list.items.count x - t.verifier.shadow.items.count x

/-- The part of the divergence that neither lost nor pending changes explain. -/
def unexplained (t : Session τ α) (x : α) : Int :=
  t.divergence x - t.lostNet x - t.list.journal.pending.net x

variable {t start : Session τ α} {id : SubscriptionId} {a : Action α} {config : Config}

/-- A verifier that has just taken its snapshot has seen what is pending. -/
theorem Attached.unexplained_eq (h : start.Attached config) (x : α) :
    start.unexplained x = -start.list.journal.pending.net x := by
  rw [unexplained, divergence, lostNet, h.verifier, h.lost]
  simp only [Verifier.ofSnapshot, Change.netAll]
  omega

section Divergence

variable [Element α] [PartialEquivBEq α]

/-- **No action changes the unexplained part**, unless a removal goes unmatched. -/
theorem unexplained_after (hvalid : t.list.registry.Valid) (ha : t.Allows id a)
    (hu : (t.after a).verifier.stats.unmatched = 0) :
    t.verifier.stats.unmatched = 0 ∧ ∀ x, (t.after a).unexplained x = t.unexplained x := by
  have hmove := Journal.gathered_count_sub_net ha.selects
  have hjournal := after_journal (t := t) (a := a)
  have hlost : ∀ x, (t.after a).lostNet x =
      t.lostNet x + Change.netAll x (t.list.journal.step a).lost.toList :=
    fun x => Change.netAll_append x t.lost _
  rcases t.list.journal.step_fate a with hk | hr | ⟨-, hl⟩
  · -- the pending change is kept, and the verifier is not told
    obtain ⟨hv, -⟩ := after_of_quiet hk.reported
    rw [hv] at hu
    refine ⟨hu, fun x => ?_⟩
    have hx := hmove x
    simp only [unexplained, divergence, ObservableList.items, hv, hlost, hk.lost, hjournal,
      hk.journal, Option.toList_none, Change.netAll]
    omega
  · -- the verifier is told of all that was pending
    obtain ⟨halone, -⟩ := after_of_reported hvalid ha hr.reported
    rw [unmatched_after_of_reported hvalid ha hr.reported] at hu
    have hmatched := List.eq_nil_of_length_eq_zero (Nat.eq_zero_of_add_eq_zero_left hu)
    refine ⟨Nat.eq_zero_of_add_eq_zero_right hu, fun x => ?_⟩
    have hx := hmove x
    have happly := Shadow.apply_count_of_matched hmatched x
    simp only [unexplained, divergence, ObservableList.items, halone.shadow, Verifier.told_shadow,
      hlost, hr.lost, hjournal, hr.journal, Option.toList_none, Change.netAll,
      Change.net_empty]
    omega
  · -- all that was pending is lost
    obtain ⟨hv, -⟩ := after_of_quiet hl.reported
    rw [hv] at hu
    refine ⟨hu, fun x => ?_⟩
    have hx := hmove x
    simp only [unexplained, divergence, ObservableList.items, hv, hlost, hl.lost, hjournal,
      hl.journal, Option.toList_some, Change.netAll, Change.net_empty]
    omega

/-- **As long as every removal was matched, the divergence is what was lost, and what is pending
now, less what was pending at the snapshot.** -/
theorem Run.divergence_eq (h : Run id start t) (hstart : start.Attached config)
    (hu : t.verifier.stats.unmatched = 0) (x : α) :
    t.divergence x =
      t.lostNet x + t.list.journal.pending.net x - start.list.journal.pending.net x := by
  have hsame : t.unexplained x = start.unexplained x := by
    induction h with
    | start => rfl
    | act h a ha ih =>
      obtain ⟨hu', hstep⟩ := unexplained_after (h.valid hstart.valid) ha hu
      exact (hstep x).trans (ih hu')
    | aside _ hjournal _ hverifier hlost ih =>
      rw [hverifier.stats] at hu
      rw [← ih hu]
      simp only [unexplained, divergence, lostNet, ObservableList.items, hjournal, hlost,
        hverifier.shadow]
  rw [hstart.unexplained_eq, unexplained] at hsame
  omega

end Divergence

/-! ## 2. A verifier that has missed nothing -/

/-- The verifier has found nothing wrong, and the pending change is all that it has not been
told. -/
structure InStep (t : Session τ α) : Prop where
  unmatched : t.verifier.stats.unmatched = 0
  violations : t.verifier.violations = []
  accounts : t.list.journal.pending.AccountsFor t.verifier.shadow.items t.list.items

section InStep

variable [EquivBEq α]

/-- Comparing as multisets finds nothing just if all counts are the same, or nothing is compared. -/
theorem finding_eq_none_iff {v : Verifier α} (hmode : v.config.comparison = .multiset)
    (contents : List α) (c : Change α) : v.finding contents c = none ↔
      (v.config.verifyOnChange = true →
        ∀ x, (v.shadow.apply c).1.items.count x = contents.count x) := by
  rw [Verifier.finding_eq, Verifier.liveFor, hmode]
  cases v.config.verifyOnChange with
  | true =>
    rw [if_pos rfl, Option.bind_some, compare_eq_none_iff,
      ComparisonMode.agrees_multiset_iff]
    exact ⟨fun h _ => h, fun h => h rfl⟩
  | false => exact ⟨fun _ h => (Bool.false_ne_true h).elim, fun _ => rfl⟩

/-- Replaying a change that accounts for the way from the shadow to the items leads there. -/
theorem apply_of_accountsFor {s : Shadow α} {c : Change α} {items : List α}
    (h : c.AccountsFor s.items items) :
    (s.apply c).2.unmatched = [] ∧ ∀ x, (s.apply c).1.items.count x = items.count x := by
  refine ⟨(Shadow.unmatched_eq_nil_iff s c).mpr h.removed_le, fun x => ?_⟩
  rw [Shadow.apply_count, h.count_eq]

/-- So a verifier that is told of such a change finds nothing. -/
theorem told_of_accountsFor {v : Verifier α} (hmode : v.config.comparison = .multiset)
    {c : Change α} {contents : List α} (h : c.AccountsFor v.shadow.items contents) :
    v.finding contents c = none ∧ (v.told contents c).mismatch = none ∧
      (v.told contents c).verifier.violations = v.violations := by
  have hfinding : v.finding contents c = none :=
    (finding_eq_none_iff hmode contents c).mpr fun _ => (apply_of_accountsFor h).2
  exact ⟨hfinding, Verifier.told_of_finding_eq_none hfinding⟩

variable [Element α]

/-- **One more action keeps a verifier in step**, unless it loses something: whatever is reported,
nothing is found and the call goes on as if nobody had observed it. -/
theorem InStep.after (h : t.InStep) (hmode : t.verifier.config.comparison = .multiset)
    (hvalid : t.list.registry.Valid) (ha : t.Allows id a) :
    (t.perform a).answer = (t.list.journal.step a).answer ∧
      (∀ c, (t.list.journal.step a).reported = some c →
        t.verifier.finding (t.list.journal.step a).journal.items c = none) ∧
      ((t.after a).lost = [] → (t.after a).InStep) := by
  have hg := h.accounts.gathered ha.selects
  have hjournal := after_journal (t := t) (a := a)
  rcases t.list.journal.step_fate a with hk | hr | ⟨-, hl⟩
  · obtain ⟨hv, hanswer⟩ := after_of_quiet hk.reported
    refine ⟨hanswer, fun c hc => ?_, fun _ => ⟨?_, ?_, ?_⟩⟩
    · rw [hk.reported] at hc
      cases hc
    · rw [hv]
      exact h.unmatched
    · rw [hv]
      exact h.violations
    · rw [hv, ObservableList.items, hjournal, hk.journal]
      exact hg
  · obtain ⟨hmatched, hcounts⟩ := apply_of_accountsFor hg
    obtain ⟨hfinding, hmismatch, hviolations⟩ := told_of_accountsFor hmode hg
    obtain ⟨halone, hanswer⟩ := after_of_reported hvalid ha hr.reported
    rw [hr.journal] at hanswer halone ⊢
    refine ⟨?_, fun c hc => ?_, fun _ => ⟨?_, ?_, ?_⟩⟩
    · rw [hanswer, hmismatch]
    · rw [hr.reported, Option.some.injEq] at hc
      rw [← hc]
      exact hfinding
    · rw [unmatched_after_of_reported hvalid ha hr.reported, h.unmatched, hmatched]
      rfl
    · exact halone.violations_eq_nil (hviolations.trans h.violations)
    · rw [halone.shadow, Verifier.told_shadow, ObservableList.items, hjournal, hr.journal]
      exact .of_count_eq hcounts
  · obtain ⟨hv, hanswer⟩ := after_of_quiet hl.reported
    refine ⟨hanswer, fun c hc => ?_, fun hlost => ?_⟩
    · rw [hl.reported] at hc
      cases hc
    · rw [Session.after, hl.lost] at hlost
      simp at hlost

/-- So a verifier stays in step as long as nothing is lost. -/
theorem Run.inStep (h : Run id start t) (hstart : start.Attached config)
    (hmode : config.comparison = .multiset) (hin : start.InStep) (hlost : t.lost = []) :
    t.InStep := by
  induction h with
  | start => exact hin
  | act h a ha ih =>
    obtain ⟨hbefore, -⟩ := List.append_eq_nil_iff.mp hlost
    exact ((ih hbefore).after (h.comparison_eq hstart hmode) (h.valid hstart.valid) ha).2.2 hlost
  | aside _ hjournal _ hverifier hsame ih =>
    have hbefore := ih (hsame.symm.trans hlost)
    refine ⟨hverifier.stats ▸ hbefore.unmatched, ?_, ?_⟩
    · exact hverifier.violations_eq_nil hbefore.violations
    · rw [hverifier.shadow, ObservableList.items, hjournal]
      exact hbefore.accounts

omit [EquivBEq α] [Element α] in
/-- A snapshot is in step with the list if the pending change accounts for no difference. -/
theorem Attached.inStep (h : start.Attached config)
    (hpending : start.list.journal.pending.AccountsFor start.list.items start.list.items) :
    start.InStep := by
  refine ⟨?_, ?_, ?_⟩
  · rw [h.verifier]
    rfl
  · rw [h.verifier]
    rfl
  · rw [h.verifier]
    exact hpending

/-! ## 3. The divergence of a tracking verifier -/

omit [Element α] in
/-- What a comparison on demand finds, as multisets. -/
theorem verify_multiset {v : Verifier α} (hmode : v.config.comparison = .multiset)
    (live : List α) :
    ((v.verify live).1 = none ↔ ∀ x, v.shadow.items.count x = live.count x) ∧
      ∀ m, (v.verify live).1 = some m → ∀ x,
        m.unexpected.count x = live.count x - v.shadow.items.count x ∧
          m.missing.count x = v.shadow.items.count x - live.count x := by
  rw [Verifier.verify, Verifier.check, hmode]
  refine ⟨?_, ?_⟩
  · rw [compare_eq_none_iff, ComparisonMode.agrees_multiset_iff]
  · intro m hm x
    obtain ⟨hmissing, hunexpected⟩ := count_of_compare_multiset hm x
    exact ⟨hunexpected, hmissing⟩

/-- **A verifier that was attached with nothing pending diverges from its list by what was lost and
what is pending, and by nothing else**, as long as every removal was matched; a comparison on
demand finds exactly that.  If nothing was lost, every removal is matched, no notification finds a
mismatch, and no call on the list panics for the sake of the verifier. -/
theorem tracking_divergence (hmode : config.comparison = .multiset)
    (hstart : start.Attached config) (hidle : start.list.journal.pending = .empty)
    (hrun : Run id start t) :
    (t.verifier.stats.unmatched = 0 →
      (∀ x, t.divergence x = t.lostNet x + t.list.journal.pending.net x) ∧
      ((t.verifier.verify t.list.items).1 = none ↔ ∀ x, t.divergence x = 0) ∧
      ∀ m, (t.verifier.verify t.list.items).1 = some m → ∀ x,
        (m.unexpected.count x : Int) = max 0 (t.divergence x) ∧
          (m.missing.count x : Int) = max 0 (-t.divergence x)) ∧
    (t.lost = [] → t.verifier.stats.unmatched = 0 ∧ t.verifier.violations = [] ∧
      ∀ a, t.Allows id a → (t.perform a).answer = (t.list.journal.step a).answer ∧
        ∀ c, (t.list.journal.step a).reported = some c →
          t.verifier.finding (t.list.journal.step a).journal.items c = none) := by
  have hmodeNow := hrun.comparison_eq hstart hmode
  constructor
  · intro hu
    obtain ⟨hnone, hsome⟩ := verify_multiset hmodeNow t.list.items
    refine ⟨fun x => ?_, ?_, ?_⟩
    · rw [hrun.divergence_eq hstart hu, hidle, Change.net_empty]
      omega
    · rw [hnone]
      refine forall_congr' fun x => ?_
      rw [divergence]
      omega
    · intro m hm x
      obtain ⟨hunexpected, hmissing⟩ := hsome m hm x
      rw [divergence]
      omega
  · intro hlost
    have hin := hrun.inStep hstart hmode (hstart.inStep (by rw [hidle]; exact .refl _)) hlost
    refine ⟨hin.unmatched, hin.violations, fun a ha => ?_⟩
    obtain ⟨hanswer, hfinding, -⟩ := hin.after hmodeNow (hrun.valid hstart.valid) ha
    exact ⟨hanswer, hfinding⟩

end InStep

/-- A batch loses an addition; the shadow lacks it from then on, and nothing else. -/
theorem tracking_divergence_after_loss :
    let start : Session Unit Int64 :=
      (attach { onMismatch := .record } (.ofItems "numbers" 0 [1, 2]) ()).1
    let batch := (start.after .openBatch).after (.mutate (.push 3))
    let lossy := (batch.after .abandonBatch).after (.mutate (.remove 1))
    start.list.journal.pending = .empty ∧ Run ⟨0, 0⟩ start lossy ∧
      batch.lost = [] ∧ batch.verifier.violations = [] ∧
      lossy.lost = [⟨[], [3]⟩] ∧ lossy.verifier.stats.unmatched = 0 ∧
      lossy.divergence 3 = lossy.lostNet 3 + lossy.list.journal.pending.net 3 ∧
      lossy.divergence 3 = 1 := by
  intro start batch lossy
  have hbatch : Run ⟨0, 0⟩ start batch :=
    .act (.act .start .openBatch (.of_alone rfl (by decide))) (.mutate (.push 3))
      (.of_alone rfl (by decide))
  have hlossy : Run ⟨0, 0⟩ start lossy :=
    .act (.act hbatch .abandonBatch (.of_alone rfl (by decide))) (.mutate (.remove 1))
      (.of_alone rfl (by decide))
  have hstart : start.Attached { onMismatch := .record } :=
    attached_attach (Registry.valid_new _ _) _ _
  obtain ⟨-, hfaithful⟩ := tracking_divergence rfl hstart rfl hbatch
  obtain ⟨hexplained, -⟩ := tracking_divergence rfl hstart rfl hlossy
  exact ⟨rfl, hlossy, rfl, (hfaithful rfl).2.1, rfl, by decide, (hexplained (by decide)).1 3,
    by decide⟩

end ChangeAudit.Session
