/-
# Clearing a list makes a fresh start

Clearing removes what is there, and much of that may have come since the last report: those
additions are still waiting, and each of them is cancelled.  What is left of the pending change
removes the whole base and adds nothing, whatever was pending before (`Refreshed.of_clear`).  Then
the list is filled again.  Insertions go to the end of the list and of the pending change alike, so
up to the next report the change removes the base and adds what the list holds, in order
(`Journal.Refilled.refreshed`).

Replayed on anything that holds the elements of the base, in whatever order, such a change leaves
the items of the list, each in its place (`Refreshed.apply_eq`).  So the order of a shadow that had
come to differ from that of the list is set right again (`Chronicle.clearing_resets`).
-/
import ChangeAudit.Proofs.Journal.Accounts
import ChangeAudit.Proofs.Reordering
import ChangeAudit.Proofs.Shadow.Counts
import ChangeAudit.Proofs.Verifier.Order

namespace ChangeAudit

open Counting
open scoped List

variable {α : Type}

/-! ## 1. Filling a list that was cleared -/

/-- What an action inserts at the end, if it does nothing else to the items.  Batches may be opened
and left. -/
def Action.inserted? : Action α → Option (List α)
  | .mutate (.push x) => some [x]
  | .mutate (.extend xs _) => some xs
  | .mutate (.remove _) | .mutate (.removeWhere _) | .mutate .clear | .mutate (.replace _ _) => none
  | .openBatch | .endBatch | .abandonBatch => some []

namespace Journal

variable [BEq α]

/-- A list is cleared in the state `j`, and then gets nothing but insertions of `filled`, in order.
Up to the state `k` nothing is reported or lost; `a` comes next, and is counted in already. -/
inductive Refilled (j : Journal α) : Journal α → Action α → List α → Prop where
  | cleared : Refilled j j (.mutate .clear) []
  | inserted {k : Journal α} {a b : Action α} {filled xs : List α} (h : Refilled j k a filled)
      (hreported : (k.step a).reported = none) (hlost : (k.step a).lost = none)
      (hb : b.inserted? = some xs) : Refilled j (k.step a).journal b (filled ++ xs)

/-- An action that completes, abandons nothing and leaves no batch open: what is pending is reported
now, if that says anything. -/
structure Concludes (k : Journal α) (a : Action α) : Prop where
  completes : ∃ answer, (k.step a).answer = .ok answer
  keeps : a ≠ .abandonBatch
  closed : (k.step a).journal.depth = 0

/-- An insertion goes to the end of the items, and of the pending additions. -/
theorem gathered_of_inserted {k : Journal α} {b : Action α} {xs : List α}
    (hb : b.inserted? = some xs) :
    (k.gathered b).items = k.items ++ xs ∧
      (k.gathered b).pending = { k.pending with added := k.pending.added ++ xs } := by
  cases b with
  | mutate m =>
    cases m with
    | push x =>
      obtain rfl : [x] = xs := Option.some.inj hb
      exact ⟨rfl, rfl⟩
    | extend ys interrupted =>
      obtain rfl : ys = xs := Option.some.inj hb
      exact ⟨rfl, k.pending.recordAllAdded_eq ys⟩
    | remove | removeWhere | clear | replace => cases hb
  | openBatch | endBatch | abandonBatch =>
    obtain rfl : [] = xs := Option.some.inj hb
    refine ⟨(List.append_nil _).symm, ?_⟩
    rw [List.append_nil]
    rfl

/-- A step that neither reports nor loses anything keeps all that it has gathered. -/
theorem journal_of_quiet {k : Journal α} {a : Action α} (hreported : (k.step a).reported = none)
    (hlost : (k.step a).lost = none) : (k.step a).journal = k.gathered a := by
  rcases k.step_fate a with hk | hr | ⟨-, hl⟩
  · exact hk.journal
  · rw [hr.reported] at hreported
    cases hreported
  · rw [hl.lost] at hlost
    cases hlost

/-- Where a report is due, there is none just if nothing is pending. -/
theorem Concludes.reported_eq_none_iff {k : Journal α} {a : Action α} (h : Concludes k a) :
    (k.step a).reported = none ↔ (k.gathered a).pending.isEmpty = true := by
  obtain ⟨answer, hanswer⟩ := h.completes
  constructor
  · intro hnone
    by_contra hne
    have hr := reported_of_closed hanswer h.keeps h.closed (Bool.eq_false_iff.mpr hne)
    rw [hr.reported] at hnone
    cases hnone
  · intro hempty
    rw [Option.eq_none_iff_forall_ne_some]
    intro c hc
    have hne := (reported_of_step hc).nonempty
    rw [hempty] at hne
    cases hne

end Journal

/-! ## 2. What is pending then -/

/-- What is pending removes the whole base and adds all the items, in order. -/
structure Refreshed [BEq α] (base filled : List α) (g : Journal α) : Prop where
  items : g.items = filled
  added : g.pending.added = filled
  removed : Reordered g.pending.removed base

namespace Refreshed

variable [BEq α] {base filled : List α} {g : Journal α}

/-- One more insertion adds to the items and to what is pending alike. -/
theorem inserted (h : Refreshed base filled g) {b : Action α} {xs : List α}
    (hb : b.inserted? = some xs) : Refreshed base (filled ++ xs) (g.gathered b) := by
  obtain ⟨hitems, hpending⟩ := Journal.gathered_of_inserted (k := g) hb
  refine ⟨?_, ?_, ?_⟩
  · rw [hitems, h.items]
  · rw [hpending, h.added]
  · rw [hpending]
    exact h.removed

variable [EquivBEq α]

/-- A change that accounts for the way from the base to nothing removes the whole base and adds
nothing. -/
theorem removes_base {c : Change α} (h : c.AccountsFor base []) :
    c.added = [] ∧ Reordered c.removed base := by
  have hadded : ∀ x, c.added.count x = 0 := fun x => Nat.le_zero.mp (h.added_le x)
  refine ⟨eq_nil_of_count_eq_zero hadded, reordered_of_count fun x => ?_⟩
  have hle := h.removed_le x
  have heq := h.count_eq x
  rw [List.count_nil] at heq
  omega

/-- **Clearing leaves the removal of the base pending, and nothing else**, whatever was waiting. -/
theorem of_clear {j : Journal α} (h : j.pending.AccountsFor base j.items) :
    Refreshed base [] (j.gathered (.mutate .clear)) := by
  have hcleared : (j.gathered (.mutate .clear)).items = [] := rfl
  have haccounts := h.gathered (a := .mutate .clear) nofun
  rw [hcleared] at haccounts
  obtain ⟨hadded, hremoved⟩ := removes_base haccounts
  exact ⟨hcleared, hadded, hremoved⟩

theorem isEmpty_iff (h : Refreshed base filled g) :
    g.pending.isEmpty = true ↔ base = [] ∧ filled = [] := by
  have hlength := h.removed.length_eq
  rw [Change.isEmpty, Bool.and_eq_true, List.isEmpty_iff, List.isEmpty_iff, h.added,
    ← List.length_eq_zero_iff, ← List.length_eq_zero_iff (l := base), hlength]

/-- **On whatever holds the elements of the base**, its replay leaves the items in order. -/
theorem apply_eq (h : Refreshed base filled g) {s : Shadow α} (hs : Reordered s.items base) :
    (s.apply g.pending).1.items = filled ∧ (s.apply g.pending).2.unmatched = [] := by
  have hcount : ∀ x, g.pending.removed.count x = s.items.count x := fun x =>
    (h.removed.count_eq x).trans (hs.count_eq x).symm
  constructor
  · have hleft : (Shadow.takeOut s.items g.pending.removed).left = [] := by
      refine eq_nil_of_count_eq_zero fun x => ?_
      rw [Shadow.takeOut_left_count, hcount, Nat.sub_self]
    rw [Shadow.apply, hleft, h.added, List.nil_append]
  · exact (Shadow.unmatched_eq_nil_iff s g.pending).mpr fun x => Nat.le_of_eq (hcount x)

end Refreshed

/-- **Filling keeps what clearing has brought about.** -/
theorem Journal.Refilled.refreshed [BEq α] [EquivBEq α] {j k : Journal α} {a : Action α}
    {base filled : List α} (h : Refilled j k a filled)
    (hbase : j.pending.AccountsFor base j.items) : Refreshed base filled (k.gathered a) := by
  induction h with
  | cleared => exact .of_clear hbase
  | inserted _ hreported hlost hb ih =>
    rw [journal_of_quiet hreported hlost]
    exact ih.inserted hb

/-! ## 3. A verifier whose shadow is out of order -/

namespace Session

variable {τ : Type} [BEq α] [EquivBEq α] [Element α] {t : Session τ α} {id : SubscriptionId}
  {a : Action α} {base filled : List α}

/-- **A report after such a fresh start sets the shadow right.** -/
theorem after_of_refreshed (h : Refreshed base filled (t.list.journal.gathered a))
    (hcloses : t.list.journal.Concludes a) (hvalid : t.list.registry.Valid) (ha : t.Allows id a)
    (hmode : t.verifier.config.comparison = .sequence)
    (hshadow : Reordered t.verifier.shadow.items base) :
    (∀ c, (t.list.journal.step a).reported = some c → t.verifier.finding filled c = none) ∧
      (t.after a).verifier.shadow.items = filled ∧
      (t.perform a).answer = (t.list.journal.step a).answer := by
  obtain ⟨hreplay, -⟩ := h.apply_eq hshadow
  cases hc : (t.list.journal.step a).reported with
  | none =>
    -- nothing was there and nothing is, so there was nothing to tell
    obtain ⟨rfl, rfl⟩ := h.isEmpty_iff.mp (hcloses.reported_eq_none_iff.mp hc)
    obtain ⟨hv, hanswer⟩ := after_of_quiet hc
    refine ⟨nofun, ?_, hanswer⟩
    rw [hv]
    exact eq_nil_of_count_eq_zero hshadow.count_eq
  | some c =>
    have hr := Journal.reported_of_step hc
    have hcontents : (t.list.journal.step a).journal.items = filled := by
      rw [hr.journal]
      exact h.items
    obtain rfl : (t.list.journal.gathered a).pending = c := by
      rw [← Option.some.injEq, ← hc, hr.reported]
    have hfinding := finding_of_leadsTo hmode hreplay
    obtain ⟨halone, hanswer⟩ := after_of_reported hvalid ha hc
    rw [hcontents] at halone hanswer
    refine ⟨?_, ?_, ?_⟩
    · rintro c ⟨⟩
      exact hfinding
    · rw [halone.shadow, Verifier.told_shadow]
      exact hreplay
    · rw [hanswer, (Verifier.told_of_finding_eq_none hfinding).1]

omit [EquivBEq α] [Element α] in
/-- A session follows a list that is filled. -/
theorem refilled_after {j : Journal α} {b : Action α} {xs : List α}
    (h : Journal.Refilled j t.list.journal a filled)
    (hreported : (t.list.journal.step a).reported = none)
    (hlost : (t.list.journal.step a).lost = none) (hb : b.inserted? = some xs) :
    Journal.Refilled j (t.after a).list.journal b (filled ++ xs) := by
  rw [after_journal]
  exact h.inserted hreported hlost hb

omit [EquivBEq α] [Element α] in
/-- Asking finds nothing where the shadow is what the list holds. -/
theorem verify_of_items_eq [ReflBEq α] {v : Verifier α} (hmode : v.config.comparison = .sequence)
    {live : List α} (hlive : v.shadow.items = live) : (v.verify live).1 = none := by
  rw [Verifier.verify, Verifier.check, hmode, hlive, compare_eq_none_iff]
  exact BEq.refl live

end Session

/-! ## 4. The main statement -/

/-- **Clearing a list makes a fresh start.**  Let a list with any past be cleared, be filled with
`filled` by nothing but insertions, and report nothing before the action `a`.  Then it holds
`filled`, and what `a` reports

* removes what the list held at the last report or abandonment, in some order, and adds `filled`;
* leaves exactly `filled` of every shadow that holds in any order what the list held then, and no
  removal of it goes unmatched.

If `a` completes with no batch open, it does report, unless there was nothing to remove and is
nothing to add; and a verifier that compares as sequences, and whose shadow holds in any order what
the list held then, finds nothing: its shadow is what the list holds, it finds nothing on demand
either, and `a` goes on as if nobody observed the list. -/
theorem Chronicle.clearing_resets [BEq α] [EquivBEq α] [Element α] {items : List α}
    {h : Chronicle α} (hr : Reachable items h) {k : Journal α} {a : Action α} {filled : List α}
    (hrefilled : Journal.Refilled h.journal k a filled) :
    (k.step a).journal.items = filled ∧
    (∀ c, (k.step a).reported = some c →
      Reordered c.removed h.base ∧ (LawfulBEq α → c.removed ~ h.base) ∧ c.added = filled ∧
      ∀ s : Shadow α, Reordered s.items h.base →
        (s.apply c).1.items = filled ∧ (s.apply c).2.unmatched = []) ∧
    (k.Concludes a →
      ((k.step a).reported = none ↔ h.base = [] ∧ filled = []) ∧
      ∀ (τ : Type) (t : Session τ α) (id : SubscriptionId), t.list.journal = k →
        t.list.registry.Valid → t.Allows id a → t.verifier.config.comparison = .sequence →
        Reordered t.verifier.shadow.items h.base →
          (∀ c, (k.step a).reported = some c → t.verifier.finding filled c = none) ∧
          (t.after a).list.items = filled ∧ (t.after a).verifier.shadow.items = filled ∧
          ((t.after a).verifier.verify (t.after a).list.items).1 = none ∧
          (t.perform a).answer = (k.step a).answer) := by
  have hrefreshed := hrefilled.refreshed hr.sound.accounts
  have hitems : (k.step a).journal.items = filled := (k.step_gathered a).1.trans hrefreshed.items
  refine ⟨hitems, fun c hc => ?_, fun hcloses => ⟨?_, ?_⟩⟩
  · obtain rfl : (k.gathered a).pending = c := by
      rw [← Option.some.injEq, ← hc, (Journal.reported_of_step hc).reported]
    refine ⟨hrefreshed.removed, ?_, hrefreshed.added, fun s hs => hrefreshed.apply_eq hs⟩
    intro _
    exact reordered_iff_perm.mp hrefreshed.removed
  · rw [hcloses.reported_eq_none_iff, hrefreshed.isEmpty_iff]
  · rintro τ t id rfl hvalid ha hmode hshadow
    obtain ⟨hfinding, hafter, hanswer⟩ :=
      Session.after_of_refreshed hrefreshed hcloses hvalid ha hmode hshadow
    have hlist : (t.after a).list.items = filled := by
      rw [ObservableList.items, Session.after_journal, hitems]
    refine ⟨hfinding, hlist, hafter, ?_, hanswer⟩
    refine Session.verify_of_items_eq ?_ (hafter.trans hlist.symm)
    rw [Session.after_config hvalid ha, hmode]

/-- A replacement leaves the shadow of a verifier in another order than the list.  Then a batch
inserts another `9`, removes the `2` and clears the list; an insertion is cut short, one more
follows, and the batch ends. -/
theorem Chronicle.clearing_resets_after_replacement :
    let start : Session Unit Int64 :=
      (Session.attach { comparison := .sequence, onMismatch := .record }
        (.ofItems "numbers" 0 [1, 2]) ()).1
    let drifted := start.after (.mutate (.replace 1 9))
    let batch := ((drifted.after .openBatch).after (.mutate (.push 9))).after (.mutate (.remove 2))
    let cleared := batch.after (.mutate .clear)
    let extended := cleared.after (.mutate (.extend [7, 7] true))
    let refilled := extended.after (.mutate (.push 2))
    drifted.list.items = [9, 2] ∧ drifted.verifier.shadow.items = [2, 9] ∧
      (refilled.list.journal.step .endBatch).reported = some ⟨[2, 9], [7, 7, 2]⟩ ∧
      ([2, 9] : List Int64) ~ [9, 2] ∧
      (refilled.after .endBatch).verifier.shadow.items = [7, 7, 2] ∧
      ((refilled.after .endBatch).verifier.verify (refilled.after .endBatch).list.items).1 =
        none := by
  intro start drifted batch cleared extended refilled
  let past : Chronicle Int64 := ((((ofItems [1, 2]).after (.mutate (.replace 1 9))).after
    .openBatch).after (.mutate (.push 9))).after (.mutate (.remove 2))
  have hpast : Reachable [1, 2] past :=
    .step (.step (.step (.step .start (.mutate (.replace 1 9)) (by decide)) .openBatch (by decide))
      (.mutate (.push 9)) (by decide)) (.mutate (.remove 2)) (by decide)
  have hbegin : batch.list.journal = past.journal := by decide
  have hcleared : Journal.Refilled past.journal batch.list.journal (.mutate .clear) [] := by
    rw [hbegin]
    exact .cleared
  have hextended : Journal.Refilled past.journal cleared.list.journal
      (.mutate (.extend [7, 7] true)) [7, 7] :=
    Session.refilled_after hcleared (by decide) (by decide) rfl
  have hpushed : Journal.Refilled past.journal extended.list.journal (.mutate (.push 2))
      [7, 7, 2] :=
    Session.refilled_after hextended (by decide) (by decide) rfl
  have hended : Journal.Refilled past.journal refilled.list.journal .endBatch [7, 7, 2] :=
    Session.refilled_after hpushed (by decide) (by decide) rfl
  have hc : (refilled.list.journal.step .endBatch).reported = some ⟨[2, 9], [7, 7, 2]⟩ := by
    decide
  have hstart : start.list.registry.Valid :=
    (Session.attached_attach (Registry.valid_new _ _) _ ()).valid
  have hafter : ∀ {t : Session Unit Int64} (a : Action Int64), t.list.registry.Valid →
      (t.after a).list.registry.Valid := fun a h => ObservableList.valid_perform h _ a
  have hvalid : refilled.list.registry.Valid :=
    hafter _ (hafter _ (hafter _ (hafter _ (hafter _ (hafter _ (hafter _ hstart))))))
  have hdrift : Reordered refilled.verifier.shadow.items past.base :=
    reordered_iff_perm.mpr (by decide)
  have hconcludes : refilled.list.journal.Concludes .endBatch :=
    ⟨⟨_, Journal.step_batch_answer _ rfl⟩, nofun, by decide⟩
  have hallows : refilled.Allows ⟨0, 0⟩ .endBatch := .of_alone rfl nofun
  have hmode : refilled.verifier.config.comparison = .sequence := by decide
  obtain ⟨-, hreport, hverifier⟩ := clearing_resets hpast hended
  obtain ⟨-, -, hshadow, hverify, -⟩ :=
    (hverifier hconcludes).2 Unit refilled ⟨0, 0⟩ rfl hvalid hallows hmode hdrift
  exact ⟨by decide, by decide, hc, (hreport _ hc).2.1 inferInstance, hshadow, hverify⟩

end ChangeAudit
