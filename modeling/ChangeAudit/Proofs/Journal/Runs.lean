/-
# Runs of a journal

A run is a sequence of actions.  Those who make the mutations see their answers and the contents
(`Journal.outcomes`); those who observe the list see the reports (`Journal.reports`).

What the mutations do depends on the items alone, so it is the same with any batches around them
(`outcomes_eq`).  When something is reported depends on the batches, and of these only on how many
are open: batches may end in any order (`Action.guards`, `guardsAfter`).  As long as one is open
nothing is reported (`reports_of_open`); after the last has ended nothing is pending
(`pending_afterAll`).
-/
import ChangeAudit.Proofs.Journal.Steps

namespace ChangeAudit

variable {α : Type}

/-! ## 1. The batches of a run -/

/-- How many batches are open after an action, if `n` were before.  There is no answer if the
action ends a batch that is not there, or abandons one. -/
def Action.guards : Nat → Action α → Option Nat
  | n, .mutate _ => some n
  | n, .openBatch => some (n + 1)
  | 0, .endBatch => none
  | n + 1, .endBatch => some n
  | _, .abandonBatch => none

/-- How many batches are open after a run. -/
def guardsAfter : Nat → List (Action α) → Option Nat
  | n, [] => some n
  | n, a :: as => (a.guards n).bind fun n' => guardsAfter n' as

theorem guardsAfter_cons {n k : Nat} {a : Action α} {as : List (Action α)} :
    guardsAfter n (a :: as) = some k ↔
      ∃ n', a.guards n = some n' ∧ guardsAfter n' as = some k :=
  Option.bind_eq_some_iff

/-- One more batch around everything. -/
theorem Action.guards_succ {n n' : Nat} {a : Action α} (h : a.guards n = some n') :
    a.guards (n + 1) = some (n' + 1) := by
  cases a with
  | mutate m =>
    cases h
    rfl
  | openBatch =>
    cases h
    rfl
  | endBatch =>
    cases n with
    | zero => cases h
    | succ n =>
      cases h
      rfl
  | abandonBatch => cases n <;> cases h

/-! ## 2. What a run does -/

/-- What mutations do to items: each answer, or the panic, and the items after it. -/
def Mutation.outcomes [BEq α] (items : List α) :
    List (Mutation α) → List (Except Panic Answer × List α)
  | [] => []
  | m :: ms =>
    let done := ({ items } : Journal α).apply m
    (done.2, done.1.items) :: outcomes done.1.items ms

/-- All that mutations record, in order. -/
def Mutation.allEntries [BEq α] (items : List α) : List (Mutation α) → List (Entry α)
  | [] => []
  | m :: ms => m.entries items ++ allEntries (({ items } : Journal α).apply m).1.items ms

namespace Journal

/-- The journal after a run. -/
def afterAll [BEq α] (j : Journal α) : List (Action α) → Journal α
  | [] => j
  | a :: as => (j.step a).journal.afterAll as

/-- What is reported during a run. -/
def reports [BEq α] (j : Journal α) : List (Action α) → List (Change α)
  | [] => []
  | a :: as => (j.step a).reported.toList ++ (j.step a).journal.reports as

/-- What the mutations of a run come to: each answer, or the panic, and the items after it. -/
def outcomes [BEq α] (j : Journal α) : List (Action α) → List (Except Panic Answer × List α)
  | [] => []
  | a :: as =>
    match a.mutation? with
    | none => (j.step a).journal.outcomes as
    | some _ => ((j.step a).answer, (j.step a).journal.items) :: (j.step a).journal.outcomes as

variable [BEq α]

theorem reports_append (j : Journal α) (as bs : List (Action α)) :
    j.reports (as ++ bs) = j.reports as ++ (j.afterAll as).reports bs := by
  induction as generalizing j with
  | nil => rfl
  | cons a as ih => rw [List.cons_append, reports, reports, ih, List.append_assoc, afterAll]

/-- The items and the answer depend on the items only. -/
theorem apply_eq_of_items (j : Journal α) (m : Mutation α) :
    (j.apply m).1.items = (({ items := j.items } : Journal α).apply m).1.items ∧
      (j.apply m).2 = (({ items := j.items } : Journal α).apply m).2 := by
  cases m with
  | push x => exact ⟨rfl, rfl⟩
  | extend xs interrupted => exact ⟨rfl, rfl⟩
  | remove x =>
    simp only [apply]
    cases j.items.find? (· == x) <;> exact ⟨rfl, rfl⟩
  | removeWhere selector =>
    simp only [apply]
    cases select selector [] j.items <;> exact ⟨rfl, rfl⟩
  | clear => exact ⟨rfl, rfl⟩
  | replace old new =>
    simp only [apply]
    cases j.items.find? (· == old) <;> exact ⟨rfl, rfl⟩

theorem step_mutate_items (j : Journal α) (m : Mutation α) :
    (j.step (.mutate m)).journal.items = (({ items := j.items } : Journal α).apply m).1.items :=
  (j.step_gathered (.mutate m)).1.trans (j.apply_eq_of_items m).1

theorem step_batch_items (j : Journal α) {a : Action α} (h : a.mutation? = none) :
    (j.step a).journal.items = j.items :=
  (j.step_gathered a).1.trans (j.gathered_of_batch h).1

/-- **Batches make no difference to the mutations.** -/
theorem outcomes_eq (j : Journal α) (as : List (Action α)) :
    j.outcomes as = Mutation.outcomes j.items (as.filterMap Action.mutation?) := by
  induction as generalizing j with
  | nil => rfl
  | cons a as ih =>
    rw [outcomes, ih]
    cases ha : a.mutation? with
    | none => rw [List.filterMap_cons_none ha, j.step_batch_items ha]
    | some m =>
      rw [List.filterMap_cons_some ha, Mutation.outcomes, Action.eq_mutate ha,
        step_mutate_answer, j.step_mutate_items, (j.apply_eq_of_items m).2]

/-- What a run records does not depend on the batches, either. -/
theorem entries_append_allEntries (j : Journal α) (a : Action α) (as : List (Action α)) :
    a.entries j.items ++
        Mutation.allEntries (j.step a).journal.items (as.filterMap Action.mutation?) =
      Mutation.allEntries j.items ((a :: as).filterMap Action.mutation?) := by
  cases ha : a.mutation? with
  | none =>
    rw [List.filterMap_cons_none ha, j.step_batch_items ha, (j.gathered_of_batch ha).2,
      List.nil_append]
  | some m =>
    rw [List.filterMap_cons_some ha, Mutation.allEntries, Action.eq_mutate ha,
      j.step_mutate_items, Action.entries]

/-! ## 3. When a run reports -/

/-- The depth is the number of open batches. -/
theorem step_depth_of_guards {j : Journal α} {a : Action α} {n : Nat}
    (h : a.guards j.depth = some n) : (j.step a).journal.depth = n := by
  refine (j.step_gathered a).2.trans ?_
  cases a with
  | mutate m =>
    cases h
    exact j.apply_depth m
  | openBatch =>
    cases h
    rfl
  | endBatch =>
    rw [gathered, closed]
    cases hd : j.depth with
    | zero =>
      rw [hd] at h
      cases h
    | succ d =>
      rw [hd] at h
      cases h
      rfl
  | abandonBatch => cases hd : j.depth <;> rw [hd] at h <;> cases h

theorem depth_afterAll {j : Journal α} {as : List (Action α)} {n : Nat}
    (h : guardsAfter j.depth as = some n) : (j.afterAll as).depth = n := by
  induction as generalizing j with
  | nil =>
    cases h
    rfl
  | cons a as ih =>
    obtain ⟨n', ha, has⟩ := guardsAfter_cons.mp h
    rw [← step_depth_of_guards ha] at has
    exact ih has

/-- A step that leaves a batch open reports nothing. -/
theorem step_quiet_of_open {j : Journal α} {a : Action α}
    (h : (j.step a).journal.depth ≠ 0) : (j.step a).reported = none := by
  cases hc : (j.step a).reported with
  | none => rfl
  | some c =>
    have hr := reported_of_step hc
    rw [hr.journal] at h
    exact absurd hr.depth h

/-- **While a batch is open, nothing is reported**, whatever other batches come and go. -/
theorem reports_of_open {j : Journal α} {as : List (Action α)} {n k : Nat}
    (hd : j.depth = n + 1) (h : guardsAfter n as = some k) : j.reports as = [] := by
  induction as generalizing j n with
  | nil => rfl
  | cons a as ih =>
    obtain ⟨n', ha, has⟩ := guardsAfter_cons.mp h
    have hstep : (j.step a).journal.depth = n' + 1 :=
      step_depth_of_guards (hd ▸ Action.guards_succ ha)
    have hquiet : (j.step a).reported = none := by
      refine step_quiet_of_open ?_
      rw [hstep]
      exact Nat.succ_ne_zero n'
    rw [reports, hquiet, ih hstep has]
    rfl

/-- **When all batches have ended, nothing is pending**, if no mutation was cut short. -/
theorem pending_afterAll {j : Journal α} {as : List (Action α)}
    (hj : j.depth = 0 → j.pending = .empty)
    (hok : ∀ o ∈ j.outcomes as, ∃ answer, o.1 = .ok answer)
    (hend : (j.afterAll as).depth = 0) : (j.afterAll as).pending = .empty := by
  induction as generalizing j with
  | nil => exact hj hend
  | cons a as ih =>
    have hanswer : ∃ answer, (j.step a).answer = .ok answer := by
      cases ha : a.mutation? with
      | none => exact ⟨.done, j.step_batch_answer ha⟩
      | some m =>
        rw [outcomes, ha] at hok
        exact hok _ List.mem_cons_self
    obtain ⟨answer, hanswer⟩ := hanswer
    refine ih (step_pending_of_closed hanswer) (fun o ho => hok o ?_) hend
    rw [outcomes]
    cases a.mutation? with
    | none => exact ho
    | some m => exact List.mem_cons_of_mem _ ho

end Journal

end ChangeAudit
