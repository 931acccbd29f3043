/-
# When the pending change is settled

Batches need not nest.  They can overlap, an inner one can be abandoned while an outer one goes on,
and the last to end need not be the first that was opened.  So nothing about one batch decides what
becomes of the changes made in it.

What decides is the first move, after the changes were made, that leaves no batch live and is more
than an interrupted mutation: a completed mutation, or the end of the last batch
(`Usage.settles`).  Until then everything gathers in the pending change and nobody is told.  Then
the pending change goes as a whole.  If the move abandons the last batch, it is thrown away; else it
is reported, unless it says nothing (`Usage.Fate`).

The contents know nothing of all this: they are what the mutations alone would make of them.
-/
import ChangeAudit.Proofs.Journal.Runs
import ChangeAudit.Proofs.Observers.Reports

namespace ChangeAudit

variable {σ α : Type}

/-! ## 1. Moves -/

/-- One thing done to the contents of a list.  Batches are told apart by numbers, so any of the live
ones can be the next to end. -/
inductive Move (α : Type) where
  | mutate (m : Mutation α)
  | openBatch (batch : Nat)
  /-- The batch ends normally, or because the code that opened it unwinds. -/
  | endBatch (batch : Nat) (unwinding : Bool)

namespace Move

/-- What the list is asked to do. -/
def action : Move α → Action α
  | .mutate m => .mutate m
  | .openBatch _ => .openBatch
  | .endBatch _ false => .endBatch
  | .endBatch _ true => .abandonBatch

/-- The batches that are live after the move. -/
def live (batches : List Nat) : Move α → List Nat
  | .mutate _ => batches
  | .openBatch batch => batch :: batches
  | .endBatch batch _ => batches.erase batch

/-- A batch ends once, after it was opened, and a new batch gets a number that is not in use. -/
def Possible (batches : List Nat) : Move α → Prop
  | .mutate _ => True
  | .openBatch batch => batch ∉ batches
  | .endBatch batch _ => batch ∈ batches

instance (batches : List Nat) : (m : Move α) → Decidable (m.Possible batches)
  | .mutate _ => inferInstanceAs (Decidable True)
  | .openBatch batch => inferInstanceAs (Decidable (batch ∉ batches))
  | .endBatch batch _ => inferInstanceAs (Decidable (batch ∈ batches))

/-- Whether the move ends a batch. -/
def ends : Move α → Bool
  | .mutate _ | .openBatch _ => false
  | .endBatch _ _ => true

/-- Whether the move ends a batch while unwinding. -/
def unwinds : Move α → Bool
  | .mutate _ | .openBatch _ => false
  | .endBatch _ unwinding => unwinding

end Move

/-- What is in a list after mutations that were made with no regard to batches. -/
def Mutation.contents [BEq α] (items : List α) (ms : List (Mutation α)) : List α :=
  ms.foldl (fun xs m => (({ items := xs } : Journal α).apply m).1.items) items

theorem Mutation.contents_append [BEq α] (items : List α) (ms ns : List (Mutation α)) :
    Mutation.contents items (ms ++ ns) = Mutation.contents (Mutation.contents items ms) ns :=
  List.foldl_append

/-! ## 2. A list in use -/

/-- A list, the world of its observers, and what is remembered of the moves. -/
structure Usage (σ α : Type) where
  list : ObservableList σ α
  world : σ
  /-- The batches that were opened and have not ended. -/
  live : List Nat := []
  /-- Whether an insertion was cut short since the pending change was last settled. -/
  cutShort : Bool := false

namespace Usage

variable [BEq α]

/-- The call on the list. -/
def perform (u : Usage σ α) (m : Move α) : Performed σ α := u.list.perform u.world m.action

/-- Whether the code of the caller lets a mutation come to its end. -/
def completes (u : Usage σ α) (m : Mutation α) : Bool := (u.list.journal.apply m).2.isOk

/-- Whether the move may tell the observers: a mutation that completes, or the normal end of a
batch. -/
def mayReport (u : Usage σ α) : Move α → Bool
  | .mutate m => u.completes m
  | .openBatch _ => false
  | .endBatch _ unwinding => !unwinding

/-- Whether the move settles the pending change: it ends the last live batch, in whichever way, or
it is a mutation that completes with no batch live. -/
def settles (u : Usage σ α) : Move α → Bool
  | .mutate m => u.completes m && u.live.isEmpty
  | .openBatch _ => false
  | .endBatch batch _ => (u.live.erase batch).isEmpty

/-- The pending change at the moment when the move decides about it: what was pending before, with
what the move itself records. -/
def due (u : Usage σ α) (m : Move α) : Change α :=
  u.list.journal.pending.recordAll (m.action.entries u.list.items)

/-- What is remembered after the move. -/
def after (u : Usage σ α) (m : Move α) : Usage σ α where
  list := (u.perform m).list
  world := (u.perform m).world
  live := m.live u.live
  cutShort := !u.settles m &&
    (u.cutShort || (u.list.journal.step m.action).answer == .error .iterator)

/-- What a list with initial contents can come to, and the mutations made on the way.  Between the
moves the observers may do anything that leaves the contents alone. -/
inductive Reached (items : List α) : List (Mutation α) → Usage σ α → Prop where
  | start (list : ObservableList σ α) (world : σ) (h : list.journal = { items }) :
      Reached items [] { list, world }
  | move {ms : List (Mutation α)} {u : Usage σ α} (h : Reached items ms u) (m : Move α)
      (hm : m.Possible u.live) : Reached items (ms ++ m.action.mutation?.toList) (u.after m)
  | aside {ms : List (Mutation α)} {u : Usage σ α} (h : Reached items ms u)
      (list : ObservableList σ α) (world : σ) (hlist : list.journal = u.list.journal) :
      Reached items ms { u with list, world }

/-- What can follow without a move that settles anything, and what is recorded on the way. -/
inductive Waits (u : Usage σ α) : List (Entry α) → Usage σ α → Prop where
  | start : Waits u [] u
  | move {es : List (Entry α)} {v : Usage σ α} (h : Waits u es v) (m : Move α)
      (hm : m.Possible v.live) (hs : v.settles m = false) :
      Waits u (es ++ m.action.entries v.list.items) (v.after m)
  | aside {es : List (Entry α)} {v : Usage σ α} (h : Waits u es v) (list : ObservableList σ α)
      (world : σ) (hlist : list.journal = v.list.journal) : Waits u es { v with list, world }

/-- What a move does with the pending change `c` that it decides about. -/
structure Fate (u : Usage σ α) (m : Move α) (c : Change α) : Prop where
  /-- Something is reported just if the move may report, no batch is live after it, and there is
  something to tell. -/
  reports_iff : (u.perform m).reported.isSome = true ↔
    u.mayReport m = true ∧ m.live u.live = [] ∧ c.isEmpty = false
  /-- What is reported is all of it, in one report. -/
  whole : ∀ e, (u.perform m).reported = some e → e = c ∧
    u.perform m = ({ u.list with journal := (u.after m).list.journal } : ObservableList σ α).report
      u.world c (u.list.journal.step m.action).answer
  /-- A move that settles nothing keeps it, and nobody is told. -/
  kept : u.settles m = false →
    (u.perform m).Silent u.list u.world ∧ (u.after m).list.journal.pending = c
  /-- A move that settles leaves nothing pending. -/
  settled : u.settles m = true → (u.after m).list.journal.pending = .empty
  /-- If it abandons the last batch, all of it is lost, and nobody is told. -/
  discarded : u.settles m = true → m.unwinds = true →
    (u.perform m).Silent u.list u.world ∧
      (u.list.journal.step m.action).lost = if c.isEmpty then none else some c
  /-- Else everybody is, if there is something to tell. -/
  reported : u.settles m = true → m.unwinds = false →
    (u.perform m).reported = if c.isEmpty then none else some c

/-! ## 3. What a move does -/

variable {u v : Usage σ α} {m : Move α} {items : List α} {ms : List (Mutation α)}
  {es : List (Entry α)}

theorem after_journal : (u.after m).list.journal = (u.list.journal.step m.action).journal :=
  u.list.perform_journal u.world m.action

theorem gathered_pending_eq_due : (u.list.journal.gathered m.action).pending = u.due m :=
  u.list.journal.gathered_pending m.action

/-- The journal counts the live batches. -/
theorem depth_after (hd : u.list.journal.depth = u.live.length) (hm : m.Possible u.live) :
    (u.list.journal.gathered m.action).depth = (m.live u.live).length := by
  cases m with
  | mutate m => exact (u.list.journal.apply_depth m).trans hd
  | openBatch batch => exact congrArg (· + 1) hd
  | endBatch batch unwinding =>
    have hclosed : u.list.journal.closed.depth = (u.live.erase batch).length := by
      rw [Journal.closed, hd, List.length_erase_of_mem hm]
    cases unwinding with
    | false => exact hclosed
    | true => exact hclosed

omit [BEq α] in
/-- A move that ends a batch finds one open. -/
theorem depth_pos_of_ends (hd : u.list.journal.depth = u.live.length) (hm : m.Possible u.live)
    (hends : m.ends = true) : 0 < u.list.journal.depth := by
  cases m with
  | mutate m => cases hends
  | openBatch batch => cases hends
  | endBatch batch unwinding =>
    rw [hd]
    exact List.length_pos_of_mem hm

/-- The step of a move that settles is not cut short. -/
theorem answer_of_settles (hs : u.settles m = true) :
    ∃ answer, (u.list.journal.step m.action).answer = .ok answer := by
  cases m with
  | mutate m =>
    rw [settles, Bool.and_eq_true, completes] at hs
    have hanswer := u.list.journal.step_mutate_answer m
    rw [Move.action, hanswer]
    cases hm : (u.list.journal.apply m).2 with
    | ok answer => exact ⟨answer, rfl⟩
    | error cause =>
      rw [hm] at hs
      cases hs.1
  | openBatch batch => cases hs
  | endBatch batch unwinding => cases unwinding <;> exact ⟨.done, rfl⟩

/-- What cuts a mutation short is an insertion or a selector. -/
theorem apply_of_not_completes {mutation : Mutation α} (hm : u.completes mutation = false)
    (hi : (u.list.journal.apply mutation).2 ≠ .error .iterator) :
    (u.list.journal.apply mutation).2 = .error .predicate := by
  rw [completes] at hm
  cases hanswer : (u.list.journal.apply mutation).2 with
  | ok answer =>
    rw [hanswer] at hm
    cases hm
  | error cause =>
    rcases Journal.apply_error hanswer with rfl | rfl
    · exact absurd hanswer hi
    · rfl

/-- After a move that settles no batch is live. -/
theorem live_of_settles (hs : u.settles m = true) : m.live u.live = [] := by
  cases m with
  | mutate m =>
    rw [settles, Bool.and_eq_true] at hs
    exact List.isEmpty_iff.mp hs.2
  | openBatch batch => cases hs
  | endBatch batch unwinding => exact List.isEmpty_iff.mp hs

/-- A move that is not cut short and leaves no batch live settles the pending change. -/
theorem settles_of_live {answer : Answer}
    (hanswer : (u.list.journal.step m.action).answer = .ok answer) (hl : m.live u.live = []) :
    u.settles m = true := by
  cases m with
  | mutate m =>
    have happly : (u.list.journal.apply m).2 = .ok answer :=
      (u.list.journal.step_mutate_answer m).symm.trans hanswer
    rw [settles, completes, happly, Bool.and_eq_true]
    exact ⟨rfl, List.isEmpty_iff.mpr hl⟩
  | openBatch batch => cases hl
  | endBatch batch unwinding => exact List.isEmpty_iff.mpr hl

/-- A move that reports settles, and may report. -/
theorem settles_of_reported (hd : u.list.journal.depth = u.live.length)
    (hm : m.Possible u.live) {c : Change α}
    (hc : (u.list.journal.step m.action).reported = some c) :
    u.settles m = true ∧ u.mayReport m = true := by
  have hr := Journal.reported_of_step hc
  obtain ⟨answer, hanswer⟩ := Journal.answer_of_reported hc
  have hlive := hr.depth
  rw [depth_after hd hm] at hlive
  have hs := settles_of_live hanswer (List.eq_nil_of_length_eq_zero hlive)
  refine ⟨hs, ?_⟩
  cases m with
  | mutate m =>
    rw [settles, Bool.and_eq_true] at hs
    exact hs.1
  | openBatch batch => cases hs
  | endBatch batch unwinding =>
    cases unwinding with
    | false => rfl
    | true => cases hc

/-- A move that may report and leaves no batch live settles, and does not unwind. -/
theorem settles_of_mayReport (hmay : u.mayReport m = true) (hl : m.live u.live = []) :
    u.settles m = true ∧ m.unwinds = false := by
  cases m with
  | mutate m =>
    refine ⟨?_, rfl⟩
    rw [settles, Bool.and_eq_true]
    exact ⟨hmay, List.isEmpty_iff.mpr hl⟩
  | openBatch batch => cases hmay
  | endBatch batch unwinding =>
    rw [mayReport, Bool.not_eq_true'] at hmay
    exact ⟨List.isEmpty_iff.mpr hl, hmay⟩

/-- **A move that does not settle the pending change keeps it.** -/
theorem kept_of_not_settles (hd : u.list.journal.depth = u.live.length)
    (hm : m.Possible u.live) (hs : u.settles m = false) :
    (u.list.journal.gathered m.action).Kept (u.list.journal.step m.action) := by
  rcases u.list.journal.step_fate m.action with hk | hr | ⟨habandon, hl⟩
  · exact hk
  · have hsettles := (settles_of_reported hd hm hr.reported).1
    rw [hs] at hsettles
    cases hsettles
  · -- only the end of the last live batch can lose anything
    have hlive := hl.depth
    rw [depth_after hd hm] at hlive
    have hnil := List.eq_nil_of_length_eq_zero hlive
    cases m with
    | mutate m => cases habandon
    | openBatch batch => cases hnil
    | endBatch batch unwinding =>
      rw [settles, List.isEmpty_eq_false_iff] at hs
      exact absurd hnil hs

/-- A move that settles leaves nothing pending. -/
theorem pending_of_settles (hd : u.list.journal.depth = u.live.length)
    (hm : m.Possible u.live) (hs : u.settles m = true) :
    (u.list.journal.step m.action).journal.pending = .empty := by
  obtain ⟨answer, hanswer⟩ := answer_of_settles hs
  refine Journal.step_pending_of_closed hanswer ?_
  rw [(u.list.journal.step_gathered m.action).2, depth_after hd hm, live_of_settles hs,
    List.length_nil]

/-- **What a move settles leaves as a whole**, if there is anything to leave. -/
theorem reported_or_lost_of_settles (hd : u.list.journal.depth = u.live.length)
    (hm : m.Possible u.live) (hs : u.settles m = true) :
    (u.list.journal.step m.action).reported.or (u.list.journal.step m.action).lost =
      if (u.due m).isEmpty then none else some (u.due m) := by
  rw [← gathered_pending_eq_due]
  rcases u.list.journal.step_fate m.action with hk | hr | ⟨-, hl⟩
  · -- nothing left, and nothing is there, so there was nothing
    have hnone := pending_of_settles hd hm hs
    rw [hk.journal] at hnone
    rw [hk.reported, hk.lost, hnone]
    rfl
  · rw [hr.reported, hr.nonempty]
    rfl
  · rw [hl.reported, hl.lost, hl.nonempty]
    rfl

/-- A move that unwinds reports nothing. -/
theorem reported_of_unwinds (hw : m.unwinds = true) :
    (u.list.journal.step m.action).reported = none := by
  cases m with
  | mutate m => cases hw
  | openBatch batch => cases hw
  | endBatch batch unwinding =>
    cases hw
    rfl

/-- A move that does not unwind loses nothing. -/
theorem lost_of_not_unwinds (hw : m.unwinds = false) :
    (u.list.journal.step m.action).lost = none := by
  rcases u.list.journal.step_fate m.action with hk | hr | ⟨habandon, -⟩
  · exact hk.lost
  · exact hr.lost
  · cases m with
    | mutate m => cases habandon
    | openBatch batch => cases habandon
    | endBatch batch unwinding =>
      cases hw
      cases habandon

/-- The fate of the pending change under one move. -/
theorem fate_of_move (hd : u.list.journal.depth = u.live.length) (hm : m.Possible u.live) :
    u.Fate m (u.due m) := by
  have hreported : (u.perform m).reported = (u.list.journal.step m.action).reported :=
    u.list.perform_reported u.world m.action
  have hsilent := u.list.silent_of_quiet (a := m.action) u.world
  refine ⟨⟨fun hsome => ?_, ?_⟩, fun e he => ?_, fun hs => ?_, fun hs => ?_, fun hs hw => ?_,
    fun hs hw => ?_⟩
  · obtain ⟨c, hc⟩ := Option.isSome_iff_exists.mp hsome
    rw [hreported] at hc
    obtain ⟨hs, hmay⟩ := settles_of_reported hd hm hc
    have hnonempty := (Journal.reported_of_step hc).nonempty
    rw [gathered_pending_eq_due] at hnonempty
    exact ⟨hmay, live_of_settles hs, hnonempty⟩
  · rintro ⟨hmay, hlive, hnonempty⟩
    obtain ⟨hs, hw⟩ := settles_of_mayReport hmay hlive
    have hleft := reported_or_lost_of_settles hd hm hs
    rw [lost_of_not_unwinds hw, Option.or_none, hnonempty] at hleft
    rw [hreported, hleft]
    rfl
  · rw [hreported] at he
    have hr := Journal.reported_of_step he
    have hc : e = u.due m := by
      rw [hr.reported, gathered_pending_eq_due, Option.some.injEq] at he
      exact he.symm
    refine ⟨hc, ?_⟩
    rw [after_journal, ← hc]
    exact ObservableList.perform_of_reported u.world he
  · have hk := kept_of_not_settles hd hm hs
    refine ⟨hsilent hk.reported, ?_⟩
    rw [after_journal, hk.journal, gathered_pending_eq_due]
  · rw [after_journal]
    exact pending_of_settles hd hm hs
  · have hnone := reported_of_unwinds (u := u) hw
    have hleft := reported_or_lost_of_settles hd hm hs
    rw [hnone, Option.none_or] at hleft
    exact ⟨hsilent hnone, hleft⟩
  · have hleft := reported_or_lost_of_settles hd hm hs
    rw [lost_of_not_unwinds hw, Option.or_none] at hleft
    rw [hreported, hleft]

/-! ## 4. What holds after any moves -/

/-- The live batches are counted by the journal. -/
theorem Reached.depth_eq (h : Reached items ms u) : u.list.journal.depth = u.live.length := by
  induction h with
  | start list world hlist => rw [hlist, List.length_nil]
  | move h m hm ih =>
    rw [after_journal, (Journal.step_gathered _ _).2, depth_after ih hm, after]
  | aside h list world hlist ih => rw [hlist, ih]

/-- The contents are those that the mutations alone would have made. -/
theorem Reached.items_eq (h : Reached items ms u) : u.list.items = Mutation.contents items ms := by
  induction h with
  | start list world hlist => rw [ObservableList.items, hlist, Mutation.contents, List.foldl_nil]
  | @move ms u h m hm ih =>
    rw [ObservableList.items] at ih ⊢
    rw [after_journal, Mutation.contents_append, ← ih]
    cases hmut : m.action.mutation? with
    | none => exact u.list.journal.step_batch_items hmut
    | some mutation =>
      rw [Action.eq_mutate hmut, Journal.step_mutate_items]
      rfl
  | aside h list world hlist ih =>
    rw [ObservableList.items] at ih ⊢
    rw [hlist, ih]

/-- An insertion that was cut short is the only reason for anything to be pending with no batch
live. -/
theorem Reached.pending_of_idle (h : Reached items ms u) (hlive : u.live = [])
    (hcut : u.cutShort = false) : u.list.journal.pending = .empty := by
  induction h with
  | start list world hlist => rw [hlist]; rfl
  | @move ms u h m hm ih =>
    rw [after_journal]
    cases hs : u.settles m with
    | true => exact pending_of_settles h.depth_eq hm hs
    | false =>
      rw [after, hs, Bool.not_false, Bool.true_and, Bool.or_eq_false_iff] at hcut
      obtain ⟨hbefore, hanswer⟩ := hcut
      have hk := kept_of_not_settles h.depth_eq hm hs
      cases m with
      | mutate m =>
        -- no batch is live, so the mutation was cut short; not an insertion, so it records nothing
        have hidle : u.live = [] := hlive
        have hnot : (u.list.journal.apply m).2 ≠ .error .iterator := by
          rw [← Journal.step_mutate_answer]
          exact ne_of_beq_false hanswer
        rw [settles, hidle, List.isEmpty_nil, Bool.and_true] at hs
        have hpredicate := apply_of_not_completes hs hnot
        have hentries := (Journal.apply_of_predicate hpredicate).2.1
        rw [hk.journal, gathered_pending_eq_due, due, Move.action, Action.entries]
        rw [ObservableList.items, hentries, Change.recordAll_nil]
        exact ih hlive hbefore
      | openBatch batch => cases hlive
      | endBatch batch unwinding =>
        rw [settles, List.isEmpty_eq_false_iff] at hs
        exact absurd hlive hs
  | aside h list world hlist ih =>
    rw [hlist]
    exact ih hlive hcut

/-- Until something settles it, the pending change gathers all that is recorded. -/
theorem Waits.pending_eq (h : Waits u es v) (hd : u.list.journal.depth = u.live.length) :
    v.list.journal.depth = v.live.length ∧
      v.list.journal.pending = u.list.journal.pending.recordAll es := by
  induction h with
  | start => exact ⟨hd, rfl⟩
  | @move es v h m hm hs ih =>
    obtain ⟨hdepth, hpending⟩ := ih
    refine ⟨?_, ?_⟩
    · rw [after_journal, (Journal.step_gathered _ _).2, depth_after hdepth hm, after]
    · rw [(fate_of_move hdepth hm).kept hs |>.2, due, hpending, Change.recordAll_append]
  | aside h list world hlist ih =>
    rw [hlist]
    exact ih

/-! ## 5. The main statement -/

/-- **What was changed is settled together, by the first move that settles anything.**  The journal
counts the live batches, so a batch that ends finds one open.  With no batch live nothing is
pending, unless an insertion was cut short.  Whatever is pending now, and whatever is recorded from
now on by moves that settle nothing, is one change when the next move decides: it is kept, thrown
away or reported as a whole, whichever batches it was made in and however these ended.  The
contents are what the mutations alone make of them. -/
theorem pending_settled_together (h : Reached items ms u) :
    u.list.journal.depth = u.live.length ∧
      (∀ m : Move α, m.Possible u.live → m.ends = true → 0 < u.list.journal.depth) ∧
      (u.live = [] → u.cutShort = false → u.list.journal.pending = .empty) ∧
      (∀ es v, Waits u es v → ∀ m : Move α, m.Possible v.live →
        v.Fate m (u.list.journal.pending.recordAll (es ++ m.action.entries v.list.items))) ∧
      u.list.items = Mutation.contents items ms := by
  refine ⟨h.depth_eq, fun m hm => depth_pos_of_ends h.depth_eq hm, h.pending_of_idle, ?_,
    h.items_eq⟩
  intro es v hwaits m hm
  obtain ⟨hdepth, hpending⟩ := hwaits.pending_eq h.depth_eq
  have hfate := fate_of_move hdepth hm
  rw [due, hpending, ← Change.recordAll_append] at hfate
  exact hfate

/-- Of two overlapping batches the one opened first is abandoned while the other goes on; what was
added in it is reported or lost with the other one. -/
theorem pending_settled_together_overlapping :
    let quiet : Callback Unit Nat := fun _ _ _ => .done
    let list := ((ObservableList.ofItems "numbers" 0 [1]).subscribe () quiet).1
    let u := (((({ list, world := () } : Usage Unit Nat).after (.openBatch 1)).after
      (.mutate (.push 5))).after (.openBatch 2)).after (.endBatch 1 true)
    let v := (u.after (.mutate (.extend [6, 7] true))).after (.mutate (.remove 5))
    Reached [1] [.push 5] u ∧ Waits u [.added 6, .added 7, .removed 5] v ∧
      u.live = [2] ∧ u.list.journal.depth = 1 ∧ u.list.items = [1, 5] ∧
      (v.perform (.endBatch 2 false)).reported = some ⟨[], [6, 7]⟩ ∧
      (v.perform (.endBatch 2 false)).called = [⟨0, 0⟩] ∧
      (v.perform (.endBatch 2 true)).Silent v.list () ∧
      (v.after (.endBatch 2 true)).list.journal.pending = .empty := by
  intro quiet list u v
  have hu : Reached [1] [.push 5] u :=
    .move (.move (.move (.move (.start list () rfl) (.openBatch 1) (by decide))
      (.mutate (.push 5)) (by decide)) (.openBatch 2) (by decide)) (.endBatch 1 true) (by decide)
  have hv : Waits u [.added 6, .added 7, .removed 5] v :=
    .move (.move .start (.mutate (.extend [6, 7] true)) (by decide) rfl) (.mutate (.remove 5))
      (by decide) rfl
  obtain ⟨hdepth, -, -, hfate, hitems⟩ := pending_settled_together hu
  have hended := hfate _ v hv (.endBatch 2 false) (by decide)
  have habandoned := hfate _ v hv (.endBatch 2 true) (by decide)
  exact ⟨hu, hv, rfl, hdepth, hitems, hended.reported rfl rfl, rfl,
    (habandoned.discarded rfl rfl).1, habandoned.settled rfl⟩

end Usage

end ChangeAudit
