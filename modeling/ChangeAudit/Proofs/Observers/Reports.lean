/-
# How a report is made

An action that reports nothing is silent: it reaches no callback and no watcher
(`ObservableList.silent_of_quiet`).  An action that reports is one report of the change, made to
the callbacks that were registered when it began (`ObservableList.perform_of_reported`).

The callbacks are called one after another.  One that panics is the last.  If none does, all of
them are called, in the order in which they came, whatever they do to the registry meanwhile
(`ObservableList.callAll_of_calm`); and then the watchers get the change
(`ObservableList.delivered_of_calm`).  If one does, the call ends with its panic: what was done stays
done and is not reported again, but the watchers get nothing (`ObservableList.cut_of_raised`).
-/
import ChangeAudit.ObservableList
import ChangeAudit.Proofs.Journal.Steps

namespace ChangeAudit

variable {σ α : Type}

/-! ## 1. Calling the callbacks -/

/-- A script panics in one way only. -/
theorem Script.run_panic {script : Script σ α} {s : Scene σ α} {cause : Panic}
    (h : (script.run s).2 = some cause) : ∃ text, cause = .raised text := by
  induction script generalizing s with
  | done => cases h
  | panic text =>
    cases h
    exact ⟨text, rfl⟩
  | read next ih => exact ih s.world h
  | write world next ih => exact ih h
  | log entries next ih => exact ih h
  | subscribe callback next _ ih => exact ih _ h
  | unsubscribe id next ih => exact ih _ h
  | close next ih => exact ih h

namespace ObservableList

variable {c : Change α} {contents : List α}

/-- A callback that returns is followed by the others. -/
theorem callAll_cons_of_returns {other : SubscriptionId} {callback : Callback σ α}
    (rest : List (SubscriptionId × Callback σ α)) {s : Scene σ α}
    (h : ((callback other c contents).run s).2 = none) :
    (callAll c contents ((other, callback) :: rest) s).1 =
        (callAll c contents rest ((callback other c contents).run s).1).1 ∧
      (callAll c contents ((other, callback) :: rest) s).2.1 =
        other :: (callAll c contents rest ((callback other c contents).run s).1).2.1 ∧
      (callAll c contents ((other, callback) :: rest) s).2.2 =
        (callAll c contents rest ((callback other c contents).run s).1).2.2 := by
  rw [callAll]
  rcases hrun : (callback other c contents).run s with ⟨s', _ | cause⟩
  · exact ⟨rfl, rfl, rfl⟩
  · rw [hrun] at h
    cases h

/-- A callback that panics is the last. -/
theorem callAll_cons_of_panics {other : SubscriptionId} {callback : Callback σ α}
    (rest : List (SubscriptionId × Callback σ α)) {s : Scene σ α} {cause : Panic}
    (h : ((callback other c contents).run s).2 = some cause) :
    (callAll c contents ((other, callback) :: rest) s).1 = ((callback other c contents).run s).1 ∧
      (callAll c contents ((other, callback) :: rest) s).2.2 = some cause := by
  rw [callAll]
  rcases hrun : (callback other c contents).run s with ⟨s', _ | cause'⟩
  · rw [hrun] at h
    cases h
  · rw [hrun] at h
    exact ⟨rfl, h⟩

/-- A delivery ends in no panic but one that a callback has raised. -/
theorem callAll_panic {entries : List (SubscriptionId × Callback σ α)} {s : Scene σ α}
    {cause : Panic} (h : (callAll c contents entries s).2.2 = some cause) :
    ∃ text, cause = .raised text := by
  induction entries generalizing s with
  | nil => cases h
  | cons entry rest ih =>
    obtain ⟨other, callback⟩ := entry
    cases hrun : ((callback other c contents).run s).2 with
    | none =>
      rw [(callAll_cons_of_returns rest hrun).2.2] at h
      exact ih h
    | some cause' =>
      rw [(callAll_cons_of_panics rest hrun).2] at h
      cases h
      exact Script.run_panic hrun

/-- The scene after all callbacks were called, one after another. -/
def playAll (c : Change α) (contents : List α) (entries : List (SubscriptionId × Callback σ α))
    (s : Scene σ α) : Scene σ α :=
  entries.foldl (fun s entry => ((entry.2 entry.1 c contents).run s).1) s

/-- **If nobody panics, every callback is called exactly once**, and nobody else is: which ones is
settled before the first call. -/
theorem callAll_of_calm {entries : List (SubscriptionId × Callback σ α)} {s : Scene σ α}
    (h : (callAll c contents entries s).2.2 = none) :
    (callAll c contents entries s).1 = playAll c contents entries s ∧
      (callAll c contents entries s).2.1 = entries.map (·.1) := by
  induction entries generalizing s with
  | nil => exact ⟨rfl, rfl⟩
  | cons entry rest ih =>
    obtain ⟨other, callback⟩ := entry
    cases hrun : ((callback other c contents).run s).2 with
    | some cause =>
      rw [(callAll_cons_of_panics rest hrun).2] at h
      cases h
    | none =>
      obtain ⟨hscene, hcalled, hpanic⟩ := callAll_cons_of_returns rest hrun
      rw [hpanic] at h
      obtain ⟨hplay, hall⟩ := ih h
      refine ⟨?_, ?_⟩
      · rw [hscene, hplay, playAll, playAll, List.foldl_cons]
      · rw [hcalled, hall, List.map_cons]

end ObservableList

/-! ## 2. Silent calls -/

/-- A call on `l` that nobody is told of: no callback is called, nothing reaches a watcher. -/
structure Performed.Silent (p : Performed σ α) (l : ObservableList σ α) (world : σ) : Prop where
  reported : p.reported = none
  called : p.called = []
  world : p.world = world
  registry : p.list.registry = l.registry
  feeds : p.list.feeds = l.feeds
  nextFeed : p.list.nextFeed = l.nextFeed

namespace ObservableList

variable [BEq α] {l : ObservableList σ α} {a : Action α} {c : Change α}

theorem silent_of_quiet (world : σ) (h : (l.journal.step a).reported = none) :
    (l.perform world a).Silent l world := by
  rw [perform, h]
  exact ⟨rfl, rfl, rfl, rfl, rfl, rfl⟩

/-- What reports nothing answers as the journal does. -/
theorem answer_of_quiet (world : σ) (h : (l.journal.step a).reported = none) :
    (l.perform world a).answer = (l.journal.step a).answer := by
  rw [perform, h]

/-! ## 3. Calls that report -/

/-- What the callbacks start from when a change is reported. -/
def opening (l : ObservableList σ α) (world : σ) (c : Change α) : Scene σ α where
  registry := l.registry
  world := world
  log := [.changed l.name c.removed.length c.added.length]

/-- A call that reports is one report of the change, on the list as the change has left it. -/
theorem perform_of_reported (world : σ) (h : (l.journal.step a).reported = some c) :
    l.perform world a =
      ({ l with journal := (l.journal.step a).journal } : ObservableList σ α).report world c
        (l.journal.step a).answer := by
  rw [perform, h]

/-- How the calls of the callbacks go: what they leave, who is called, and the panic. -/
def delivery (l : ObservableList σ α) (world : σ) (a : Action α) (c : Change α) :
    Scene σ α × List SubscriptionId × Option Panic :=
  callAll c (l.journal.step a).journal.items l.registry.entries (l.opening world c)

/-- What becomes of a call on `l` that reports `c` and would answer `answer`, when the calls of the
callbacks go as `d` says. -/
structure Concluded (l : ObservableList σ α) (c : Change α) (answer : Except Panic Answer)
    (d : Scene σ α × List SubscriptionId × Option Panic) (p : Performed σ α) : Prop where
  world : p.world = d.1.world
  registry : p.list.registry = d.1.registry
  called : p.called = d.2.1
  /-- A panic of a callback ends the call. -/
  answer : p.answer = match d.2.2 with
    | none => answer
    | some cause => .error cause
  /-- The watchers come after the callbacks. -/
  feeds : p.list.feeds = match d.2.2 with
    | none => l.feeds.map fun (n, feed) => (n, feed.send c)
    | some _ => l.feeds
  nextFeed : p.list.nextFeed = l.nextFeed

theorem concluded_of_reported (world : σ) (h : (l.journal.step a).reported = some c) :
    l.Concluded c (l.journal.step a).answer (l.delivery world a c) (l.perform world a) := by
  have hcall : callAll c (l.journal.step a).journal.items l.registry.entries
      { registry := l.registry, world,
        log := [.changed l.registry.listName c.removed.length c.added.length] } =
      l.delivery world a c := rfl
  rw [perform_of_reported world h]
  simp only [report, items, name]
  rw [hcall]
  rcases l.delivery world a c with ⟨scene, called, _ | cause⟩
  · exact ⟨rfl, rfl, rfl, rfl, rfl, rfl⟩
  · exact ⟨rfl, rfl, rfl, rfl, rfl, rfl⟩

/-! ## 4. Calls during which no callback panics -/

/-- No callback panics during the call.  Other code of the caller may. -/
def Calm (l : ObservableList σ α) (world : σ) (a : Action α) : Prop :=
  ∀ text, (l.perform world a).answer ≠ .error (.raised text)

theorem Calm.of_answer {world : σ} {answer : Answer}
    (h : (l.perform world a).answer = .ok answer) : l.Calm world a := by
  intro text hraised
  rw [h] at hraised
  cases hraised

/-- A call on `l` that delivers `c` to everybody: to the callbacks that were registered when it
began, one after another, and to the watchers that there were. -/
structure Delivered (l : ObservableList σ α) (world : σ) (a : Action α) (c : Change α)
    (p : Performed σ α) : Prop where
  reported : p.reported = some c
  nonempty : c.isEmpty = false
  /-- Everybody is called once, and nobody else.  That this is in the order of registration is the
  choice of the registry and no promise to the callbacks: given in any other order, each of them is
  called once as well (`callAll_of_calm`). -/
  called : p.called = l.registry.ids
  /-- What is left is the work of these callbacks alone. -/
  registry : p.list.registry =
    (playAll c p.list.items l.registry.entries (l.opening world c)).registry
  world : p.world = (playAll c p.list.items l.registry.entries (l.opening world c)).world
  feeds : p.list.feeds = l.feeds.map fun (n, feed) => (n, feed.send c)
  nextFeed : p.list.nextFeed = l.nextFeed

theorem delivered_of_calm (world : σ) (hcalm : l.Calm world a)
    (h : (l.journal.step a).reported = some c) :
    l.Delivered world a c (l.perform world a) := by
  have hconcluded := l.concluded_of_reported world h
  have hpanic : (l.delivery world a c).2.2 = none := by
    cases hcause : (l.delivery world a c).2.2 with
    | none => rfl
    | some cause =>
      obtain ⟨text, rfl⟩ := callAll_panic hcause
      have hanswer := hconcluded.answer
      rw [hcause] at hanswer
      exact absurd hanswer (hcalm text)
  obtain ⟨hplay, hall⟩ := callAll_of_calm hpanic
  have hitems : (l.perform world a).list.items = (l.journal.step a).journal.items :=
    congrArg Journal.items (l.perform_journal world a)
  have hgathered := Journal.reported_of_step h
  have hwhole := hgathered.reported
  rw [h, Option.some.injEq] at hwhole
  refine ⟨(l.perform_reported world a).trans h, hwhole ▸ hgathered.nonempty,
    hconcluded.called.trans hall, ?_, ?_, ?_, hconcluded.nextFeed⟩
  · rw [hconcluded.registry, delivery, hplay, hitems]
  · rw [hconcluded.world, delivery, hplay, hitems]
  · have hfeeds := hconcluded.feeds
    rw [hpanic] at hfeeds
    exact hfeeds

/-! ## 5. Calls that a callback cuts short -/

/-- The journal itself never answers with the panic of a callback. -/
theorem step_answer_ne_raised (j : Journal α) (a : Action α) (text : String) :
    (j.step a).answer ≠ .error (.raised text) := by
  intro h
  cases ha : a.mutation? with
  | none =>
    rw [j.step_batch_answer ha] at h
    cases h
  | some m =>
    rw [Action.eq_mutate ha, j.step_mutate_answer] at h
    rcases Journal.apply_error h with hcause | hcause
    · cases hcause
    · cases hcause

/-- A call answers as the journal does, or it ends by the panic of a callback. -/
theorem answer_eq_or_raised (l : ObservableList σ α) (world : σ) (a : Action α) :
    (l.perform world a).answer = (l.journal.step a).answer ∨
      ∃ text, (l.perform world a).answer = .error (.raised text) := by
  cases hr : (l.journal.step a).reported with
  | none => exact Or.inl (answer_of_quiet world hr)
  | some c =>
    have hanswer := (l.concluded_of_reported world hr).answer
    cases hcause : (l.delivery world a c).2.2 with
    | none =>
      rw [hcause] at hanswer
      exact Or.inl hanswer
    | some cause =>
      obtain ⟨text, rfl⟩ := callAll_panic hcause
      rw [hcause] at hanswer
      exact Or.inr ⟨text, hanswer⟩

/-- Where nobody is registered, nobody panics, and nobody is registered afterwards. -/
theorem calm_of_nobody (h : l.registry.entries = []) (world : σ) (a : Action α) :
    l.Calm world a ∧ (l.perform world a).list.registry = l.registry := by
  cases hr : (l.journal.step a).reported with
  | none =>
    refine ⟨fun text hraised => ?_, (silent_of_quiet world hr).registry⟩
    rw [answer_of_quiet world hr] at hraised
    exact step_answer_ne_raised l.journal a text hraised
  | some c =>
    have hconcluded := l.concluded_of_reported world hr
    have hdelivery : l.delivery world a c = (l.opening world c, [], none) := by
      rw [delivery, h]
      rfl
    rw [hdelivery] at hconcluded
    refine ⟨fun text hraised => ?_, hconcluded.registry⟩
    rw [hconcluded.answer] at hraised
    exact step_answer_ne_raised l.journal a text hraised

/-- A call on `l` that reports `c` and is cut short by the panic of a callback. -/
structure Cut (l : ObservableList σ α) (a : Action α) (c : Change α) (p : Performed σ α) : Prop where
  reported : p.reported = some c
  /-- The change is whole: it is all that was pending, with what the action has recorded. -/
  whole : Journal.Reported (l.journal.gathered a) (l.journal.step a)
  /-- What the action has done stays done, and nothing is left to report. -/
  journal : p.list.journal = { l.journal.gathered a with pending := .empty }
  /-- No watcher gets the change. -/
  feeds : p.list.feeds = l.feeds

/-- **A callback can cut a call short only while it reports**, and then the watchers get nothing. -/
theorem cut_of_raised {world : σ} {text : String}
    (h : (l.perform world a).answer = .error (.raised text)) :
    ∃ c, l.Cut a c (l.perform world a) := by
  cases hr : (l.journal.step a).reported with
  | none =>
    rw [answer_of_quiet world hr] at h
    exact absurd h (step_answer_ne_raised l.journal a text)
  | some c =>
    have hconcluded := l.concluded_of_reported world hr
    have hwhole := Journal.reported_of_step hr
    refine ⟨c, (l.perform_reported world a).trans hr, hwhole,
      (l.perform_journal world a).trans hwhole.journal, ?_⟩
    have hanswer := hconcluded.answer
    have hfeeds := hconcluded.feeds
    cases hcause : (l.delivery world a c).2.2 with
    | none =>
      rw [hcause, h] at hanswer
      exact absurd hanswer.symm (step_answer_ne_raised l.journal a text)
    | some cause =>
      rw [hcause] at hfeeds
      exact hfeeds

end ObservableList

end ChangeAudit
