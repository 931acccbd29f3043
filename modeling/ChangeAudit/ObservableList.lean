/-
# Observable lists

An observable list is a journal with two kinds of observers.  Callbacks are told of a change while
the call that made it is still going on, one after another; watchers find it in their feeds
afterwards.  Everything the list does to its contents goes through `ObservableList.perform`, whose
effect on the journal is `Journal.step` and nothing else: observers cannot influence it
(`perform_journal`).

A report reaches the callbacks that are registered when it starts, also those that another
callback unsubscribes meanwhile, and none that is registered meanwhile.  A callback that panics
ends the report: the callbacks after it are not called, the watchers do not get the change, and
the call that made the change does not return; the change itself stays.
-/
import ChangeAudit.Observer.Feed
import ChangeAudit.Observer.Script

namespace ChangeAudit

/-- A list with its callbacks and its watchers. -/
structure ObservableList (σ α : Type) where
  journal : Journal α
  registry : Registry (Callback σ α)
  /-- The feeds of the watchers, each under a number of its own. -/
  feeds : List (Nat × Feed α) := []
  nextFeed : Nat := 0

/-- The effect of a call on a list: the list, the world and the log afterwards, the change that
was reported and the callbacks that were called, and the answer or the panic. -/
structure Performed (σ α : Type) where
  list : ObservableList σ α
  world : σ
  log : List (LogEntry α) := []
  reported : Option (Change α) := none
  called : List SubscriptionId := []
  answer : Except Panic Answer := .ok .done

namespace ObservableList

variable {σ α : Type}

/-! ## 1. Making and reading a list -/

/-- A list with initial contents, for which nothing is reported. -/
def ofItems (name : String) (source : Nat) (items : List α) : ObservableList σ α where
  journal := { items }
  registry := { listName := name, source }

def name (l : ObservableList σ α) : String := l.registry.listName

def items (l : ObservableList σ α) : List α := l.journal.items

def size (l : ObservableList σ α) : Nat := l.items.length

def isEmpty (l : ObservableList σ α) : Bool := l.size == 0

/-! ## 2. Reporting a change -/

/-- Calls callbacks one after another, up to the first that panics: the scene afterwards, the
callbacks called, and the panic.  The callbacks may be given in any order; the registry's is the one
in which they came. -/
def callAll (c : Change α) (contents : List α) :
    List (SubscriptionId × Callback σ α) → Scene σ α →
    Scene σ α × List SubscriptionId × Option Panic
  | [], s => (s, [], none)
  | (id, callback) :: rest, s =>
    match (callback id c contents).run s with
    | (s, some cause) => (s, [id], some cause)
    | (s, none) =>
      let (s, called, panic) := callAll c contents rest s
      (s, id :: called, panic)

/-- Puts a change into the feeds of all watchers. -/
def publish (l : ObservableList σ α) (c : Change α) : ObservableList σ α :=
  { l with feeds := l.feeds.map fun (n, feed) => (n, feed.send c) }

/-- Reports a change to the callbacks, and then to the watchers; the answer of the call is
`answer` if no callback panics. -/
def report (l : ObservableList σ α) (world : σ) (c : Change α) (answer : Except Panic Answer) :
    Performed σ α :=
  let start : Scene σ α :=
    { registry := l.registry, world, log := [.changed l.name c.removed.length c.added.length] }
  let (s, called, panic) := callAll c l.items l.registry.entries start
  let after : ObservableList σ α := { l with registry := s.registry }
  match panic with
  | some cause =>
    { list := after, world := s.world, log := s.log, reported := some c, called,
      answer := .error cause }
  | none =>
    { list := after.publish c, world := s.world, log := s.log, reported := some c, called, answer }

/-! ## 3. Changing the contents -/

/-- The log entry about a change that was lost. -/
def lossEntries (l : ObservableList σ α) : Option (Change α) → List (LogEntry α)
  | none => []
  | some c => [.abandoned l.name c.removed.length c.added.length]

/-- Carries out an action and reports what is due. -/
def perform [BEq α] (l : ObservableList σ α) (world : σ) (a : Action α) : Performed σ α :=
  let step := l.journal.step a
  let after := { l with journal := step.journal }
  match step.reported with
  | some c => after.report world c step.answer
  | none => { list := after, world, log := l.lossEntries step.lost, answer := step.answer }

/-! ## 4. Observers -/

/-- What a registry operation works on. -/
def scene (l : ObservableList σ α) (world : σ) : Scene σ α := { registry := l.registry, world }

/-- Registers a callback. -/
def subscribe (l : ObservableList σ α) (world : σ) (callback : Callback σ α) :
    ObservableList σ α × List (LogEntry α) × Except CollectionError SubscriptionId :=
  let (s, result) := (l.scene world).subscribe callback
  ({ l with registry := s.registry }, s.log, result)

/-- Gives up a subscription; whether it existed. -/
def unsubscribe (l : ObservableList σ α) (world : σ) (id : SubscriptionId) :
    ObservableList σ α × List (LogEntry α) × Bool :=
  let (s, was) := (l.scene world).unsubscribe id
  ({ l with registry := s.registry }, s.log, was)

/-- Drops all callbacks and refuses new ones; mutations keep working. -/
def close (l : ObservableList σ α) (world : σ) : ObservableList σ α × List (LogEntry α) :=
  let s := (l.scene world).close
  ({ l with registry := s.registry }, s.log)

def subscriberCount (l : ObservableList σ α) : Nat := l.registry.count

def isClosed (l : ObservableList σ α) : Bool := l.registry.isClosed

/-- A new watcher, who gets the reports from now on. -/
def watch (l : ObservableList σ α) : ObservableList σ α × Nat :=
  ({ l with feeds := l.feeds ++ [(l.nextFeed, {})], nextFeed := l.nextFeed + 1 }, l.nextFeed)

/-- The feed of a watcher. -/
def feed? (l : ObservableList σ α) (watcher : Nat) : Option (Feed α) := l.feeds.lookup watcher

/-- Changes the feed of a watcher. -/
def setFeed (l : ObservableList σ α) (watcher : Nat) (feed : Feed α) : ObservableList σ α :=
  { l with feeds := l.feeds.map fun (n, old) => (n, if n = watcher then feed else old) }

/-- Ends a watch. -/
def unwatch (l : ObservableList σ α) (watcher : Nat) : ObservableList σ α :=
  { l with feeds := l.feeds.filter fun (n, _) => n ≠ watcher }

/-! ## 5. Observers and the registry -/

theorem valid_callAll {c : Change α} {contents : List α}
    (entries : List (SubscriptionId × Callback σ α)) {s : Scene σ α} (h : s.registry.Valid) :
    (callAll c contents entries s).1.registry.Valid := by
  induction entries generalizing s with
  | nil => exact h
  | cons entry rest ih =>
    have hrun := (entry.2 entry.1 c contents).valid_run h
    unfold callAll
    generalize (entry.2 entry.1 c contents).run s = r at hrun
    obtain ⟨s', _ | cause⟩ := r
    · exact ih hrun
    · exact hrun

/-- Whatever the callbacks do, the registry of the list keeps its order. -/
theorem valid_perform [BEq α] {l : ObservableList σ α} (h : l.registry.Valid) (world : σ)
    (a : Action α) : (l.perform world a).list.registry.Valid := by
  unfold perform
  dsimp only
  split
  · unfold report
    dsimp only
    split <;> exact valid_callAll l.registry.entries h
  · exact h

/-! ## 6. Observers and the contents -/

theorem report_journal (l : ObservableList σ α) (world : σ) (c : Change α)
    (answer : Except Panic Answer) : (l.report world c answer).list.journal = l.journal := by
  unfold report
  dsimp only
  split <;> rfl

/-- Observers cannot influence the contents: **what an action does to the journal does not depend
on the callbacks, the watchers or the world**. -/
theorem perform_journal [BEq α] (l : ObservableList σ α) (world : σ) (a : Action α) :
    (l.perform world a).list.journal = (l.journal.step a).journal := by
  unfold perform
  dsimp only
  split
  · exact report_journal _ _ _ _
  · rfl

/-- What is reported is what was due. -/
theorem perform_reported [BEq α] (l : ObservableList σ α) (world : σ) (a : Action α) :
    (l.perform world a).reported = (l.journal.step a).reported := by
  unfold perform
  dsimp only
  split
  · rename_i c h
    rw [h]
    unfold report
    dsimp only
    split <;> rfl
  · rename_i h
    rw [h]

end ObservableList

end ChangeAudit
