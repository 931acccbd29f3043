/-
# Callbacks

A callback is told of a change while the list is busy reporting it.  It may look at the contents
of the list, read and write the world outside, write to the log, and work on the registry of the
list: subscribe further callbacks, give up subscriptions, close it.  It may panic.  What it cannot
do is change the list.

Such a callback is a `Script`: a tree of the things that it does, branching on what it learns on
the way.  A callback that subscribes another one contains that one's script, so a script cannot be
a function on registries; it is a tree, and `Script.run` plays it on a `Scene`.
-/
import ChangeAudit.Journal
import ChangeAudit.LogEntry
import ChangeAudit.Observer.Registry

namespace ChangeAudit

/-- What a callback does, over a world `σ` and elements `α`. -/
inductive Script (σ α : Type) where
  | done
  | panic (text : String)
  | read (next : σ → Script σ α)
  | write (world : σ) (next : Script σ α)
  | log (entries : List (LogEntry α)) (next : Script σ α)
  /-- Registers a callback; goes on with its identifier, or with `none` if it was refused. -/
  | subscribe (callback : SubscriptionId → Change α → List α → Script σ α)
      (next : Option SubscriptionId → Script σ α)
  | unsubscribe (id : SubscriptionId) (next : Bool → Script σ α)
  | close (next : Script σ α)

/-- A callback: its script for its own identifier, a change, and the contents of the list right
after the change. -/
abbrev Callback (σ α : Type) := SubscriptionId → Change α → List α → Script σ α

/-- Errors of a list that is observed. -/
inductive CollectionError where
  | closed (list : String)
  | subscription (text : String)
  deriving DecidableEq

/-- The error in words. -/
def CollectionError.message : CollectionError → String
  | .closed list => "Collection closed: " ++ list
  | .subscription text => "Subscription error: " ++ text

/-- What callbacks work on: the registry of the list, the world outside, and the log. -/
structure Scene (σ α : Type) where
  registry : Registry (Callback σ α)
  world : σ
  log : List (LogEntry α) := []

namespace Scene

variable {σ α : Type}

/-- Writes to the log. -/
def note (s : Scene σ α) (entries : List (LogEntry α)) : Scene σ α :=
  { s with log := s.log ++ entries }

/-- Registers a callback. -/
def subscribe (s : Scene σ α) (callback : Callback σ α) :
    Scene σ α × Except CollectionError SubscriptionId :=
  match s.registry.subscribe callback with
  | none => (s, .error (.closed s.registry.listName))
  | some (registry, id) =>
    ({ s with registry }.note [.subscribed registry.listName], .ok id)

/-- Gives up a subscription; whether it existed. -/
def unsubscribe (s : Scene σ α) (id : SubscriptionId) : Scene σ α × Bool :=
  let (registry, was) := s.registry.unsubscribe id
  ({ s with registry }.note (if was then [.unsubscribed registry.listName] else []), was)

/-- Drops all callbacks and refuses new ones. -/
def close (s : Scene σ α) : Scene σ α :=
  let (registry, dropped) := s.registry.close
  { s with registry }.note [.closed registry.listName dropped]

theorem valid_subscribe (s : Scene σ α) (callback : Callback σ α) (h : s.registry.Valid) :
    (s.subscribe callback).1.registry.Valid := by
  unfold subscribe
  split
  · exact h
  · rename_i registry id hs
    exact h.subscribe hs

theorem valid_unsubscribe (s : Scene σ α) (id : SubscriptionId) (h : s.registry.Valid) :
    (s.unsubscribe id).1.registry.Valid := h.unsubscribe id

theorem valid_close (s : Scene σ α) : s.close.registry.Valid := Registry.Valid.close

end Scene

namespace Script

variable {σ α : Type}

/-- Plays a script: the scene afterwards, and the panic that it ended in, if it did. -/
def run : Script σ α → Scene σ α → Scene σ α × Option Panic
  | .done, s => (s, none)
  | .panic text, s => (s, some (.raised text))
  | .read next, s => (next s.world).run s
  | .write world next, s => next.run { s with world }
  | .log entries next, s => next.run (s.note entries)
  | .subscribe callback next, s => (next (s.subscribe callback).2.toOption).run (s.subscribe callback).1
  | .unsubscribe id next, s => (next (s.unsubscribe id).2).run (s.unsubscribe id).1
  | .close next, s => next.run s.close

/-- Whatever a callback does, the registry keeps its order. -/
theorem valid_run (script : Script σ α) {s : Scene σ α} (h : s.registry.Valid) :
    (script.run s).1.registry.Valid := by
  induction script generalizing s with
  | done => exact h
  | panic text => exact h
  | read next ih => exact ih s.world h
  | write world next ih => exact ih h
  | log entries next ih => exact ih h
  | subscribe callback next _ ih => exact ih _ (s.valid_subscribe callback h)
  | unsubscribe id next ih => exact ih _ (s.valid_unsubscribe id h)
  | close next ih => exact ih s.valid_close

end Script

end ChangeAudit
