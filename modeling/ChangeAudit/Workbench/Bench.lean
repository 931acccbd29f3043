/-
# Workbenches

A workbench holds lists with their collections, open batches, subscribers, watchers, verifiers and
shadows under names, and settles what exists.  A list exists as long as the workbench holds it, its
collection exists, or a batch on it is open; a collection exists as long as the workbench holds it
or a verifier of it has not been dropped.  What is asked of a list or a collection that is gone is
not done, and the reply says so.

Whoever takes a name that is in use lets go of what had it before; letting go of what is not there
changes nothing.
-/
import ChangeAudit.Workbench.Command

namespace ChangeAudit.Workbench

/-! ## 1. What a workbench holds -/

/-- Things under names, the latest of a name first. -/
abbrev Names (β : Type) := List (String × β)

namespace Names

variable {β : Type}

def find? (names : Names β) (name : String) : Option β := names.lookup name

def drop (names : Names β) (name : String) : Names β := names.filter (·.1 ≠ name)

def put (names : Names β) (name : String) (b : β) : Names β := (name, b) :: names.drop name

end Names

/-- A list, and whether the workbench holds it. -/
structure Stand (α : Type) where
  list : ObservableList (World α) α
  held : Bool := true

/-- The owner of a subscription to the list of a number. -/
structure Owner where
  list : Nat
  subscription : Subscription

/-- A watcher: the number of its list, and its number there. -/
structure Watcher where
  list : Nat
  feed : Nat

/-- A verifier: its number, the number of its collection, and its subscription. -/
structure VerifierHandle where
  number : Nat
  collection : Nat
  subscription : Subscription

/-- A workbench. -/
structure Bench (α : Type) where
  /-- The lists, by their numbers. -/
  stands : List (Stand α) := []
  world : World α := {}
  /-- Numbers of lists. -/
  lists : Names Nat := []
  /-- Open batches, with the numbers of their lists. -/
  batches : Names Nat := []
  /-- The identifiers of plain callbacks, registered or not. -/
  subscribers : Names SubscriptionId := []
  /-- The owners of those that have one. -/
  owners : Names Owner := []
  watchers : Names Watcher := []
  verifiers : Names VerifierHandle := []
  shadows : Names (Shadow α) := []

/-- The effect of a command. -/
structure Effect (α : Type) where
  bench : Bench α
  answer : Except Panic (Reply α) := .ok .nothing
  log : List (LogEntry α) := []

namespace Bench

variable {α : Type}

/-! ## 2. What exists -/

/-- Whether a list exists. -/
def listIsAlive (b : Bench α) (n : Nat) : Bool :=
  (b.stands[n]?).any (·.held) || b.world.isAlive n || b.batches.any (·.2 == n)

/-- Nothing but a reply. -/
def say (b : Bench α) (reply : Reply α) : Effect α := { bench := b, answer := .ok reply }

/-- Puts a list in the place of an earlier state of it. -/
def setList (b : Bench α) (n : Nat) (list : ObservableList (World α) α) : Bench α :=
  { b with stands := b.stands.modify n fun stand => { stand with list } }

/-- The list of a number, if it exists. -/
def liveList? (b : Bench α) (n : Nat) : Option (ObservableList (World α) α) :=
  if b.listIsAlive n then (b.stands[n]?).map (·.list) else none

/-- The items of a named list, if it exists. -/
def itemsOf? (b : Bench α) (name : String) : Option (List α) :=
  (b.lists.find? name).bind fun n => (b.liveList? n).map (·.items)

/-- Does something with a named thing. -/
def withNamed {β : Type} (b : Bench α) (names : Names β) (name : String) (f : β → Effect α) :
    Effect α :=
  match names.find? name with
  | none => b.say (.unknown name)
  | some x => f x

/-- Lets go of a named thing, if it is there. -/
def lettingGo {β : Type} (b : Bench α) (names : Names β) (name : String) (f : β → Effect α) :
    Effect α :=
  match names.find? name with
  | none => { bench := b }
  | some x => f x

/-- Does something with a named list, if it exists. -/
def withList (b : Bench α) (name : String) (f : Nat → ObservableList (World α) α → Effect α) :
    Effect α :=
  b.withNamed b.lists name fun n =>
    match b.liveList? n with
    | none => b.say .gone
    | some list => f n list

/-- Does something with the collection of a named list, if it exists. -/
def withCollection (b : Bench α) (name : String)
    (f : Nat → ObservableList (World α) α → Effect α) : Effect α :=
  b.withNamed b.lists name fun n =>
    match b.stands[n]? with
    | none => b.say .gone
    | some stand => if b.world.isAlive n then f n stand.list else b.say .gone

/-- Does something with a named verifier and the list of its collection. -/
def withVerifier (b : Bench α) (name : String)
    (f : VerifierHandle → Verifier α → ObservableList (World α) α → Effect α) : Effect α :=
  b.withNamed b.verifiers name fun handle =>
    match b.world.verifiers[handle.number]?, b.stands[handle.collection]? with
    | some observed, some stand => f handle observed.verifier stand.list
    | _, _ => b.say (.unknown name)

end Bench

end ChangeAudit.Workbench
