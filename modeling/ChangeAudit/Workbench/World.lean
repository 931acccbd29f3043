/-
# Collections, verifiers and deliveries

The world that the callbacks of a workbench work on.  Every list of a workbench has a collection
around it, which forwards subscriptions to the list and gives its contents, and which verifiers
observe.  A collection counts how often its contents are read, can be made to give other contents
than the list has, and can be made to refuse subscriptions.

A collection exists as long as the workbench holds it or a verifier of it does.  A verifier that was
dropped no longer counts, although its callback may still be registered: such a callback finds its
collection as anyone does, and does nothing once the collection is gone.
-/
import ChangeAudit.Verifier.Callback

namespace ChangeAudit.Workbench

/-- A collection around a list. -/
structure Collection (α : Type) where
  /-- Whether the workbench holds it. -/
  held : Bool := true
  /-- Contents that it gives instead of those of the list. -/
  staged : Option (List α) := none
  /-- The text with which it refuses subscriptions. -/
  refusal : Option String := none
  /-- How often its contents were read. -/
  reads : Nat := 0

/-- A verifier and the number of its collection. -/
structure Observed (α : Type) where
  verifier : Verifier α
  collection : Nat
  /-- Whether it has not been dropped. -/
  kept : Bool := true

/-- A change as a plain callback was told of it, and the size of the list at that moment. -/
structure Delivery (α : Type) where
  change : Change α
  size : Nat

/-- What callbacks work on. -/
structure World (α : Type) where
  /-- The collections, by the numbers of their lists. -/
  collections : List (Collection α) := []
  /-- All verifiers ever started, by their numbers. -/
  verifiers : List (Observed α) := []
  /-- What was delivered to plain callbacks, under their names. -/
  deliveries : List (String × Delivery α) := []

namespace World

variable {α : Type}

/-- Whether a collection exists. -/
def isAlive (w : World α) (collection : Nat) : Bool :=
  (w.collections[collection]?).any (·.held) ||
    w.verifiers.any fun o => o.kept && o.collection == collection

/-- Changes a collection. -/
def modifyCollection (w : World α) (collection : Nat) (f : Collection α → Collection α) : World α :=
  { w with collections := w.collections.modify collection f }

/-- Reads a collection whose list has the given contents. -/
def read (w : World α) (collection : Nat) (contents : List α) : List α × World α :=
  let staged := (w.collections[collection]?).bind (·.staged)
  (staged.getD contents, w.modifyCollection collection fun c => { c with reads := c.reads + 1 })

/-- Puts a verifier in the place of an earlier state of it. -/
def storeVerifier (w : World α) (number : Nat) (v : Verifier α) : World α :=
  { w with verifiers := w.verifiers.modify number fun o => { o with verifier := v } }

/-- Where the callback of a verifier finds it: as long as its collection exists. -/
def site (number collection : Nat) : Site (World α) α where
  find w := if w.isAlive collection then (w.verifiers[number]?).map (·.verifier) else none
  store v w := w.storeVerifier number v
  read contents w := w.read collection contents

/-- Writes down a delivery. -/
def deliver (w : World α) (name : String) (d : Delivery α) : World α :=
  { w with deliveries := w.deliveries ++ [(name, d)] }

end World

/-! ## Plain callbacks -/

/-- What a plain callback does after it has written down its delivery. -/
inductive Reaction where
  | record
  | panic
  /-- Gives up its own subscription. -/
  | once
  /-- Closes the list. -/
  | close
  /-- Subscribes another plain callback that only records. -/
  | spawn
  deriving DecidableEq

/-- The name of a callback that another one has subscribed. -/
def spawnedName (name : String) : String := name ++ "+"

variable {α : Type}

/-- A callback that writes down its deliveries and goes on. -/
def recording (name : String) (next : SubscriptionId → Script (World α) α) :
    Callback (World α) α := fun id change contents =>
  .read fun w => .write (w.deliver name { change, size := contents.length }) (next id)

/-- What a reaction does. -/
def Reaction.script (name : String) (id : SubscriptionId) : Reaction → Script (World α) α
  | .record => .done
  | .panic => .panic ("subscriber " ++ name ++ " panicked")
  | .once => .unsubscribe id fun _ => .done
  | .close => .close .done
  | .spawn => .subscribe (recording (spawnedName name) fun _ => .done) fun _ => .done

/-- A plain callback. -/
def plainCallback (name : String) (reaction : Reaction) : Callback (World α) α :=
  recording name fun id => reaction.script name id

end ChangeAudit.Workbench
