/-
# Commands and replies

What a workbench can be told to do, and what it answers.  Lists, batches, subscribers, watchers,
verifiers and shadows go by names that the commands choose.
-/
import ChangeAudit.Observer.Feed
import ChangeAudit.Verifier.Report
import ChangeAudit.Workbench.World

namespace ChangeAudit

namespace Selector

variable {α : Type}

/-- Every element, or none. -/
def const (chosen : Bool) : Selector α := fun _ _ => some chosen

/-- The elements that equal one of a list. -/
def memberOf [BEq α] (xs : List α) : Selector α := fun _ x => some (xs.any (· == x))

/-- The first `n` elements visited. -/
def first (n : Nat) : Selector α := fun earlier _ => some (earlier.length < n)

/-- Every `n`-th element visited. -/
def every (n : Nat) : Selector α := fun earlier _ => some ((earlier.length + 1) % n = 0)

/-- Every element, but the choice panics at the `n`-th. -/
def panicAt (n : Nat) : Selector α := fun earlier _ =>
  if earlier.length + 1 = n then none else some true

end Selector

/-- An insertion whose source panics instead of giving its `n`-th item; if it has fewer items, it
does not come to that. -/
def Mutation.extendUpTo {α : Type} (items : List α) (n : Nat) : Mutation α :=
  if 1 ≤ n ∧ n ≤ items.length then .extend (items.take (n - 1)) true else .extend items false

namespace Workbench

/-- What a workbench can be told to do. -/
inductive Command (α : Type) where
  /-- Makes a list, and a collection around it. -/
  | create (list name : String) (items : List α)
  /-- Lets go of the collection of a list, and of the list unless it is to be kept. -/
  | dropList (list : String) (keep : Bool)
  | mutate (list : String) (m : Mutation α)
  | snapshot (list : String)
  | size (list : String)
  | isEmpty (list : String)
  | name (list : String)
  | close (list : String)
  | isClosed (list : String)
  | subscriberCount (list : String)
  | openBatch (list batch : String)
  /-- Ends a batch; `shown` is the list whose items are of interest. -/
  | endBatch (batch : String) (shown : Option String)
  /-- Some code panics that has these batches open; they end one after another. -/
  | panicInside (batches : List String) (shown : Option String)
  /-- Subscribes a plain callback; `owned` if the subscription is to have an owner. -/
  | subscribe (list subscriber : String) (reaction : Reaction) (owned : Bool)
  | unsubscribe (list subscriber : String)
  | release (subscriber : String)
  | isActive (subscriber : String)
  | showSubscription (subscriber : String) (laidOut : Bool)
  | dropSubscription (subscriber : String)
  | watch (list watcher : String)
  | receive (watcher : String)
  | drain (watcher : String)
  | unwatch (watcher : String)
  /-- Makes a collection give other contents than its list has, or its own again. -/
  | stage (list : String) (items : Option (List α))
  /-- Makes a collection refuse subscriptions, or accept them again. -/
  | refuse (list : String) (text : Option String)
  | collectionSize (list : String)
  | collectionIsEmpty (list : String)
  | reads (list : String)
  /-- Starts a verifier, with the default settings or with those in a text; `mayBeGone` if the
  collection need not exist. -/
  | startVerifier (verifier list : String) (settings : Option String) (mayBeGone : Bool)
  | verify (verifier : String)
  | replay (verifier : String) (change : Change α)
  | assertConsistent (verifier : String)
  | shadowOf (verifier : String)
  | stats (verifier : String)
  | violations (verifier : String)
  | takeViolations (verifier : String)
  | settings (verifier : String)
  | isAttached (verifier : String)
  | detach (verifier : String)
  | observedItems (verifier : String)
  | haveSameId (verifier other : String)
  | showVerifier (verifier : String) (laidOut : Bool)
  | dropVerifier (verifier : String)
  | makeShadow (shadow : String) (items : List α)
  | applyChange (shadow : String) (change : Change α)
  /-- Applies what a watcher receives next. -/
  | applyNext (shadow watcher : String)
  | inspectShadow (shadow : String)
  | equalShadows (shadow other : String)

/-- The list whose items a command is about. -/
def Command.shown? {α : Type} : Command α → Option String
  | .mutate list _ => some list
  | .endBatch _ shown | .panicInside _ shown => shown
  | _ => none

/-- What a workbench answers. -/
inductive Reply (α : Type) where
  | nothing
  | accepted
  /-- The list or the collection is gone. -/
  | gone
  /-- Nothing goes by that name. -/
  | unknown (name : String)
  | flag (b : Bool)
  | count (n : Nat)
  | text (s : String)
  | items (xs : List α)
  | refused (error : CollectionError)
  | failed (error : VerifyError α)
  | badSettings (error : Json.ReadError)
  | received (r : Received α)
  | drained (rs : List (Received α))
  | stats (s : VerifierStats)
  | violations (ms : List (Mismatch α))
  | settings (c : Config)
  | applied (a : Applied α) (after : Shadow α)
  | shadow (s : Shadow α)

/-- Everything that can be seen of one command. -/
structure Report (α : Type) where
  /-- The reply, or the panic that the command ended in. -/
  answer : Except Panic (Reply α)
  log : List (LogEntry α)
  deliveries : List (String × Delivery α)
  /-- The items of the list that the command was about. -/
  items : Option (List α)

end Workbench

end ChangeAudit
