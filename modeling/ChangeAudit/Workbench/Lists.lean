/-
# Lists, batches, subscribers and watchers on a workbench

A batch keeps its list in existence until it ends, and may end before or after others on the same
list.  A subscription whose owner releases it reaches its list only if that still exists.  A watcher
may go on receiving when its list is gone: first what its feed holds, then that nothing will come.
-/
import ChangeAudit.Workbench.Bench

namespace ChangeAudit.Workbench

namespace Bench

variable {α : Type}

/-! ## 1. Lists and batches -/

/-- Lets go of a collection, and of its list unless it is to be kept. -/
def dropList (b : Bench α) (n : Nat) (keep : Bool) : Effect α :=
  { bench := { b with
      world := b.world.modifyCollection n fun c => { c with held := false }
      stands := b.stands.modify n fun s => { s with held := s.held && keep } } }

/-- A new list, with the collection around it, in place of one that had its name. -/
def create (b : Bench α) (list name : String) (items : List α) : Effect α :=
  let b := (b.lettingGo b.lists list fun n => b.dropList n false).bench
  let n := b.stands.length
  { bench := { b with
      stands := b.stands ++ [{ list := .ofItems name n items }]
      world := { b.world with collections := b.world.collections ++ [{}] }
      lists := b.lists.put list n } }

/-- The reply about a completed mutation. -/
def replyTo : Answer → Reply α
  | .done => .nothing
  | .found was => .flag was
  | .removed count => .count count

/-- An action on the list of a number. -/
def act [BEq α] (b : Bench α) (n : Nat) (a : Action α) : Effect α :=
  match b.stands[n]? with
  | none => b.say .gone
  | some stand =>
    let p := stand.list.perform b.world a
    { bench := { b with world := p.world }.setList n p.list
      answer := p.answer.map replyTo
      log := p.log }

/-- Ends a batch and forgets it. -/
def finishBatch [BEq α] (b : Bench α) (batch : String) (a : Action α) : Effect α :=
  b.lettingGo b.batches batch fun n => { b with batches := b.batches.drop batch }.act n a

/-- Opens a batch on the list of a number; a batch that had its name ends once it is open. -/
def openBatch [BEq α] (b : Bench α) (n : Nat) (batch : String) : Effect α :=
  let opened := b.act n .openBatch
  let former := opened.bench.finishBatch batch .endBatch
  { former with
    bench := { former.bench with batches := former.bench.batches.put batch n }
    log := opened.log ++ former.log }

/-- Ends batches one after another while the code that opened them panics. -/
def abandonAll [BEq α] (b : Bench α) : List String → Effect α
  | [] => { bench := b, answer := .error .insideBatch }
  | batch :: rest =>
    let first := b.finishBatch batch .abandonBatch
    let others := first.bench.abandonAll rest
    { others with log := first.log ++ others.log }

/-! ## 2. Subscribers and watchers -/

/-- Gives up the subscription of a subscriber through a list. -/
def unsubscribe (b : Bench α) (n : Nat) (list : ObservableList (World α) α) (name : String) :
    Effect α :=
  b.withNamed b.subscribers name fun id =>
    let (list, log, was) := list.unsubscribe b.world id
    { bench := b.setList n list, answer := .ok (.flag was), log }

/-- Releases a subscription on the list of a number, `none` if that list is out of reach: the
workbench, the subscription afterwards, the log, and whether it was registered. -/
def releaseOn (b : Bench α) (n : Nat) (list : Option (ObservableList (World α) α))
    (s : Subscription) : Bench α × Subscription × List (LogEntry α) × Bool :=
  let r := s.release list b.world
  ((r.list.map (b.setList n)).getD b, r.subscription, r.log, r.was)

/-- Releases the subscription of an owner. -/
def release (b : Bench α) (name : String) : Effect α :=
  b.withNamed b.owners name fun o =>
    let (b, subscription, log, was) := b.releaseOn o.list (b.liveList? o.list) o.subscription
    { bench := { b with owners := b.owners.put name { o with subscription } }
      answer := .ok (.flag was), log }

/-- Releases the subscription of an owner, and forgets the owner; the identifier stays known. -/
def dropSubscription (b : Bench α) (name : String) : Effect α :=
  b.lettingGo b.owners name fun _ =>
    let e := b.release name
    { bench := { e.bench with owners := e.bench.owners.drop name }, log := e.log }

/-- Subscribes a plain callback, and gives the subscription to an owner if it is to have one.  An
owner that had the name releases its own subscription once the new one is registered. -/
def subscribe (b : Bench α) (n : Nat) (list : ObservableList (World α) α) (name : String)
    (reaction : Reaction) (owned : Bool) : Effect α :=
  let (list, log, result) := list.subscribe b.world (plainCallback name reaction)
  let b := b.setList n list
  match result with
  | .error e => { bench := b, answer := .ok (.refused e), log }
  | .ok id =>
    let b := { b with subscribers := b.subscribers.put name id }
    if owned then
      let former := b.dropSubscription name
      let owner : Owner := { list := n, subscription := { id } }
      { bench := { former.bench with owners := former.bench.owners.put name owner }
        answer := .ok .accepted, log := log ++ former.log }
    else { bench := b, answer := .ok .accepted, log }

/-- Does something with the feed of a watcher; the list tells whether it still exists. -/
def withFeed (b : Bench α) (name : String)
    (f : Watcher → ObservableList (World α) α → Feed α → (live : Bool) → Effect α) : Effect α :=
  b.withNamed b.watchers name fun w =>
    match b.stands[w.list]? with
    | none => b.say (.unknown name)
    | some stand =>
      match stand.list.feed? w.feed with
      | none => b.say (.unknown name)
      | some feed => f w stand.list feed (b.listIsAlive w.list)

/-- What a watcher receives next, and the workbench afterwards. -/
def receive (b : Bench α) (name : String) (f : Bench α → Received α → Effect α) : Effect α :=
  b.withFeed name fun w list feed live =>
    let (r, feed) := feed.receive live
    f (b.setList w.list (list.setFeed w.feed feed)) r

/-- Everything that a watcher receives until nothing waits. -/
def drain (b : Bench α) (name : String) : Effect α :=
  b.withFeed name fun w list feed live =>
    { bench := b.setList w.list (list.setFeed w.feed {}), answer := .ok (.drained (feed.drain live)) }

/-- Ends a watch. -/
def unwatch (b : Bench α) (name : String) : Effect α :=
  b.lettingGo b.watchers name fun w =>
    { bench := { b with
        watchers := b.watchers.drop name
        stands := b.stands.modify w.list fun s => { s with list := s.list.unwatch w.feed } } }

/-- Watches a list; a watch that had the name ends. -/
def watch (b : Bench α) (n : Nat) (list : ObservableList (World α) α) (name : String) :
    Effect α :=
  let (list, feed) := list.watch
  let b := ((b.setList n list).unwatch name).bench
  { bench := { b with watchers := b.watchers.put name { list := n, feed } } }

end Bench

end ChangeAudit.Workbench
