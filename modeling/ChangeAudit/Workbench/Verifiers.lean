/-
# Verifiers on a workbench

A verifier is started in a fixed order: its settings are read, its collection has to exist, the
contents are read once, and only then it subscribes.  Dropping it lets go of its collection first
and gives up its subscription afterwards; if that was the last hold on the collection, there is
nothing left to give the subscription back to, and its callback stays registered with a list that
may live on.
-/
import ChangeAudit.Config.Written
import ChangeAudit.Workbench.Lists

namespace ChangeAudit.Workbench

namespace Bench

variable {α : Type} [BEq α] [Element α]

/-- Drops a verifier: lets go of its collection, then gives up its subscription. -/
def dropVerifier (b : Bench α) (name : String) : Effect α :=
  b.lettingGo b.verifiers name fun handle =>
    let world := { b.world with
      verifiers := b.world.verifiers.modify handle.number fun o => { o with kept := false } }
    let b := { b with world, verifiers := b.verifiers.drop name }
    let reached := if world.isAlive handle.collection then (b.stands[handle.collection]?).map (·.list)
      else none
    let (b, _, log, _) := b.releaseOn handle.collection reached handle.subscription
    { bench := b, log }

/-- Starts a verifier of an existing collection: reads it once, then subscribes.  A verifier that
had its name is dropped once the new one tracks the collection. -/
def attachVerifier (b : Bench α) (name : String) (n : Nat) (list : ObservableList (World α) α)
    (config : Config) : Effect α :=
  let (items, world) := b.world.read n list.items
  let b := { b with world }
  match (world.collections[n]?).bind (·.refusal) with
  | some text => b.say (.failed (.subscription (.subscription text)))
  | none =>
    let number := world.verifiers.length
    let (list, log, result) := list.subscribe world (Verifier.callback (World.site number n))
    let b := b.setList n list
    match result with
    | .error e => { bench := b, answer := .ok (.failed (.subscription e)), log }
    | .ok id =>
      let verifier := Verifier.ofSnapshot config items
      let handle : VerifierHandle := { number, collection := n, subscription := { id } }
      let world := { b.world with
        verifiers := b.world.verifiers ++ [{ verifier, collection := n }] }
      let former := { b with world }.dropVerifier name
      { bench := { former.bench with verifiers := former.bench.verifiers.put name handle }
        answer := .ok .accepted
        log := log ++ [.tracking verifier.name verifier.shadow.size] ++ former.log }

/-- Starts a verifier; wrong settings are found first. -/
def startVerifier (b : Bench α) (name list : String) (settings : Option String)
    (mayBeGone : Bool) : Effect α :=
  match (settings.map Config.ofText).getD (.ok {}) with
  | .error e => b.say (.badSettings e)
  | .ok config =>
    b.withNamed b.lists list fun n =>
      if mayBeGone && !b.world.isAlive n then b.say (.failed .missingCollection)
      else b.withCollection list fun n list => b.attachVerifier name n list config

/-- What a verifier finds when it is asked, the workbench afterwards, and the log. -/
def verify (b : Bench α) (handle : VerifierHandle) (v : Verifier α)
    (list : ObservableList (World α) α) : Bench α × Option (Mismatch α) × List (LogEntry α) :=
  let (live, world) := b.world.read handle.collection list.items
  ({ b with world }, v.verify live)

/-- The reply about a comparison. -/
def verdict : Option (Mismatch α) → Reply α
  | none => .accepted
  | some m => .failed (.mismatch m)

/-- Replays a change by hand. -/
def replay (b : Bench α) (name : String) (c : Change α) : Effect α :=
  b.withVerifier name fun handle v list =>
    let site := World.site handle.number handle.collection
    let (live, world) := site.readFor v list.items b.world
    let r := v.replay live c
    { bench := { b with world := site.store r.verifier world }
      answer := .ok (verdict r.mismatch), log := r.log }

/-- Ends the tracking of a verifier, which stays in existence. -/
def detach (b : Bench α) (name : String) : Effect α :=
  b.withVerifier name fun handle _ list =>
    let (b, subscription, log, was) := b.releaseOn handle.collection (some list) handle.subscription
    { bench := { b with verifiers := b.verifiers.put name { handle with subscription } }
      answer := .ok (.flag was), log }

end Bench

end ChangeAudit.Workbench
