/-
# Carrying out commands

A workbench carries out commands one at a time.  `Bench.run` tells everything that can be seen of
one: the reply or the panic, the log, what was delivered to plain callbacks, and the items of the
list that the command was about.
-/
import ChangeAudit.Workbench.Verifiers

namespace ChangeAudit.Workbench

namespace Bench

variable {α : Type} [BEq α] [Element α]

/-- Applies a change to a shadow. -/
def applyTo (b : Bench α) (name : String) (c : Change α) : Effect α :=
  b.withNamed b.shadows name fun s =>
    let (after, applied) := s.apply c
    { b with shadows := b.shadows.put name after }.say (.applied applied after)

/-- Carries out a command. -/
def perform (b : Bench α) : Command α → Effect α
  | .create list name items => b.create list name items
  | .dropList list keep => b.withNamed b.lists list fun n => b.dropList n keep
  | .mutate list m => b.withList list fun n _ => b.act n (.mutate m)
  | .snapshot list => b.withList list fun _ l => b.say (.items l.items)
  | .size list => b.withList list fun _ l => b.say (.count l.size)
  | .isEmpty list => b.withList list fun _ l => b.say (.flag l.isEmpty)
  | .name list => b.withList list fun _ l => b.say (.text l.name)
  | .close list => b.withList list fun n l =>
    let (l, log) := l.close b.world
    { bench := b.setList n l, log }
  | .isClosed list => b.withList list fun _ l => b.say (.flag l.isClosed)
  | .subscriberCount list => b.withList list fun _ l => b.say (.count l.subscriberCount)
  | .openBatch list batch => b.withList list fun n _ => b.openBatch n batch
  | .endBatch batch _ => b.finishBatch batch .endBatch
  | .panicInside batches _ => b.abandonAll batches
  | .subscribe list name reaction owned => b.withList list fun n l =>
    b.subscribe n l name reaction owned
  | .unsubscribe list name => b.withList list fun n l => b.unsubscribe n l name
  | .release name => b.release name
  | .isActive name => b.withNamed b.owners name fun o => b.say (.flag o.subscription.active)
  | .showSubscription name laidOut => b.withNamed b.owners name fun o =>
    b.say (.text (o.subscription.dump.render laidOut))
  | .dropSubscription name => b.dropSubscription name
  | .watch list watcher => b.withList list fun n l => b.watch n l watcher
  | .receive watcher => b.receive watcher fun b r => b.say (.received r)
  | .drain watcher => b.drain watcher
  | .unwatch watcher => b.unwatch watcher
  | .stage list items => b.withCollection list fun n _ =>
    { bench := { b with world := b.world.modifyCollection n fun c => { c with staged := items } } }
  | .refuse list text => b.withCollection list fun n _ =>
    { bench := { b with world := b.world.modifyCollection n fun c => { c with refusal := text } } }
  | .collectionSize list => b.withCollection list fun n l =>
    let (items, world) := b.world.read n l.items
    { b with world }.say (.count items.length)
  | .collectionIsEmpty list => b.withCollection list fun n l =>
    let (items, world) := b.world.read n l.items
    { b with world }.say (.flag items.isEmpty)
  | .reads list => b.withCollection list fun n _ =>
    b.say (.count (((b.world.collections[n]?).map (·.reads)).getD 0))
  | .startVerifier name list settings mayBeGone => b.startVerifier name list settings mayBeGone
  | .verify name => b.withVerifier name fun handle v list =>
    let (b, m, log) := b.verify handle v list
    { bench := b, answer := .ok (verdict m), log }
  | .replay name c => b.replay name c
  | .assertConsistent name => b.withVerifier name fun handle v list =>
    let (b, m, log) := b.verify handle v list
    match m with
    | none => { bench := b, log }
    | some m => { bench := b, answer := .error (.raised m.text), log }
  | .shadowOf name => b.withVerifier name fun _ v _ => b.say (.items v.shadow.items)
  | .stats name => b.withVerifier name fun _ v _ => b.say (.stats v.stats)
  | .violations name => b.withVerifier name fun _ v _ => b.say (.violations v.violations)
  | .takeViolations name => b.withVerifier name fun handle v _ =>
    let (v, taken) := v.takeViolations
    { b with world := b.world.storeVerifier handle.number v }.say (.violations taken)
  | .settings name => b.withVerifier name fun _ v _ => b.say (.settings v.config)
  | .isAttached name => b.withVerifier name fun handle _ _ =>
    b.say (.flag handle.subscription.active)
  | .detach name => b.detach name
  | .observedItems name => b.withVerifier name fun _ _ list => b.say (.items list.items)
  | .haveSameId name other => b.withNamed b.verifiers name fun v =>
    b.withNamed b.verifiers other fun v' =>
      b.say (.flag (v.subscription.id == v'.subscription.id))
  | .showVerifier name laidOut => b.withVerifier name fun handle v _ =>
    b.say (.text ((v.dump handle.subscription).render laidOut))
  | .dropVerifier name => b.dropVerifier name
  | .makeShadow shadow items => { bench := { b with shadows := b.shadows.put shadow ⟨items⟩ } }
  | .applyChange shadow c => b.applyTo shadow c
  | .applyNext shadow watcher => b.receive watcher fun b r =>
    match r with
    | .change c => b.applyTo shadow c
    | r => b.say (.received r)
  | .inspectShadow shadow => b.withNamed b.shadows shadow fun s => b.say (.shadow s)
  | .equalShadows shadow other => b.withNamed b.shadows shadow fun s =>
    b.withNamed b.shadows other fun t => b.say (.flag (s == t))

/-- Carries out a command, and tells everything that can be seen of it. -/
def run (b : Bench α) (command : Command α) : Bench α × Report α :=
  let quiet := { b with world := { b.world with deliveries := [] } }
  let e := quiet.perform command
  (e.bench,
    { answer := e.answer
      log := e.log
      deliveries := e.bench.world.deliveries
      items := command.shown?.bind e.bench.itemsOf? })

end Bench

end ChangeAudit.Workbench
