/-
# Code that deals with subscriptions

Code from outside a list and the callbacks that the list calls may register callbacks, for
themselves or for an owner, give subscriptions up, release what they own and close the list, in any
order.  All of it is a `Routine`, which is played as the script of a callback (`Routine.script`).  A
verifier is no exception: starting one attaches its callback, and detaching or dropping it releases
the subscription that it owns.

The owned subscriptions and a history of all calls to the registry are kept in a part of the world
that only these calls touch (`Custody`).  A request that is refused leaves both as they were
(`Routine.FailsCleanly`).
-/
import ChangeAudit.Observer.Subscription
import ChangeAudit.Proofs.Observers.History
import ChangeAudit.Verifier.Callback

namespace ChangeAudit

variable {τ α : Type}

/-! ## 1. Owned subscriptions -/

/-- The owned subscriptions, each under the number of its owner, the calls that were made to the
registry, and the rest of the world. -/
structure Custody (τ : Type) where
  owned : List Subscription := []
  calls : List RegistryCall := []
  rest : τ

namespace Custody

/-- One more call. -/
def note (w : Custody τ) (call : RegistryCall) : Custody τ := { w with calls := w.calls ++ [call] }

/-- What is told to somebody who has registered a callback. -/
def noteAnswer (w : Custody τ) : Option SubscriptionId → Custody τ
  | none => w.note .refused
  | some id => w.note (.registered id)

/-- The subscription to an identifier has an owner, who gets the next number. -/
def own (w : Custody τ) (id : SubscriptionId) : Custody τ := { w with owned := w.owned ++ [{ id }] }

/-- The owner has released his subscription. -/
def settle (w : Custody τ) (owner : Nat) : Custody τ :=
  { w with owned := w.owned.modify owner fun s => { s with active := false } }

end Custody

/-! ## 2. Routines -/

/-- What code does that may register callbacks and give subscriptions up: code from outside the
list, or a callback.  `τ` is the part of the world that is its own. -/
inductive Routine (τ α : Type) where
  | done
  | panic (text : String)
  /-- Looks at the world, and at the subscriptions that have owners. -/
  | read (next : List Subscription → τ → Routine τ α)
  | write (rest : τ) (next : Routine τ α)
  | log (entries : List (LogEntry α)) (next : Routine τ α)
  /-- Registers a callback; goes on with its identifier, or with `none` if it was refused. -/
  | subscribe (callback : SubscriptionId → Change α → List α → Routine τ α)
      (next : Option SubscriptionId → Routine τ α)
  /-- Registers a callback whose subscription has an owner; goes on with the number of the owner
  and the identifier. -/
  | attach (callback : SubscriptionId → Change α → List α → Routine τ α)
      (next : Option (Nat × SubscriptionId) → Routine τ α)
  /-- Gives a subscription up through the list. -/
  | unsubscribe (id : SubscriptionId) (next : Bool → Routine τ α)
  /-- An owner releases his subscription, or is dropped. -/
  | release (owner : Nat) (next : Bool → Routine τ α)
  | close (next : Routine τ α)

/-- A callback that is a routine. -/
abbrev Conduct (τ α : Type) := SubscriptionId → Change α → List α → Routine τ α

namespace Routine

/-- The routine as a script, which keeps the books. -/
def script : Routine τ α → Script (Custody τ) α
  | .done => .done
  | .panic text => .panic text
  | .read next => .read fun w => (next w.owned w.rest).script
  | .write rest next => .read fun w => .write { w with rest } next.script
  | .log entries next => .log entries next.script
  | .subscribe callback next =>
    .subscribe (fun id c contents => (callback id c contents).script) fun answer =>
      .read fun w => .write (w.noteAnswer answer) (next answer).script
  | .attach callback next =>
    .subscribe (fun id c contents => (callback id c contents).script) fun answer =>
      .read fun w =>
        match answer with
        | none => .write (w.noteAnswer none) (next none).script
        | some id =>
          .write ((w.noteAnswer (some id)).own id) (next (some (w.owned.length, id))).script
  | .unsubscribe id next =>
    .unsubscribe id fun was =>
      .read fun w => .write (w.note (.givenUp id none was)) (next was).script
  | .release owner next =>
    .read fun w =>
      match w.owned[owner]? with
      | none => (next false).script
      | some s =>
        if s.active then
          .write (w.settle owner) (.log [.releasing] (.unsubscribe s.id fun was =>
            .read fun w => .write (w.note (.givenUp s.id (some owner) was)) (next was).script))
        else .write (w.note (.givenUp s.id (some owner) false)) (next false).script
  | .close next => .close (.read fun w => .write (w.note .closed) next.script)

/-- A script of the world's own code. -/
def ofScript : Script τ α → Routine τ α
  | .done => .done
  | .panic text => .panic text
  | .read next => .read fun _ rest => ofScript (next rest)
  | .write rest next => .write rest (ofScript next)
  | .log entries next => .log entries (ofScript next)
  | .subscribe callback next =>
    .subscribe (fun id c contents => ofScript (callback id c contents)) fun answer =>
      ofScript (next answer)
  | .unsubscribe id next => .unsubscribe id fun was => ofScript (next was)
  | .close next => .close (ofScript next)

end Routine

/-- The callback that a routine is. -/
def Conduct.callback (conduct : Conduct τ α) : Callback (Custody τ) α := fun id c contents =>
  (conduct id c contents).script

/-! ## 3. Verifiers -/

/-- A site in the part of the world that is the code's own. -/
def Site.within (site : Site τ α) : Site (Custody τ) α where
  find w := site.find w.rest
  store v w := { w with rest := site.store v w.rest }
  read contents w :=
    ((site.read contents w.rest).1, { w with rest := (site.read contents w.rest).2 })

namespace Routine

variable [BEq α] [Element α]

/-- The callback of a verifier. -/
def tracking (site : Site τ α) : Conduct τ α := fun id c contents =>
  ofScript (Verifier.callback site id c contents)

/-- Starts a verifier: reads the collection, attaches the verifier's callback, and keeps the
verifier if that was not refused.  The verifier owns the subscription: it is detached or dropped by
releasing it. -/
def startVerifier (site : Site τ α) (config : Config) (contents : List α)
    (next : Option (Nat × SubscriptionId) → Routine τ α) : Routine τ α :=
  .read fun _ rest =>
    let (items, rest) := site.read contents rest
    .write rest (.attach (tracking site) fun
      | none => next none
      | some given => .write (site.store (.ofSnapshot config items) rest) (next (some given)))

/-- What the callback of a verifier does as a routine is what it does as a callback. -/
theorem run_tracking (site : Site τ α) (id : SubscriptionId) (c : Change α) (contents : List α)
    (s : Scene (Custody τ) α) :
    (tracking site id c contents).script.run s =
      (Verifier.callback site.within id c contents).run s := by
  have hfind : site.within.find s.world = site.find s.world.rest := rfl
  simp only [tracking, Verifier.callback, ofScript, script, Script.run, hfind]
  cases site.find s.world.rest with
  | none => rfl
  | some v =>
    cases hwanted : v.config.verifyOnChange with
    | false =>
      simp only [Site.readFor, hwanted, Bool.false_eq_true, if_false, ofScript, script, Script.run,
        Site.within]
      cases (v.notify none c).mismatch <;> rfl
    | true =>
      simp only [Site.readFor, hwanted, if_true, ofScript, script, Script.run, Site.within]
      cases (v.notify (some (site.read contents s.world.rest).1) c).mismatch <;> rfl

end Routine

/-! ## 4. Requests -/

namespace Routine

variable {s : Scene (Custody τ) α} {conduct : Conduct τ α}
  {registry : Registry (Callback (Custody τ) α)} {id : SubscriptionId}

theorem run_subscribe_of_none (next : Option SubscriptionId → Routine τ α)
    (hs : s.registry.subscribe conduct.callback = none) :
    (subscribe conduct next).script.run s =
      (next none).script.run { s with world := s.world.note .refused } := by
  unfold Conduct.callback at hs
  simp only [script, Script.run, Scene.subscribe, hs]
  rfl

theorem run_subscribe_of_some (next : Option SubscriptionId → Routine τ α)
    (hs : s.registry.subscribe conduct.callback = some (registry, id)) :
    (subscribe conduct next).script.run s =
      (next (some id)).script.run
        { registry, world := s.world.note (.registered id)
          log := s.log ++ [.subscribed registry.listName] } := by
  unfold Conduct.callback at hs
  simp only [script, Script.run, Scene.subscribe, hs]
  rfl

theorem run_attach_of_none (next : Option (Nat × SubscriptionId) → Routine τ α)
    (hs : s.registry.subscribe conduct.callback = none) :
    (attach conduct next).script.run s =
      (next none).script.run { s with world := s.world.note .refused } := by
  unfold Conduct.callback at hs
  simp only [script, Script.run, Scene.subscribe, hs]
  rfl

theorem run_attach_of_some (next : Option (Nat × SubscriptionId) → Routine τ α)
    (hs : s.registry.subscribe conduct.callback = some (registry, id)) :
    (attach conduct next).script.run s =
      (next (some (s.world.owned.length, id))).script.run
        { registry, world := (s.world.note (.registered id)).own id
          log := s.log ++ [.subscribed registry.listName] } := by
  unfold Conduct.callback at hs
  simp only [script, Script.run, Scene.subscribe, hs]
  rfl

/-- Who asks for something at this moment is refused just if the registry is closed, and then
nothing has changed about the registry and the owners. -/
def FailsCleanly {β : Type} (request : (Option β → Routine τ α) → Routine τ α)
    (s : Scene (Custody τ) α) : Prop :=
  ∃ answer after, (∀ next, (request next).script.run s = (next answer).script.run after) ∧
    (answer = none ↔ s.registry.isClosed = true) ∧
    (answer = none → after.registry = s.registry ∧ after.world.owned = s.world.owned)

theorem failsCleanly_subscribe (conduct : Conduct τ α) (s : Scene (Custody τ) α) :
    FailsCleanly (subscribe conduct) s := by
  rw [FailsCleanly, ← Registry.subscribe_eq_none_iff conduct.callback]
  cases hs : s.registry.subscribe conduct.callback with
  | none => exact ⟨none, _, fun next => run_subscribe_of_none next hs, by simp, fun _ => ⟨rfl, rfl⟩⟩
  | some given => exact ⟨some _, _, fun next => run_subscribe_of_some next hs, by simp, nofun⟩

theorem failsCleanly_attach (conduct : Conduct τ α) (s : Scene (Custody τ) α) :
    FailsCleanly (attach conduct) s := by
  rw [FailsCleanly, ← Registry.subscribe_eq_none_iff conduct.callback]
  cases hs : s.registry.subscribe conduct.callback with
  | none => exact ⟨none, _, fun next => run_attach_of_none next hs, by simp, fun _ => ⟨rfl, rfl⟩⟩
  | some given => exact ⟨some _, _, fun next => run_attach_of_some next hs, by simp, nofun⟩

theorem failsCleanly_startVerifier [BEq α] [Element α] (site : Site τ α) (config : Config)
    (contents : List α) (s : Scene (Custody τ) α) :
    FailsCleanly (startVerifier site config contents) s := by
  -- attaching comes last, after the collection was read
  obtain ⟨answer, after, hrun, hclosed, hclean⟩ := failsCleanly_attach (tracking site)
    { s with world := { s.world with rest := (site.read contents s.world.rest).2 } }
  cases answer with
  | none => exact ⟨none, after, fun next => hrun _, hclosed, hclean⟩
  | some given => exact ⟨some given, _, fun next => hrun _, hclosed, nofun⟩

end Routine

end ChangeAudit
