/-
# What a command does to verifiers

A workbench is orderly if its registries, its world and the handles that it has under names fit
together (`Bench.Orderly`).  A new workbench is, every command leaves it so, and none undoes what is
final about verifiers and their collections (`Bench.LeadsTo`, `Bench.leadsTo_run`).

What happens to registries, world and handles is settled by the lemmas on views; what is left is to
see which of them a command comes down to.  There is one lemma for each command, and they rest on
three ways in which a command can be harmless:

* it leaves the registries alone, and does nothing in the world that verifiers notice
  (`LeadsTo.of_passes`);
* it changes the registry of one list (`LeadsTo.of_setList`);
* it changes what the workbench has under other names (`LeadsTo.aside`).

Only starting, detaching and dropping a verifier touch the names of the verifiers.  They come last,
for there it has to be seen that no two names get hold of one verifier (`leadsTo_put`).  A command
made of several parts leads from one part to the next (`LeadsTo.trans`), and a command about a name
that leads nowhere does nothing, so the lookups are passed over once and for all
(`leadsTo_withNamed` and those after it).
-/
import ChangeAudit.Proofs.Workbench.Leftovers
import ChangeAudit.Workbench.Run

namespace ChangeAudit.Workbench

/-! ## 1. Names -/

namespace Names

variable {β : Type} {names : Names β} {name other : String}

theorem find?_cons (key : String) (b : β) :
    find? ((key, b) :: names) other = if other = key then some b else names.find? other := by
  by_cases h : other = key
  · simp [find?, h]
  · simp [find?, List.lookup_cons, h, beq_false_of_ne h]

/-- A name that is dropped leads nowhere; the others lead where they led. -/
@[simp]
theorem find?_drop :
    (names.drop name).find? other = if other = name then none else names.find? other := by
  induction names with
  | nil => simp [drop, find?]
  | cons entry rest ih =>
    obtain ⟨key, b⟩ := entry
    by_cases hkey : key = name
    · have hdrop : drop ((key, b) :: rest) name = drop rest name := by simp [drop, hkey]
      rw [hdrop, ih, find?_cons, hkey]
      split <;> rfl
    · have hdrop : drop ((key, b) :: rest) name = (key, b) :: drop rest name := by simp [drop, hkey]
      rw [hdrop, find?_cons, find?_cons, ih]
      by_cases hother : other = key
      · simp [hother, hkey]
      · simp [hother]

/-- A name that is taken leads to what took it. -/
@[simp]
theorem find?_put {b : β} :
    (names.put name b).find? other = if other = name then some b else names.find? other := by
  rw [put, find?_cons, find?_drop]
  split <;> rfl

end Names

variable {α : Type}

/-! ## 2. The view of a workbench -/

namespace Bench

/-- The registry of the list of a number; an empty one if there is none. -/
def registryOf (b : Bench α) (n : Nat) : Registry (Callback (World α) α) :=
  ((b.stands[n]?).map (·.list.registry)).getD { listName := "", source := n }

/-- What a workbench has to do with verifiers. -/
def view (b : Bench α) : View α where
  registries := b.registryOf
  world := b.world
  handles h := ∃ name, b.verifiers.find? name = some h

variable {b b' b'' : Bench α} {n : Nat} {stand : Stand α} {list : ObservableList (World α) α}

theorem registryOf_eq (hstand : b.stands[n]? = some stand) :
    b.registryOf n = stand.list.registry := by
  simp [registryOf, hstand]

/-- Putting a list in the place of another changes one registry. -/
theorem registryOf_setList (hstand : b.stands[n]? = some stand) :
    (b.setList n list).registryOf = Function.update b.registryOf n list.registry := by
  funext m
  by_cases hm : m = n
  · subst hm
    simp [registryOf, setList, hstand]
  · simp [registryOf, setList, hm, Ne.symm hm]

/-- A change to a list that leaves its registry. -/
theorem registryOf_modify {f : Stand α → Stand α} (hstands : b'.stands = b.stands.modify n f)
    (hf : ∀ stand, (f stand).list.registry = stand.list.registry) :
    b'.registryOf = b.registryOf := by
  funext m
  rw [registryOf, registryOf, hstands, List.getElem?_modify]
  cases b.stands[m]? with
  | none => rfl
  | some stand =>
    by_cases hm : n = m
    · simp [hm, hf]
    · simp [hm]

theorem view_eq {registries : Nat → Registry (Callback (World α) α)} {world : World α}
    (hregistries : b'.registryOf = registries) (hworld : b'.world = world)
    (hverifiers : b'.verifiers = b.verifiers) :
    b'.view = { b.view with registries, world } := by
  rw [view, hregistries, hworld, hverifiers]
  rfl

variable [BEq α] [Element α]

/-- Everything fits together, and no two names have the same verifier. -/
structure Orderly (b : Bench α) : Prop where
  sound : b.view.Sound
  /-- So whoever drops a name drops the verifier. -/
  named : ∀ name name' h h', b.verifiers.find? name = some h → b.verifiers.find? name' = some h' →
    h.number = h'.number → name = name'

/-- `b'` can have come of `b`. -/
structure LeadsTo (b b' : Bench α) : Prop where
  orderly : b'.Orderly
  proceeds : b.view.Proceeds b'.view

/-- What is done in two parts may be looked at part by part. -/
theorem LeadsTo.trans (hb : b.Orderly) (h : b.LeadsTo b') (h' : b'.LeadsTo b'') : b.LeadsTo b'' :=
  ⟨h'.orderly, h.proceeds.trans hb.sound h'.proceeds⟩

/-- The names of the verifiers are what they were. -/
theorem LeadsTo.of_verifiers (hb : b.Orderly) (hverifiers : b'.verifiers = b.verifiers)
    (hp : b.view.Proceeds b'.view) : b.LeadsTo b' :=
  ⟨⟨hp.sound, hverifiers ▸ hb.named⟩, hp⟩

/-- What happens is nothing to the verifiers. -/
theorem LeadsTo.of_passes (hb : b.Orderly) (hverifiers : b'.verifiers = b.verifiers)
    (hregistries : b'.registryOf = b.registryOf) (hworld : b.world.Passes b'.world) :
    b.LeadsTo b' := by
  refine .of_verifiers hb hverifiers ?_
  rw [view_eq hregistries rfl hverifiers]
  exact hb.sound.passes hworld

theorem LeadsTo.refl (hb : b.Orderly) : b.LeadsTo b := .of_passes hb rfl rfl (.refl _)

/-- What other names the workbench has makes no difference. -/
theorem LeadsTo.aside (h : b.LeadsTo b') (hb : b.Orderly)
    (hverifiers : b''.verifiers = b'.verifiers) (hregistries : b''.registryOf = b'.registryOf)
    (hworld : b''.world = b'.world) : b.LeadsTo b'' :=
  h.trans hb (.of_passes h.orderly hverifiers hregistries (hworld ▸ .refl _))

/-- The registry of a list changes, and nothing else. -/
theorem LeadsTo.of_setList (hb : b.Orderly) (hstand : b.stands[n]? = some stand)
    (hp : b.view.Proceeds
      { b.view with registries := Function.update b.view.registries n list.registry }) :
    b.LeadsTo (b.setList n list) := by
  refine .of_verifiers hb rfl ?_
  rw [view_eq (registryOf_setList hstand) rfl rfl]
  exact hp

/-! ## 3. Names that lead nowhere, and those that lead somewhere

A command says by names what it is about.  If one of them leads nowhere, the command only says so;
hence it is enough to know what is done with the things that are found, and where these come from.
-/

section With

variable {β : Type} {names : Names β} {name : String}

/-- A name that leads nowhere makes for a reply and nothing else. -/
theorem leadsTo_withNamed (hb : b.Orderly) {f : β → Effect α}
    (hf : ∀ x, names.find? name = some x → b.LeadsTo (f x).bench) :
    b.LeadsTo (b.withNamed names name f).bench := by
  rw [withNamed]
  split
  · exact .refl hb
  · exact hf _ ‹_›

/-- There is nothing to let go of under a name that leads nowhere. -/
theorem leadsTo_lettingGo (hb : b.Orderly) {f : β → Effect α}
    (hf : ∀ x, names.find? name = some x → b.LeadsTo (f x).bench) :
    b.LeadsTo (b.lettingGo names name f).bench := by
  rw [lettingGo]
  split
  · exact .refl hb
  · exact hf _ ‹_›

/-- A list that is found by its name, and still exists, is one that the workbench has. -/
theorem leadsTo_withList (hb : b.Orderly) {f : Nat → ObservableList (World α) α → Effect α}
    (hf : ∀ n stand, b.stands[n]? = some stand → b.LeadsTo (f n stand.list).bench) :
    b.LeadsTo (b.withList name f).bench := by
  refine leadsTo_withNamed hb fun n _ => ?_
  split
  · exact .refl hb
  · rename_i list hlist
    rw [liveList?] at hlist
    split at hlist
    · obtain ⟨stand, hstand, rfl⟩ := Option.map_eq_some_iff.mp hlist
      exact hf n stand hstand
    · cases hlist

/-- So is the list of a collection that still exists, whether or not anybody holds the list. -/
theorem leadsTo_withCollection (hb : b.Orderly) {f : Nat → ObservableList (World α) α → Effect α}
    (hf : ∀ n stand, b.stands[n]? = some stand → b.world.isAlive n = true →
      b.LeadsTo (f n stand.list).bench) :
    b.LeadsTo (b.withCollection name f).bench := by
  refine leadsTo_withNamed hb fun n _ => ?_
  split
  · exact .refl hb
  · split
    · exact hf _ _ ‹_› ‹_›
    · exact .refl hb

/-- A verifier is found together with its handle and the list that it observes. -/
theorem leadsTo_withVerifier (hb : b.Orderly)
    {f : VerifierHandle → Verifier α → ObservableList (World α) α → Effect α}
    (hf : ∀ h v stand, b.verifiers.find? name = some h → b.stands[h.collection]? = some stand →
      b.LeadsTo (f h v stand.list).bench) :
    b.LeadsTo (b.withVerifier name f).bench := by
  refine leadsTo_withNamed hb fun h hfind => ?_
  split
  · exact hf h _ _ hfind ‹_›
  · exact .refl hb

end With

/-! ## 4. Lists

None of these commands touches the name of a verifier.  A verifier may notice them all the same: its
callback is called, or is gone because the list was closed or somebody gave up its identifier.
-/

/-- What only watchers notice leaves the registry as it is. -/
theorem leadsTo_setList_same (hb : b.Orderly) (hstand : b.stands[n]? = some stand)
    (hregistry : list.registry = stand.list.registry) : b.LeadsTo (b.setList n list) := by
  refine .of_setList hb hstand ?_
  have hsame : Function.update b.view.registries n list.registry = b.view.registries := by
    rw [hregistry, ← registryOf_eq hstand]
    exact Function.update_eq_self n b.registryOf
  rw [hsame]
  exact hb.sound.refl

/-- Whoever is unsubscribed is never called again, and that is fine even for a verifier. -/
theorem leadsTo_unsubscribe (hb : b.Orderly) (hstand : b.stands[n]? = some stand)
    (id : SubscriptionId) : b.LeadsTo (b.setList n (stand.list.unsubscribe b.world id).1) := by
  refine .of_setList hb hstand ?_
  have hp := hb.sound.unsubscribed n id
  rw [show b.view.registries n = stand.list.registry from registryOf_eq hstand] at hp
  exact hp

/-- A list that is closed has lost all its callbacks, those of verifiers among them. -/
theorem leadsTo_close (hb : b.Orderly) (hstand : b.stands[n]? = some stand) :
    b.LeadsTo (b.setList n (stand.list.close b.world).1) := by
  refine .of_setList hb hstand ?_
  have hp := hb.sound.closed n
  rw [show b.view.registries n = stand.list.registry from registryOf_eq hstand] at hp
  exact hp

/-- **An action may call every callback of the list**, and any of them may do what it likes to the
registry and to the verifiers.  What they come to is the delivery of the change, where there is one;
else the list is silent, and nothing happens. -/
theorem leadsTo_act (hb : b.Orderly) (n : Nat) (a : Action α) : b.LeadsTo (b.act n a).bench := by
  rw [act]
  split
  · exact .refl hb
  · rename_i stand hstand
    refine .of_verifiers hb rfl ?_
    have hregistry : b.view.registries n = stand.list.registry := registryOf_eq hstand
    -- enough to know the scene that the callbacks leave: it has all that the view has to know
    suffices hscene : ∃ s : Scene (World α) α,
        (stand.list.perform b.world a).list.registry = s.registry ∧
          (stand.list.perform b.world a).world = s.world ∧ b.view.Proceeds (b.view.withScene n s) by
      obtain ⟨s, hs, hworld, hp⟩ := hscene
      have hset : (({ b with world := (stand.list.perform b.world a).world } : Bench α).setList n
          (stand.list.perform b.world a).list).registryOf =
            Function.update b.registryOf n s.registry := hs ▸ registryOf_setList hstand
      rw [view_eq hset hworld rfl]
      exact hp
    cases hr : (stand.list.journal.step a).reported with
    | none =>
      have hsilent := ObservableList.silent_of_quiet b.world hr
      have hshows : b.view.Shows n (stand.list.scene b.world) := ⟨hregistry, rfl⟩
      refine ⟨stand.list.scene b.world, hsilent.registry, hsilent.world, ?_⟩
      rw [hshows.withScene_eq]
      exact hb.sound.refl
    | some c =>
      have hdone := ObservableList.concluded_of_reported b.world hr
      refine ⟨_, hdone.registry, hdone.world, ?_⟩
      exact hb.sound.callAll ⟨hregistry, rfl⟩ c _ (hregistry ▸ hb.sound.welcome n)

section Release

variable {reached : Option (ObservableList (World α) α)} {s : Subscription}

omit [BEq α] [Element α] in
theorem releaseOn_aside (b : Bench α) (n : Nat)
    (reached : Option (ObservableList (World α) α)) (s : Subscription) :
    (b.releaseOn n reached s).1.world = b.world ∧
      (b.releaseOn n reached s).1.verifiers = b.verifiers := by
  rw [releaseOn]
  cases (s.release reached b.world).list <;> exact ⟨rfl, rfl⟩

omit [BEq α] [Element α] in
/-- A release reaches the registry if there is something to release and somebody to reach. -/
theorem registryOf_releaseOn
    (hreached : ∀ list, reached = some list → (b.stands[n]?).map (·.list) = some list) :
    (b.releaseOn n reached s).1.registryOf =
      if s.active && reached.isSome then
        Function.update b.registryOf n ((b.registryOf n).unsubscribe s.id).1
      else b.registryOf := by
  cases reached with
  | none => cases hactive : s.active <;> simp [releaseOn, Subscription.release, hactive]
  | some list =>
    obtain ⟨stand, hstand, rfl⟩ := Option.map_eq_some_iff.mp (hreached list rfl)
    cases hactive : s.active with
    | true =>
      simp only [releaseOn, Subscription.release, hactive, if_true, Option.map_some,
        Option.getD_some, Option.isSome_some, Bool.and_self, registryOf_setList hstand,
        registryOf_eq hstand]
      rfl
    | false =>
      simp only [releaseOn, Subscription.release, hactive, Bool.false_eq_true, if_false,
        Option.map_some, Option.getD_some, Bool.false_and, registryOf_setList hstand,
        ← registryOf_eq hstand, Function.update_eq_self]

/-- A release gives up one identifier at most, of a list that is where it is looked for. -/
theorem leadsTo_releaseOn (hb : b.Orderly)
    (hreached : ∀ list, reached = some list → (b.stands[n]?).map (·.list) = some list) :
    b.LeadsTo (b.releaseOn n reached s).1 := by
  obtain ⟨hworld, hverifiers⟩ := b.releaseOn_aside n reached s
  refine .of_verifiers hb hverifiers ?_
  rw [view_eq (registryOf_releaseOn hreached) hworld hverifiers]
  split
  · exact hb.sound.unsubscribed n s.id
  · exact hb.sound.refl

/-- The owner of a subscription releases it, and stays under its name. -/
theorem leadsTo_release (hb : b.Orderly) (name : String) : b.LeadsTo (b.release name).bench := by
  refine leadsTo_withNamed hb fun o _ => ?_
  have hreleased : b.LeadsTo (b.releaseOn o.list (b.liveList? o.list) o.subscription).1 := by
    refine leadsTo_releaseOn hb fun list hlist => ?_
    rw [liveList?] at hlist
    split at hlist
    · exact hlist
    · cases hlist
  exact hreleased.aside hb rfl rfl rfl

theorem leadsTo_dropSubscription (hb : b.Orderly) (name : String) :
    b.LeadsTo (b.dropSubscription name).bench := by
  refine leadsTo_lettingGo hb fun o _ => ?_
  have hreleased := leadsTo_release hb name
  exact hreleased.aside hb rfl rfl rfl

end Release

omit [BEq α] [Element α] in
/-- How it goes to register a callback with a list. -/
theorem subscribe_cases (l : ObservableList (World α) α) (world : World α)
    (callback : Callback (World α) α) :
    l.subscribe world callback = (l, [], .error (.closed l.name)) ∨
      ∃ r' id, l.registry.subscribe callback = some (r', id) ∧
        l.subscribe world callback =
          ({ l with registry := r' }, [.subscribed r'.listName], .ok id) := by
  cases hs : l.registry.subscribe callback with
  | none =>
    refine Or.inl ?_
    simp only [ObservableList.subscribe, ObservableList.scene, Scene.subscribe, hs]
    rfl
  | some given =>
    refine Or.inr ⟨given.1, given.2, rfl, ?_⟩
    simp only [ObservableList.subscribe, ObservableList.scene, Scene.subscribe, hs]
    rfl

/-- A list that is closed refuses; any other registers a plain callback.  If the subscription is to
have an owner, the owner that had the name is dropped. -/
theorem leadsTo_subscribe (hb : b.Orderly) (hstand : b.stands[n]? = some stand) (name : String)
    (reaction : Reaction) (owned : Bool) :
    b.LeadsTo (b.subscribe n stand.list name reaction owned).bench := by
  have hregistry : b.view.registries n = stand.list.registry := registryOf_eq hstand
  rcases subscribe_cases stand.list b.world (plainCallback name reaction) with
    heq | ⟨r', id, hs, heq⟩
  · simp only [subscribe, heq]
    exact leadsTo_setList_same hb hstand rfl
  · have hset : b.LeadsTo (b.setList n { stand.list with registry := r' }) :=
      .of_setList hb hstand (hb.sound.subscribed (hregistry ▸ hs))
    simp only [subscribe, heq]
    have hnamed : b.LeadsTo { b.setList n { stand.list with registry := r' } with
        subscribers := b.subscribers.put name id } := hset.aside hb rfl rfl rfl
    split
    · exact (hnamed.trans hb (leadsTo_dropSubscription hnamed.orderly name)).aside hb rfl rfl rfl
    · exact hnamed

/-- A collection that is let go may be gone then, which verifiers can bear. -/
theorem leadsTo_dropList (hb : b.Orderly) (n : Nat) (keep : Bool) :
    b.LeadsTo (b.dropList n keep).bench := by
  have hregistries : (b.dropList n keep).bench.registryOf = b.registryOf :=
    registryOf_modify rfl fun _ => rfl
  exact .of_passes hb rfl hregistries (b.world.passes_modifyCollection n _ nofun)

/-- A list is made where there was none. -/
theorem leadsTo_addStand (hb : b.Orderly) (name : String) (items : List α) :
    b.LeadsTo { b with
      stands := b.stands ++ [{ list := .ofItems name b.stands.length items }]
      world := { b.world with collections := b.world.collections ++ [{}] } } := by
  refine .of_verifiers hb rfl ?_
  have hregistries : Bench.registryOf { b with
      stands := b.stands ++ [{ list := .ofItems name b.stands.length items }]
      world := { b.world with collections := b.world.collections ++ [{}] } } =
        Function.update b.registryOf b.stands.length
          { listName := name, source := b.stands.length } := by
    funext m
    rcases Nat.lt_trichotomy m b.stands.length with hlt | rfl | hgt
    · rw [Function.update_of_ne (Nat.ne_of_lt hlt), registryOf, List.getElem?_append_left hlt,
        registryOf]
    · simp [registryOf, ObservableList.ofItems]
    · have hnone : b.stands.length + 1 ≤ m := hgt
      rw [Function.update_of_ne (Nat.ne_of_gt hgt), registryOf, registryOf,
        List.getElem?_eq_none (by simpa using hnone), List.getElem?_eq_none (Nat.le_of_lt hgt)]
  -- first the collection comes, which is nothing to the verifiers, and then its empty registry
  rw [view_eq hregistries rfl rfl]
  have hworld := hb.sound.passes (World.passes_create b.world)
  refine hworld.trans hb.sound (hworld.sound.reorganised ?_ (Registry.valid_new name _) nofun)
  have hnone : b.registryOf b.stands.length = { listName := "", source := b.stands.length } := by
    simp [registryOf]
  change (b.registryOf b.stands.length).TurnsInto _
  rw [hnone]
  exact ⟨Nat.le_refl _, rfl, nofun⟩

/-- A new list takes a name from the one that had it. -/
theorem leadsTo_create (hb : b.Orderly) (list name : String) (items : List α) :
    b.LeadsTo (b.create list name items).bench := by
  have hformer : b.LeadsTo (b.lettingGo b.lists list fun n => b.dropList n false).bench :=
    leadsTo_lettingGo hb fun n _ => leadsTo_dropList hb n false
  exact (hformer.trans hb (leadsTo_addStand hformer.orderly name items)).aside hb rfl rfl rfl

theorem leadsTo_finishBatch (hb : b.Orderly) (batch : String) (a : Action α) :
    b.LeadsTo (b.finishBatch batch a).bench := by
  refine leadsTo_lettingGo hb fun n _ => ?_
  have hdropped : b.LeadsTo { b with batches := b.batches.drop batch } :=
    (LeadsTo.refl hb).aside hb rfl rfl rfl
  exact hdropped.trans hb (leadsTo_act hdropped.orderly n a)

/-- A new batch takes a name, and the batch that had it is ended. -/
theorem leadsTo_openBatch (hb : b.Orderly) (n : Nat) (batch : String) :
    b.LeadsTo (b.openBatch n batch).bench := by
  have hopened := leadsTo_act hb n .openBatch
  have hformer := hopened.trans hb (leadsTo_finishBatch hopened.orderly batch .endBatch)
  exact hformer.aside hb rfl rfl rfl

theorem leadsTo_abandonAll (hb : b.Orderly) (batches : List String) :
    b.LeadsTo (b.abandonAll batches).bench := by
  induction batches generalizing b with
  | nil => exact .refl hb
  | cons batch rest ih =>
    have hfirst := leadsTo_finishBatch hb batch .abandonBatch
    exact hfirst.trans hb (ih hfirst.orderly)

theorem leadsTo_withFeed (hb : b.Orderly) {name : String}
    {f : Watcher → ObservableList (World α) α → Feed α → Bool → Effect α}
    (hf : ∀ w stand feed live, b.stands[w.list]? = some stand →
      b.LeadsTo (f w stand.list feed live).bench) :
    b.LeadsTo (b.withFeed name f).bench := by
  refine leadsTo_withNamed hb fun w _ => ?_
  split
  · exact .refl hb
  · split
    · exact .refl hb
    · exact hf w _ _ _ ‹_›

theorem leadsTo_receive (hb : b.Orderly) (name : String) {f : Bench α → Received α → Effect α}
    (hf : ∀ b' r, b.LeadsTo b' → b.LeadsTo (f b' r).bench) :
    b.LeadsTo (b.receive name f).bench :=
  leadsTo_withFeed hb fun _ _ _ _ hstand => hf _ _ (leadsTo_setList_same hb hstand rfl)

/-- Watchers come and go without anybody else noticing. -/
theorem leadsTo_unwatch (hb : b.Orderly) (name : String) : b.LeadsTo (b.unwatch name).bench :=
  leadsTo_lettingGo hb fun _ _ =>
    .of_passes hb rfl (registryOf_modify rfl fun _ => rfl) (.refl _)

theorem leadsTo_watch (hb : b.Orderly) (hstand : b.stands[n]? = some stand) (name : String) :
    b.LeadsTo (b.watch n stand.list name).bench := by
  have hset : b.LeadsTo (b.setList n stand.list.watch.1) := leadsTo_setList_same hb hstand rfl
  exact (hset.trans hb (leadsTo_unwatch hset.orderly name)).aside hb rfl rfl rfl

/-! ## 5. Verifiers

Names of verifiers are taken and given up here.  Handles are told apart by the numbers of their
verifiers, and a name is followed to its handle; so each step has to say which handles the other
names lead to, before and after (`Orderly.others_iff`, `leadsTo_put`).
-/

section Verifiers

variable {name : String} {h h' : VerifierHandle}

omit [BEq α] [Element α] in
/-- What is left when a name is dropped is what the other names lead to. -/
theorem handles_drop :
    (∃ other, (b.verifiers.drop name).find? other = some h') ↔
      ∃ other, other ≠ name ∧ b.verifiers.find? other = some h' := by
  simp

omit [BEq α] [Element α] in
theorem handles_put {verifiers : Names VerifierHandle} :
    (∃ other, (verifiers.put name h).find? other = some h') ↔
      (∃ other, other ≠ name ∧ verifiers.find? other = some h') ∨ h' = h := by
  constructor
  · rintro ⟨other, hother⟩
    rw [Names.find?_put] at hother
    split at hother
    · exact Or.inr (Option.some.inj hother).symm
    · exact Or.inl ⟨other, ‹_›, hother⟩
  · rintro (⟨other, hne, hother⟩ | rfl)
    · exact ⟨other, by simp [hne, hother]⟩
    · exact ⟨name, by simp⟩

/-- The handles under other names are the others. -/
theorem Orderly.others_iff (hb : b.Orderly) (hfind : b.verifiers.find? name = some h) :
    (∃ other, other ≠ name ∧ b.verifiers.find? other = some h') ↔
      b.view.handles h' ∧ h' ≠ h := by
  constructor
  · rintro ⟨other, hne, hother⟩
    refine ⟨⟨other, hother⟩, ?_⟩
    rintro rfl
    exact hne (hb.named other name h' h' hother hfind rfl)
  · rintro ⟨⟨other, hother⟩, hne⟩
    refine ⟨other, ?_, hother⟩
    rintro rfl
    exact hne (Option.some.inj (hother.symm.trans hfind))

omit [BEq α] [Element α] in
/-- If the name leads nowhere, all the others are all there are. -/
theorem others_iff_of_none (hfind : b.verifiers.find? name = none) :
    (∃ other, other ≠ name ∧ b.verifiers.find? other = some h') ↔ b.view.handles h' := by
  constructor
  · rintro ⟨other, -, hother⟩
    exact ⟨other, hother⟩
  · rintro ⟨other, hother⟩
    refine ⟨other, ?_, hother⟩
    rintro rfl
    cases hfind.symm.trans hother

/-- A handle takes a name, and shares its verifier with no other name. -/
theorem leadsTo_put (hb : b.Orderly) {registries : Nat → Registry (Callback (World α) α)}
    {world : World α} {handles : VerifierHandle → Prop}
    (hp : b.view.Proceeds { registries, world, handles })
    (hregistries : b'.registryOf = registries) (hworld : b'.world = world)
    (hhandles : ∀ h', handles h' ↔
      (∃ other, other ≠ name ∧ b.verifiers.find? other = some h') ∨ h' = h)
    (hothers : ∀ other, other ≠ name → b'.verifiers.find? other = b.verifiers.find? other)
    (hnumber : ∀ other h', other ≠ name → b.verifiers.find? other = some h' →
      h'.number ≠ h.number) :
    b.LeadsTo { b' with verifiers := b'.verifiers.put name h } := by
  have hview : Bench.view { b' with verifiers := b'.verifiers.put name h } =
      { registries, world, handles } := by
    subst hregistries hworld
    refine congrArg (View.mk _ _) (funext fun h' => propext ?_)
    rw [handles_put, hhandles]
    refine or_congr_left (exists_congr fun other => and_congr_right fun hother => ?_)
    rw [hothers other hother]
  rw [← hview] at hp
  refine ⟨⟨hp.sound, ?_⟩, hp⟩
  -- two names with one verifier: neither is the new name, or both are
  intro name₁ name₂ h₁ h₂ hfind₁ hfind₂ heq
  rw [Names.find?_put] at hfind₁ hfind₂
  split at hfind₁ <;> rename_i hname₁
  · split at hfind₂ <;> rename_i hname₂
    · exact hname₁.trans hname₂.symm
    · cases hfind₁
      exact absurd heq.symm (hnumber name₂ h₂ hname₂ (hothers name₂ hname₂ ▸ hfind₂))
  · split at hfind₂ <;> rename_i hname₂
    · cases hfind₂
      exact absurd heq (hnumber name₁ h₁ hname₁ (hothers name₁ hname₁ ▸ hfind₁))
    · rw [hothers name₁ hname₁] at hfind₁
      rw [hothers name₂ hname₂] at hfind₂
      exact hb.named name₁ name₂ h₁ h₂ hfind₁ hfind₂ heq

omit [BEq α] [Element α] in
/-- What is left when a verifier is dropped: its callback goes unless its collection has gone. -/
theorem dropVerifier_eq (hfind : b.verifiers.find? name = some h)
    (hreleased : h.subscription.active = false →
      h.subscription.id ∉ (b.registryOf h.collection).ids) :
    ∃ r', (r' = ((b.registryOf h.collection).unsubscribe h.subscription.id).1 ∨
        r' = b.registryOf h.collection ∧ (b.world.without h.number).isAlive h.collection = false) ∧
      (b.dropVerifier name).bench.registryOf = Function.update b.registryOf h.collection r' ∧
      (b.dropVerifier name).bench.world = b.world.without h.number ∧
      (b.dropVerifier name).bench.verifiers = b.verifiers.drop name := by
  let left : Bench α :=
    { b with world := b.world.without h.number, verifiers := b.verifiers.drop name }
  let reached := if (b.world.without h.number).isAlive h.collection then
    (b.stands[h.collection]?).map (·.list) else none
  have hbench : (b.dropVerifier name).bench =
      (left.releaseOn h.collection reached h.subscription).1 := by
    rw [dropVerifier, lettingGo, hfind]
    rfl
  obtain ⟨hworld, hverifiers⟩ := left.releaseOn_aside h.collection reached h.subscription
  have hregistries : (left.releaseOn h.collection reached h.subscription).1.registryOf = _ :=
    registryOf_releaseOn fun list hlist => by
      simp only [reached] at hlist
      split at hlist
      · exact hlist
      · cases hlist
  rw [hbench, hworld, hverifiers, hregistries]
  split
  · exact ⟨_, Or.inl rfl, rfl, rfl, rfl⟩
  · rename_i hnot
    refine ⟨b.registryOf h.collection, ?_, (Function.update_eq_self _ _).symm, rfl, rfl⟩
    by_cases halive : (b.world.without h.number).isAlive h.collection = true
    · -- there was nothing to release, or no list to release it on
      refine Or.inl (congrArg Prod.fst (Registry.unsubscribe_of_not_mem ?_)).symm
      rcases Option.eq_none_or_eq_some b.stands[h.collection]? with hstand | ⟨stand, hstand⟩
      · simp [hstand, Registry.ids]
      · refine hreleased ?_
        simpa [reached, halive, hstand] using hnot
    · exact Or.inr ⟨rfl, by simpa using halive⟩

/-- **A verifier is dropped**, and its handle is the only one to go. -/
theorem leadsTo_dropVerifier (hb : b.Orderly) (name : String) :
    b.LeadsTo (b.dropVerifier name).bench := by
  cases hfind : b.verifiers.find? name with
  | none =>
    rw [dropVerifier, lettingGo, hfind]
    exact .refl hb
  | some h =>
    have hh : b.view.handles h := ⟨name, hfind⟩
    obtain ⟨r', hr', hregistries, hworld, hverifiers⟩ :=
      dropVerifier_eq hfind (hb.sound.attached h hh).released
    have hview : (b.dropVerifier name).bench.view =
        { registries := Function.update b.view.registries h.collection r'
          world := b.view.world.without h.number
          handles := fun h' => b.view.handles h' ∧ h' ≠ h } := by
      rw [view, hregistries, hworld, hverifiers]
      refine congrArg (View.mk _ _) (funext fun h' => propext ?_)
      rw [handles_drop, hb.others_iff hfind]
    have hp := hview ▸ hb.sound.dropped hh hr'
    refine ⟨⟨hp.sound, ?_⟩, hp⟩
    rw [hverifiers]
    intro name₁ name₂ h₁ h₂ hfind₁ hfind₂
    simp only [Names.find?_drop, Option.ite_none_left_eq_some] at hfind₁ hfind₂
    exact hb.named name₁ name₂ h₁ h₂ hfind₁.2 hfind₂.2

omit [BEq α] [Element α] in
/-- What is released is no longer active, whether or not there was anybody to release it to. -/
theorem subscription_releaseOn (b : Bench α) (n : Nat)
    (reached : Option (ObservableList (World α) α)) (s : Subscription) :
    (b.releaseOn n reached s).2.1 = { s with active := false } := by
  rw [← s.subscription_release reached b.world, releaseOn]

/-- **A verifier is detached**: it gives up its subscription and stays under its name. -/
theorem leadsTo_detach (hb : b.Orderly) (name : String) : b.LeadsTo (b.detach name).bench := by
  refine leadsTo_withVerifier hb fun h _ stand hfind hstand => ?_
  have hh : b.view.handles h := ⟨name, hfind⟩
  have hregistries : (b.releaseOn h.collection (some stand.list) h.subscription).1.registryOf =
      Function.update b.registryOf h.collection
        ((b.registryOf h.collection).unsubscribe h.subscription.id).1 := by
    rw [registryOf_releaseOn (by simp [hstand])]
    cases hactive : h.subscription.active with
    | true => rfl
    | false =>
      -- released before, so there is nothing left that could be unsubscribed
      have hgone : h.subscription.id ∉ (b.registryOf h.collection).ids :=
        (hb.sound.attached h hh).released hactive
      rw [Registry.unsubscribe_of_not_mem hgone, Function.update_eq_self]
      rfl
  obtain ⟨hworld, hverifiers⟩ := b.releaseOn_aside h.collection (some stand.list) h.subscription
  change b.LeadsTo
    { (b.releaseOn h.collection (some stand.list) h.subscription).1 with
      verifiers := (b.releaseOn h.collection (some stand.list) h.subscription).1.verifiers.put name
        { h with
          subscription := (b.releaseOn h.collection (some stand.list) h.subscription).2.1 } }
  rw [subscription_releaseOn]
  refine leadsTo_put hb (hb.sound.detached hh) hregistries hworld ?_
    (fun _ _ => hverifiers ▸ rfl) ?_
  · exact fun h' => or_congr_left (hb.others_iff hfind).symm
  · exact fun other h' hne hother heq => hne (hb.named other name h' h hother hfind heq)

/-- A collection that is alive is one of the world's. -/
theorem lt_of_isAlive (hb : b.Orderly) (halive : b.world.isAlive n = true) :
    n < b.world.collections.length := by
  rcases World.isAlive_iff.mp halive with ⟨c, hc, -⟩ | ⟨o, ho, -, rfl⟩
  · exact (List.getElem?_eq_some_iff.mp hc).1
  · exact hb.sound.homes o ho

/-- A new verifier takes a name, and the one that had it goes. -/
theorem leadsTo_started (hb : b.Orderly) (name : String) (x : Verifier α)
    {r' : Registry (Callback (World α) α)} {id : SubscriptionId}
    (hstand : b.stands[n]? = some stand) (halive : b.world.isAlive n = true)
    (hs : stand.list.registry.subscribe
      (Verifier.callback (World.site b.world.verifiers.length n)) = some (r', id)) :
    let joined : Bench α := { b.setList n { stand.list with registry := r' } with
      world := { b.world with
        verifiers := b.world.verifiers ++ [{ verifier := x, collection := n }] } }
    b.LeadsTo { (joined.dropVerifier name).bench with
      verifiers := (joined.dropVerifier name).bench.verifiers.put name
        { number := b.world.verifiers.length, collection := n, subscription := { id } } } := by
  intro joined
  let new : VerifierHandle :=
    { number := b.world.verifiers.length, collection := n, subscription := { id } }
  have hregistry : b.view.registries n = stand.list.registry := registryOf_eq hstand
  have hjoined := hb.sound.started x (lt_of_isAlive hb halive) halive (hregistry ▸ hs)
  have hregistries : joined.registryOf = Function.update b.registryOf n r' :=
    registryOf_setList hstand
  have hnumber : ∀ other h', other ≠ name → b.verifiers.find? other = some h' →
      h'.number ≠ new.number := fun other h' _ hother =>
    Nat.ne_of_lt (hb.sound.number_lt ⟨other, hother⟩)
  -- the new verifier joins first; then the one that had the name goes, if there was one
  cases hfind : b.verifiers.find? name with
  | none =>
    have hdropped : joined.dropVerifier name = { bench := joined } := by
      rw [dropVerifier, lettingGo, show joined.verifiers.find? name = none from hfind]
    rw [hdropped]
    refine leadsTo_put hb hjoined hregistries rfl (fun h' => ?_) (fun _ _ => rfl) hnumber
    exact or_congr_left (others_iff_of_none hfind).symm
  | some h =>
    have hh : b.view.handles h := ⟨name, hfind⟩
    have hreleased := (hjoined.sound.attached h (Or.inl hh)).released
    obtain ⟨r'', hr'', hregistries', hworld, hverifiers⟩ :=
      dropVerifier_eq (b := joined) hfind (by rw [hregistries]; exact hreleased)
    rw [hregistries] at hr'' hregistries'
    have hdropped := hjoined.trans hb.sound (hjoined.sound.dropped (Or.inl hh) hr'')
    have hne : new ≠ h := fun heq =>
      Nat.ne_of_gt (hb.sound.number_lt hh) (congrArg VerifierHandle.number heq)
    refine leadsTo_put hb hdropped hregistries' hworld (fun h' => ?_) (fun other hother => ?_)
      hnumber
    · rw [or_and_right, hb.others_iff hfind]
      refine or_congr_right (and_iff_left_of_imp ?_)
      rintro rfl
      exact hne
    · rw [hverifiers, Names.find?_drop, if_neg hother]
      rfl

/-- **A verifier is started**, unless its collection refuses or its list is closed: then nothing has
happened but that the contents were read. -/
theorem leadsTo_attachVerifier (hb : b.Orderly) (name : String) (hstand : b.stands[n]? = some stand)
    (halive : b.world.isAlive n = true) (config : Config) :
    b.LeadsTo (b.attachVerifier name n stand.list config).bench := by
  have hread : b.LeadsTo { b with world := (b.world.read n stand.list.items).2 } :=
    .of_passes hb rfl rfl (b.world.passes_read n stand.list.items)
  have halive' : (b.world.read n stand.list.items).2.isAlive n = true :=
    (b.world.isAlive_read n stand.list.items n).trans halive
  simp only [attachVerifier]
  split
  · exact hread
  · rcases subscribe_cases stand.list (b.world.read n stand.list.items).2
      (Verifier.callback (World.site (b.world.read n stand.list.items).2.verifiers.length n)) with
      heq | ⟨r', id, hs, heq⟩
    · rw [heq]
      exact hread.trans hb (leadsTo_setList_same hread.orderly hstand rfl)
    · rw [heq]
      exact hread.trans hb
        (leadsTo_started hread.orderly name (.ofSnapshot config (b.world.read n stand.list.items).1)
          hstand halive' hs)

/-- Settings that are wrong and collections that are gone are found before anything is done. -/
theorem leadsTo_startVerifier (hb : b.Orderly) (name list : String) (settings : Option String)
    (mayBeGone : Bool) : b.LeadsTo (b.startVerifier name list settings mayBeGone).bench := by
  rw [startVerifier]
  split
  · exact .refl hb
  · refine leadsTo_withNamed hb fun n _ => ?_
    split
    · exact .refl hb
    · exact leadsTo_withCollection hb fun n stand hstand halive =>
        leadsTo_attachVerifier hb name hstand halive _

theorem leadsTo_read (hb : b.Orderly) (n : Nat) (contents : List α) :
    b.LeadsTo { b with world := (b.world.read n contents).2 } :=
  .of_passes hb rfl rfl (b.world.passes_read n contents)

/-- The state of a verifier that has a name changes. -/
theorem leadsTo_store (hb : b.Orderly) (hfind : b.verifiers.find? name = some h)
    (v : Verifier α) : b.LeadsTo { b with world := b.world.storeVerifier h.number v } :=
  .of_verifiers hb rfl (hb.sound.stored ⟨name, hfind⟩ v)

/-- A change is replayed by hand: the live contents may be read first, then the state changes. -/
theorem leadsTo_replay (hb : b.Orderly) (name : String) (c : Change α) :
    b.LeadsTo (b.replay name c).bench := by
  refine leadsTo_withVerifier hb fun h v stand hfind _ => ?_
  have hread : b.LeadsTo { b with world :=
      ((World.site h.number h.collection).readFor v stand.list.items b.world).2 } :=
    .of_passes hb rfl rfl (View.passes_readFor b.world h.number h.collection v stand.list.items)
  exact hread.trans hb (leadsTo_store hread.orderly hfind _)

end Verifiers

/-! ## 6. Commands -/

theorem leadsTo_applyTo (hb : b.Orderly) (name : String) (c : Change α) :
    b.LeadsTo (b.applyTo name c).bench :=
  leadsTo_withNamed hb fun _ _ => (LeadsTo.refl hb).aside hb rfl rfl rfl

/-- **Every command leaves the workbench orderly**, and undoes nothing that is final about
verifiers. -/
theorem leadsTo_perform (hb : b.Orderly) (command : Command α) :
    b.LeadsTo (b.perform command).bench := by
  cases command with
  | create list name items => exact leadsTo_create hb list name items
  | dropList list keep => exact leadsTo_withNamed hb fun n _ => leadsTo_dropList hb n keep
  | mutate list m => exact leadsTo_withList hb fun n _ _ => leadsTo_act hb n (.mutate m)
  | snapshot list | size list | isEmpty list | name list | isClosed list | subscriberCount list =>
    exact leadsTo_withList hb fun _ _ _ => .refl hb
  | close list => exact leadsTo_withList hb fun _ _ hstand => leadsTo_close hb hstand
  | openBatch list batch => exact leadsTo_withList hb fun n _ _ => leadsTo_openBatch hb n batch
  | endBatch batch shown => exact leadsTo_finishBatch hb batch .endBatch
  | panicInside batches shown => exact leadsTo_abandonAll hb batches
  | subscribe list name reaction owned =>
    exact leadsTo_withList hb fun _ _ hstand => leadsTo_subscribe hb hstand name reaction owned
  | unsubscribe list name =>
    exact leadsTo_withList hb fun _ _ hstand =>
      leadsTo_withNamed hb fun id _ => leadsTo_unsubscribe hb hstand id
  | release name => exact leadsTo_release hb name
  | isActive name | showSubscription name laidOut | inspectShadow name =>
    exact leadsTo_withNamed hb fun _ _ => .refl hb
  | dropSubscription name => exact leadsTo_dropSubscription hb name
  | watch list watcher =>
    exact leadsTo_withList hb fun _ _ hstand => leadsTo_watch hb hstand watcher
  | receive watcher => exact leadsTo_receive hb watcher fun _ _ h => h
  | drain watcher =>
    exact leadsTo_withFeed hb fun _ _ _ _ hstand => leadsTo_setList_same hb hstand rfl
  | unwatch watcher => exact leadsTo_unwatch hb watcher
  | stage list items | refuse list text =>
    exact leadsTo_withCollection hb fun n _ _ _ =>
      .of_passes hb rfl rfl (b.world.passes_modifyCollection n _ fun _ => id)
  | collectionSize list | collectionIsEmpty list =>
    exact leadsTo_withCollection hb fun n stand _ _ => leadsTo_read hb n stand.list.items
  | reads list => exact leadsTo_withCollection hb fun _ _ _ _ => .refl hb
  | startVerifier name list settings mayBeGone =>
    exact leadsTo_startVerifier hb name list settings mayBeGone
  | verify name =>
    exact leadsTo_withVerifier hb fun h _ stand _ _ => leadsTo_read hb h.collection stand.list.items
  | replay name c => exact leadsTo_replay hb name c
  | assertConsistent name =>
    refine leadsTo_withVerifier hb fun h v stand _ _ => ?_
    have hread := leadsTo_read hb h.collection stand.list.items
    simp only [Bench.verify]
    split <;> exact hread
  | shadowOf name | stats name | violations name | settings name | isAttached name
  | observedItems name | showVerifier name laidOut =>
    exact leadsTo_withVerifier hb fun _ _ _ _ _ => .refl hb
  | takeViolations name =>
    exact leadsTo_withVerifier hb fun _ _ _ hfind _ => leadsTo_store hb hfind _
  | detach name => exact leadsTo_detach hb name
  | haveSameId name other =>
    exact leadsTo_withNamed hb fun _ _ => leadsTo_withNamed hb fun _ _ => .refl hb
  | dropVerifier name => exact leadsTo_dropVerifier hb name
  | makeShadow shadow items => exact (LeadsTo.refl hb).aside hb rfl rfl rfl
  | applyChange shadow c => exact leadsTo_applyTo hb shadow c
  | applyNext shadow watcher =>
    refine leadsTo_receive hb watcher fun b' r h => ?_
    cases r with
    | change c => exact h.trans hb (leadsTo_applyTo h.orderly shadow c)
    | empty | lagged missed | closed => exact h
  | equalShadows shadow other =>
    exact leadsTo_withNamed hb fun _ _ => leadsTo_withNamed hb fun _ _ => .refl hb

/-! ## 7. Runs -/

theorem leadsTo_run (hb : b.Orderly) (command : Command α) : b.LeadsTo (b.run command).1 := by
  have hquiet : b.LeadsTo { b with world := { b.world with deliveries := [] } } :=
    .of_passes hb rfl rfl (World.passes_of_eq rfl rfl)
  exact hquiet.trans hb (leadsTo_perform hquiet.orderly command)

theorem orderly_new : ({} : Bench α).Orderly where
  sound :=
    { valid := fun n => Registry.valid_new "" n
      source := fun _ => rfl
      homes := nofun
      attached := nofun
      apart := nofun
      welcome := nofun }
  named := nofun

/-- The workbench after several commands. -/
def afterAll (b : Bench α) (commands : List (Command α)) : Bench α :=
  commands.foldl (fun b command => (b.run command).1) b

/-- **Whatever is done to an orderly workbench, it stays orderly**, and a verifier that was dropped
stays dropped. -/
theorem leadsTo_afterAll (hb : b.Orderly) (commands : List (Command α)) :
    b.LeadsTo (b.afterAll commands) := by
  induction commands generalizing b with
  | nil => exact .refl hb
  | cons command rest ih =>
    have hfirst := leadsTo_run hb command
    exact hfirst.trans hb (ih hfirst.orderly)

theorem orderly_afterAll (commands : List (Command α)) : (afterAll {} commands).Orderly :=
  (leadsTo_afterAll orderly_new commands).orderly

end Bench

end ChangeAudit.Workbench
