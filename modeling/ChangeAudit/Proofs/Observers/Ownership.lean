/-
# Who gives a subscription up

A subscription can be ended in four ways: somebody who knows its identifier goes to the list, its
owner releases it or is dropped, a verifier that owns it is detached or dropped, or the list is
closed.  Any code may do so, at any time: code from outside, and callbacks in the middle of a report.

Whatever is done, the books are kept (`Scene.Proceeds`): the registry is what the calls to it have
made of it, and the owners agree with the calls (`Custody.Orderly`).  So the calls account for the
registry (`registrations_accounted_for`): an identifier is in use just if it was given out and not
ended since; who ends a subscription is told so, and he is the only one; an owner holds on to what he
has not released, and finds it gone only if the list was closed or somebody went to the list.
-/
import Mathlib.Data.Set.Card
import ChangeAudit.Proofs.Observers.Reports
import ChangeAudit.Proofs.Observers.Routines

namespace ChangeAudit

variable {τ α : Type}

/-! ## 1. Owners -/

namespace Custody

variable {w : Custody τ} {n : Nat} {id : SubscriptionId} {call : RegistryCall} {was : Bool}
  {s : Subscription}

/-- The owners and the calls agree. -/
structure Orderly (w : Custody τ) : Prop where
  registered : ∀ s ∈ w.owned, .registered s.id ∈ w.calls
  nodup : (w.owned.map (·.id)).Nodup
  /-- An owner has not released his subscription if it is active. -/
  active_iff : ∀ n s, w.owned[n]? = some s →
    (s.active = true ↔ ∀ was, .givenUp s.id (some n) was ∉ w.calls)
  owner : ∀ n id was, .givenUp id (some n) was ∈ w.calls → ∃ s, w.owned[n]? = some s ∧ s.id = id
  gone : ∀ s ∈ w.owned, s.active = false → s.id ∉ inUse w.calls

theorem Orderly.start (rest : τ) : Orderly { rest } :=
  ⟨nofun, .nil, nofun, nofun, nofun⟩

theorem Orderly.of_eq {w' : Custody τ} (h : w.Orderly) (howned : w'.owned = w.owned)
    (hcalls : w'.calls = w.calls) : w'.Orderly := by
  obtain ⟨owned, calls, rest⟩ := w
  obtain ⟨owned', calls', rest'⟩ := w'
  cases howned
  cases hcalls
  exact ⟨h.registered, h.nodup, h.active_iff, h.owner, h.gone⟩

/-- A call that is no release by an owner, and gives out no identifier that has an owner. -/
theorem Orderly.note (h : w.Orderly) (howner : ∀ id n was, call ≠ .givenUp id (some n) was)
    (hnew : ∀ s ∈ w.owned, s.id ∉ inUse w.calls → s.id ∉ call.apply (inUse w.calls)) :
    (w.note call).Orderly where
  registered s hs := List.mem_append_left _ (h.registered s hs)
  nodup := h.nodup
  active_iff n s hs := by simp [Custody.note, h.active_iff n s hs, (howner s.id n _).symm]
  owner n id was hcall := by
    refine h.owner n id was ?_
    simpa [Custody.note, (howner id n was).symm] using hcall
  gone s hs hinactive := by
    have hgone := hnew s hs (h.gone s hs hinactive)
    simpa [Custody.note] using hgone

theorem Orderly.note_givenUp (h : w.Orderly) (id : SubscriptionId) (was : Bool) :
    (w.note (.givenUp id none was)).Orderly :=
  h.note (by simp) fun s _ hgone hmem => hgone (RegistryCall.mem_of_mem_givenUp hmem)

theorem Orderly.note_closed (h : w.Orderly) : (w.note .closed).Orderly :=
  h.note (by simp) (by simp [RegistryCall.apply])

theorem Orderly.note_refused (h : w.Orderly) : (w.note .refused).Orderly :=
  h.note (by simp) (by simp [RegistryCall.apply])

theorem Orderly.note_registered (h : w.Orderly) (hnew : .registered id ∉ w.calls) :
    (w.note (.registered id)).Orderly := by
  refine h.note (by simp) fun s hs hgone => ?_
  have hne : s.id ≠ id := by
    rintro rfl
    exact hnew (h.registered s hs)
  simp [RegistryCall.apply, hgone, hne]

/-- Who has a subscription had it before, or is the new owner. -/
theorem getElem?_own (hs : (w.own id).owned[n]? = some s) :
    w.owned[n]? = some s ∨ n = w.owned.length ∧ s = { id } := by
  simp only [Custody.own, List.getElem?_append] at hs
  split at hs
  · exact Or.inl hs
  · rename_i hlen
    simp only [List.getElem?_singleton, Option.ite_none_right_eq_some, Option.some.injEq] at hs
    exact Or.inr ⟨by omega, hs.2.symm⟩

/-- A new identifier gets an owner. -/
theorem Orderly.own (h : w.Orderly) (hnew : .registered id ∉ w.calls) :
    ((w.note (.registered id)).own id).Orderly := by
  have hnoted := h.note_registered hnew
  have hstrange : ∀ s ∈ w.owned, s.id ≠ id := by
    rintro s hs rfl
    exact hnew (h.registered s hs)
  refine ⟨?_, ?_, ?_, ?_, ?_⟩
  · intro s hs
    rcases List.mem_append.mp hs with hold | hlast
    · exact hnoted.registered s hold
    · cases List.mem_singleton.mp hlast
      simp [Custody.own, Custody.note]
  · simp only [Custody.own, Custody.note, List.map_append, List.map_cons, List.map_nil]
    refine List.nodup_append.mpr ⟨h.nodup, by simp, ?_⟩
    rintro other hother _ hid rfl
    obtain ⟨s, hs, rfl⟩ := List.mem_map.mp hother
    exact hstrange s hs (List.mem_singleton.mp hid)
  · intro n s hs
    rcases getElem?_own hs with hold | ⟨-, rfl⟩
    · exact hnoted.active_iff n s hold
    · -- nobody can have released what was not given out
      refine iff_of_true rfl fun was hcall => ?_
      obtain ⟨s, hs, hid⟩ := hnoted.owner n id was hcall
      exact hstrange s (List.mem_of_getElem? hs) hid
  · intro n other was hcall
    obtain ⟨s, hs, hid⟩ := hnoted.owner n other was hcall
    have hlen := (List.getElem?_eq_some_iff.mp hs).1
    exact ⟨s, (List.getElem?_append_left hlen).trans hs, hid⟩
  · intro s hs hinactive
    rcases List.mem_append.mp hs with hold | hlast
    · exact hnoted.gone s hold hinactive
    · cases List.mem_singleton.mp hlast
      cases hinactive

@[simp]
theorem getElem?_settle (w : Custody τ) (n m : Nat) :
    (w.settle n).owned[m]? =
      w.owned[m]?.map fun s => { s with active := s.active && m ≠ n } := by
  simp only [settle, List.getElem?_modify]
  by_cases hm : n = m
  · simp [hm]
  · simp [hm, Ne.symm hm]

/-- Who has released his subscription has nothing left to settle. -/
theorem settle_of_inactive (hs : w.owned[n]? = some s) (hinactive : s.active = false) :
    w.settle n = w := by
  have howned : (w.settle n).owned = w.owned := by
    refine List.ext_getElem? fun m => ?_
    by_cases hm : m = n
    · subst hm
      simp [hs, ← hinactive]
    · simp [hm]
  calc w.settle n = { w with owned := (w.settle n).owned } := rfl
    _ = w := by rw [howned]

theorem map_id_settle (w : Custody τ) (n : Nat) :
    (w.settle n).owned.map (·.id) = w.owned.map (·.id) := by
  refine List.ext_getElem? fun m => ?_
  simp [Function.comp_def]

/-- An owner releases his subscription, and is told whether it was in use. -/
theorem Orderly.release (h : w.Orderly) (hs : w.owned[n]? = some s)
    (hwas : was = true ↔ s.id ∈ inUse w.calls) :
    ((w.settle n).note (.givenUp s.id (some n) was)).Orderly where
  registered s' hs' := by
    have hid : s'.id ∈ w.owned.map (·.id) := map_id_settle w n ▸ List.mem_map_of_mem hs'
    obtain ⟨s₀, hs₀, heq⟩ := List.mem_map.mp hid
    exact List.mem_append_left _ (heq ▸ h.registered s₀ hs₀)
  nodup := (map_id_settle w n).symm ▸ h.nodup
  active_iff m s' hs' := by
    obtain ⟨s₀, hs₀, rfl⟩ := Option.map_eq_some_iff.mp ((getElem?_settle w n m).symm.trans hs')
    by_cases hm : m = n
    · subst hm
      cases hs.symm.trans hs₀
      refine iff_of_false (by simp) fun hnever => hnever was ?_
      exact List.mem_append_right _ (List.mem_singleton.mpr rfl)
    · simpa [Custody.note, hm, settle] using h.active_iff m s₀ hs₀
  owner m id was' hcall := by
    have hsome : ∃ s₀, w.owned[m]? = some s₀ ∧ s₀.id = id := by
      rcases List.mem_append.mp hcall with hold | hlast
      · exact h.owner m id was' hold
      · cases List.mem_singleton.mp hlast
        exact ⟨s, hs, rfl⟩
    obtain ⟨s₀, hs₀, rfl⟩ := hsome
    exact ⟨_, (getElem?_settle w n m).trans (congrArg _ hs₀), rfl⟩
  gone s' hs' hinactive := by
    obtain ⟨m, hm⟩ := List.mem_iff_getElem?.mp hs'
    obtain ⟨s₀, hs₀, rfl⟩ := Option.map_eq_some_iff.mp ((getElem?_settle w n m).symm.trans hm)
    simp only [Custody.note, inUse_concat]
    by_cases hm : m = n
    · subst hm
      cases hs.symm.trans hs₀
      exact RegistryCall.not_mem_givenUp hwas
    · refine fun hmem => h.gone s₀ (List.mem_of_getElem? hs₀) ?_
        (RegistryCall.mem_of_mem_givenUp hmem)
      simpa [hm] using hinactive

end Custody

/-! ## 2. Keeping the books -/

namespace Scene

variable {s s' s'' : Scene (Custody τ) α} {conduct : Conduct τ α}
  {registry : Registry (Callback (Custody τ) α)} {id : SubscriptionId}

/-- The registry is what the calls have made of it, every callback is a routine, and the owners and
the calls agree. -/
structure Kept (s : Scene (Custody τ) α) : Prop where
  follows : s.registry.Follows s.world.calls
  conducts : ∀ entry ∈ s.registry.entries, ∃ conduct : Conduct τ α, entry.2 = conduct.callback
  orderly : s.world.Orderly

/-- The books are kept from one scene to the other, and no call is forgotten. -/
structure Proceeds (s s' : Scene (Custody τ) α) : Prop where
  kept : s'.Kept
  calls : s.world.calls <+: s'.world.calls
  listName : s'.registry.listName = s.registry.listName

theorem Proceeds.trans (h : s.Proceeds s') (h' : s'.Proceeds s'') : s.Proceeds s'' :=
  ⟨h'.kept, h.calls.trans h'.calls, h'.listName.trans h.listName⟩

/-- What does not touch the registry and the books. -/
theorem Kept.proceeds (h : s.Kept) (hregistry : s'.registry = s.registry)
    (howned : s'.world.owned = s.world.owned) (hcalls : s'.world.calls = s.world.calls) :
    s.Proceeds s' :=
  ⟨⟨hregistry ▸ hcalls ▸ h.follows, hregistry ▸ h.conducts, h.orderly.of_eq howned hcalls⟩,
    hcalls ▸ List.prefix_rfl, hregistry ▸ rfl⟩

theorem Kept.refused (h : s.Kept) {callback : Callback (Custody τ) α}
    (hs : s.registry.subscribe callback = none) :
    s.Proceeds { s with world := s.world.note .refused } :=
  ⟨⟨h.follows.refused hs, h.conducts, h.orderly.note_refused⟩, List.prefix_append _ _, rfl⟩

/-- A routine is registered. -/
theorem Kept.registered (h : s.Kept)
    (hs : s.registry.subscribe conduct.callback = some (registry, id))
    (log : List (LogEntry α)) :
    s.Proceeds { registry, world := s.world.note (.registered id), log } := by
  obtain ⟨hfollows, hnew, hentries⟩ := h.follows.registered hs
  refine ⟨⟨hfollows, ?_, h.orderly.note_registered hnew⟩, List.prefix_append _ _,
    Registry.listName_of_subscribe hs⟩
  intro entry hentry
  rcases List.mem_append.mp (hentries ▸ hentry) with hold | hlast
  · exact h.conducts entry hold
  · cases List.mem_singleton.mp hlast
    exact ⟨conduct, rfl⟩

/-- A routine is registered, and the subscription gets an owner. -/
theorem Kept.attached (h : s.Kept)
    (hs : s.registry.subscribe conduct.callback = some (registry, id))
    (log : List (LogEntry α)) :
    s.Proceeds { registry, world := (s.world.note (.registered id)).own id, log } := by
  have hnew := (h.follows.registered hs).2.1
  obtain ⟨hkept, hcalls, hname⟩ := h.registered hs log
  exact ⟨⟨hkept.follows, hkept.conducts, h.orderly.own hnew⟩, hcalls, hname⟩

theorem Kept.givenUp (h : s.Kept) (id : SubscriptionId) (log : List (LogEntry α)) :
    s.Proceeds
      { registry := (s.registry.unsubscribe id).1
        world := s.world.note (.givenUp id none (s.registry.unsubscribe id).2), log } :=
  ⟨⟨h.follows.givenUp id none, fun entry hentry => h.conducts entry (List.mem_of_mem_filter hentry),
    h.orderly.note_givenUp id _⟩, List.prefix_append _ _, rfl⟩

/-- An owner whose subscription is active releases it. -/
theorem Kept.released (h : s.Kept) {n : Nat} {guard : Subscription}
    (hguard : s.world.owned[n]? = some guard) (log : List (LogEntry α)) :
    s.Proceeds
      { registry := (s.registry.unsubscribe guard.id).1
        world := (s.world.settle n).note
          (.givenUp guard.id (some n) (s.registry.unsubscribe guard.id).2), log } := by
  have hwas : (s.registry.unsubscribe guard.id).2 = true ↔ guard.id ∈ inUse s.world.calls := by
    simp [Registry.unsubscribe, h.follows.ids]
  exact ⟨⟨h.follows.givenUp guard.id (some n),
    fun entry hentry => h.conducts entry (List.mem_of_mem_filter hentry),
    h.orderly.release hguard hwas⟩, List.prefix_append _ _, rfl⟩

/-- An owner who has released his subscription tries again. -/
theorem Kept.released_again (h : s.Kept) {n : Nat} {guard : Subscription}
    (hguard : s.world.owned[n]? = some guard) (hinactive : guard.active = false) :
    s.Proceeds { s with world := s.world.note (.givenUp guard.id (some n) false) } := by
  have hgone : guard.id ∉ s.registry.ids :=
    h.follows.ids ▸ h.orderly.gone guard (List.mem_of_getElem? hguard) hinactive
  simpa only [Registry.unsubscribe_of_not_mem hgone, Custody.settle_of_inactive hguard hinactive]
    using h.released hguard s.log

theorem Kept.closed (h : s.Kept) (log : List (LogEntry α)) :
    s.Proceeds { registry := s.registry.close.1, world := s.world.note .closed, log } :=
  ⟨⟨h.follows.close, fun _ hentry => (nomatch hentry), h.orderly.note_closed⟩,
    List.prefix_append _ _, rfl⟩

end Scene

/-- **Whatever a routine does, the books are kept.** -/
theorem Routine.proceeds (routine : Routine τ α) {s : Scene (Custody τ) α} (h : s.Kept) :
    s.Proceeds (routine.script.run s).1 := by
  induction routine generalizing s with
  | done => exact h.proceeds rfl rfl rfl
  | panic text => exact h.proceeds rfl rfl rfl
  | read next ih => exact ih s.world.owned s.world.rest h
  | write rest next ih =>
    have hwritten : s.Proceeds { s with world := { s.world with rest } } := h.proceeds rfl rfl rfl
    exact hwritten.trans (ih hwritten.kept)
  | log entries next ih =>
    have hnoted : s.Proceeds (s.note entries) := h.proceeds rfl rfl rfl
    exact hnoted.trans (ih hnoted.kept)
  | subscribe conduct next _ ih =>
    cases hs : s.registry.subscribe (Conduct.callback conduct) with
    | none =>
      have hrefused := h.refused hs
      rw [run_subscribe_of_none next hs]
      exact hrefused.trans (ih none hrefused.kept)
    | some given =>
      have hregistered := h.registered hs (s.log ++ [.subscribed given.1.listName])
      rw [run_subscribe_of_some next hs]
      exact hregistered.trans (ih (some given.2) hregistered.kept)
  | attach conduct next _ ih =>
    cases hs : s.registry.subscribe (Conduct.callback conduct) with
    | none =>
      have hrefused := h.refused hs
      rw [run_attach_of_none next hs]
      exact hrefused.trans (ih none hrefused.kept)
    | some given =>
      have hattached := h.attached hs (s.log ++ [.subscribed given.1.listName])
      rw [run_attach_of_some next hs]
      exact hattached.trans (ih (some (_, given.2)) hattached.kept)
  | unsubscribe id next ih =>
    have hgiven := h.givenUp id (s.unsubscribe id).1.log
    exact hgiven.trans (ih _ hgiven.kept)
  | release owner next ih =>
    cases hguard : s.world.owned[owner]? with
    | none =>
      rw [script, Script.run, hguard]
      exact ih false h
    | some guard =>
      cases hactive : guard.active with
      | true =>
        have hreleased := h.released hguard ((s.note [.releasing]).unsubscribe guard.id).1.log
        simp only [script, Script.run, hguard, hactive, if_true]
        exact hreleased.trans (ih _ hreleased.kept)
      | false =>
        have hagain := h.released_again hguard hactive
        simp only [script, Script.run, hguard, hactive, Bool.false_eq_true, if_false]
        exact hagain.trans (ih false hagain.kept)
  | close next ih =>
    have hclosed := h.closed s.close.log
    exact hclosed.trans (ih hclosed.kept)

/-! ## 3. Lists and those who deal with them -/

/-- A list, and the world of those who deal with it. -/
structure Clientele (τ α : Type) where
  list : ObservableList (Custody τ) α
  world : Custody τ

/-- What is done to the list from outside: an action, or a routine. -/
inductive Dealing (τ α : Type) where
  | act (a : Action α)
  | visit (routine : Routine τ α)

namespace Clientele

/-- A new list, which nobody has dealt with. -/
def opened (name : String) (source : Nat) (items : List α) (rest : τ) : Clientele τ α where
  list := .ofItems name source items
  world := { rest }

/-- What callbacks and routines work on. -/
def scene (k : Clientele τ α) : Scene (Custody τ) α := k.list.scene k.world

variable [BEq α]

def after (k : Clientele τ α) : Dealing τ α → Clientele τ α
  | .act a => { list := (k.list.perform k.world a).list, world := (k.list.perform k.world a).world }
  | .visit routine =>
    { list := { k.list with registry := (routine.script.run k.scene).1.registry }
      world := (routine.script.run k.scene).1.world }

def afterAll (k : Clientele τ α) (dealings : List (Dealing τ α)) : Clientele τ α :=
  dealings.foldl after k

/-- An owner who releases his subscription from outside does what a release does. -/
theorem after_release (k : Clientele τ α) {n : Nat} {guard : Subscription}
    (hguard : k.world.owned[n]? = some guard) :
    let released := guard.release (some k.list) k.world
    k.after (.visit (.release n fun _ => .done)) =
      { list := released.list.getD k.list
        world := (k.world.settle n).note (.givenUp guard.id (some n) released.was) } := by
  have hworld : k.scene.world.owned[n]? = some guard := hguard
  cases hactive : guard.active with
  | true =>
    simp only [after, Routine.script, Script.run, hworld, hactive, if_true, Subscription.release]
    rfl
  | false =>
    simp only [after, Routine.script, Script.run, hworld, hactive, Bool.false_eq_true, if_false,
      Subscription.release, Custody.settle_of_inactive hguard hactive]
    rfl

end Clientele

/-- The callbacks that are called are routines. -/
theorem ObservableList.proceeds_callAll (c : Change α) (contents : List α)
    {entries : List (SubscriptionId × Callback (Custody τ) α)}
    (hconducts : ∀ entry ∈ entries, ∃ conduct : Conduct τ α, entry.2 = conduct.callback)
    {s : Scene (Custody τ) α} (h : s.Kept) : s.Proceeds (callAll c contents entries s).1 := by
  induction entries generalizing s with
  | nil => exact h.proceeds rfl rfl rfl
  | cons entry rest ih =>
    obtain ⟨id, callback⟩ := entry
    obtain ⟨conduct, rfl⟩ := hconducts _ List.mem_cons_self
    have hfirst : s.Proceeds ((conduct.callback id c contents).run s).1 :=
      (conduct id c contents).proceeds h
    cases hrun : ((conduct.callback id c contents).run s).2 with
    | some cause =>
      rw [(callAll_cons_of_panics rest hrun).1]
      exact hfirst
    | none =>
      rw [(callAll_cons_of_returns rest hrun).1]
      exact hfirst.trans
        (ih (fun entry hentry => hconducts entry (List.mem_cons_of_mem _ hentry)) hfirst.kept)

namespace Clientele

theorem kept_opened (name : String) (source : Nat) (items : List α) (rest : τ) :
    (opened name source items rest : Clientele τ α).scene.Kept :=
  ⟨.start name source, nofun, .start rest⟩

variable [BEq α] {k : Clientele τ α}

/-- **Whatever is done to the list, the books are kept.** -/
theorem proceeds_after (h : k.scene.Kept) (d : Dealing τ α) :
    k.scene.Proceeds (k.after d).scene := by
  cases d with
  | visit routine =>
    have hrun := routine.proceeds h
    exact hrun.trans (hrun.kept.proceeds rfl rfl rfl)
  | act a =>
    cases hr : (k.list.journal.step a).reported with
    | none =>
      have hsilent := ObservableList.silent_of_quiet k.world hr
      exact h.proceeds hsilent.registry (congrArg Custody.owned hsilent.world)
        (congrArg Custody.calls hsilent.world)
    | some c =>
      have hdone := ObservableList.concluded_of_reported k.world hr
      have hopening : k.scene.Proceeds (k.list.opening k.world c) := h.proceeds rfl rfl rfl
      have hcalled := hopening.trans
        (ObservableList.proceeds_callAll c (k.list.journal.step a).journal.items h.conducts
          hopening.kept)
      exact hcalled.trans (hcalled.kept.proceeds hdone.registry (congrArg Custody.owned hdone.world)
        (congrArg Custody.calls hdone.world))

theorem proceeds_afterAll (h : k.scene.Kept) (dealings : List (Dealing τ α)) :
    k.scene.Proceeds (k.afterAll dealings).scene := by
  induction dealings generalizing k with
  | nil => exact h.proceeds rfl rfl rfl
  | cons d rest ih =>
    have hfirst := proceeds_after h d
    exact hfirst.trans (ih hfirst.kept)

end Clientele

/-! ## 4. What the calls tell of the registry -/

namespace Scene.Kept

variable {s : Scene (Custody τ) α} (h : s.Kept) {id : SubscriptionId} {n : Nat}
  {guard : Subscription}
include h

theorem mem_ids_iff : id ∈ s.registry.ids ↔ Current id s.world.calls := by
  rw [h.follows.ids, mem_inUse_iff]

theorem count_eq : s.registry.count = {id | Current id s.world.calls}.ncard := by
  have hset : {id | Current id s.world.calls} = ↑s.registry.ids.toFinset := by
    ext id
    simp [h.mem_ids_iff]
  rw [hset, Set.ncard_coe_finset, List.toFinset_card_of_nodup h.follows.valid.nodup]
  simp [Registry.count, Registry.ids]

/-- **An owner who holds on to a subscription that is gone has lost it to somebody who went to the
list.** -/
theorem lost (hguard : s.world.owned[n]? = some guard) (hactive : guard.active = true)
    (hgone : guard.id ∉ s.registry.ids) :
    .closed ∈ s.world.calls ∨ .givenUp guard.id none true ∈ s.world.calls := by
  have hregistered := h.orderly.registered guard (List.mem_of_getElem? hguard)
  rcases h.follows.truthful.current_or_ended hregistered with hin | hclosed | ⟨owner, hgiven⟩
  · exact absurd (h.follows.ids ▸ hin) hgone
  · exact Or.inl hclosed
  · cases owner with
    | none => exact Or.inr hgiven
    | some m =>
      -- no other owner has a subscription to the same identifier
      obtain ⟨other, hother, hid⟩ := h.orderly.owner m guard.id true hgiven
      have hm : m = n := by
        have hlen : m < (s.world.owned.map (·.id)).length := by
          simpa using (List.getElem?_eq_some_iff.mp hother).1
        refine (List.getElem?_inj hlen h.orderly.nodup).mp ?_
        simp [hother, hguard, hid]
      subst hm
      exact absurd hgiven ((h.orderly.active_iff m guard hguard).mp hactive true)

/-- **Once a registry is closed, it is empty for good.** -/
theorem shut {s' : Scene (Custody τ) α} (hs : s.Proceeds s')
    (hclosed : s.registry.isClosed = true) :
    s'.registry.isClosed = true ∧ s'.registry.entries = [] := by
  have hcall := hs.calls.subset (h.follows.closed.mp hclosed)
  have hshut := hs.kept.follows.closed.mpr hcall
  exact ⟨hshut, hs.kept.follows.valid.closed hshut⟩

end Scene.Kept

/-- **The calls account for the registry.**  Whatever is done to a list, from outside and by its
callbacks, an identifier is in use just if it was given out and not ended since, and the count of
the observers is the number of these.  Who gives a subscription up, through the list, as its owner,
or by detaching or dropping a verifier, is told that it was in use just if it was, so at most one is
told so.  Who asks for a subscription or for a verifier and is refused leaves everything as it was.
A subscription is active just if its owner has not released it; if it is gone all the same, the
list was closed or somebody gave it up through the list.  A closed list has no observers and refuses
new ones, whatever is done to it later. -/
theorem registrations_accounted_for [BEq α] [Element α] (name : String) (source : Nat)
    (items : List α) (rest : τ) (dealings : List (Dealing τ α)) :
    let k := (Clientele.opened name source items rest).afterAll dealings
    (∀ id, id ∈ k.list.registry.ids ↔ Current id k.world.calls) ∧
    k.list.subscriberCount = {id | Current id k.world.calls}.ncard ∧
    (∀ before after id owner was, k.world.calls = before ++ .givenUp id owner was :: after →
      (was = true ↔ Current id before)) ∧
    (∀ id, (k.world.calls.filter (·.gaveUp id)).length ≤ 1) ∧
    (∀ s : Scene (Custody τ) α,
      (∀ conduct, Routine.FailsCleanly (.subscribe conduct) s) ∧
      (∀ conduct, Routine.FailsCleanly (.attach conduct) s) ∧
      ∀ site config contents, Routine.FailsCleanly (.startVerifier site config contents) s) ∧
    (∀ owner guard, k.world.owned[owner]? = some guard →
      (guard.active = true ↔ ∀ was, .givenUp guard.id (some owner) was ∉ k.world.calls) ∧
      (guard.active = true → guard.id ∉ k.list.registry.ids →
        .closed ∈ k.world.calls ∨ .givenUp guard.id none true ∈ k.world.calls)) ∧
    (k.list.isClosed = true ↔ .closed ∈ k.world.calls) ∧
    (k.list.isClosed = true → ∀ later,
      (k.afterAll later).list.registry.entries = [] ∧
      ∀ world callback, (k.afterAll later).list.subscribe world callback =
        ((k.afterAll later).list, [], .error (.closed name))) := by
  intro k
  have hrun := Clientele.proceeds_afterAll (Clientele.kept_opened name source items rest) dealings
  have hkept : k.scene.Kept := hrun.kept
  have htruthful : Truthful k.world.calls := hkept.follows.truthful
  refine ⟨fun id => hkept.mem_ids_iff, hkept.count_eq, ?_, htruthful.length_filter_gaveUp_le,
    ?_, ?_, hkept.follows.closed, ?_⟩
  · exact fun before after id owner was heq => htruthful.was_iff heq
  · exact fun s => ⟨fun conduct => Routine.failsCleanly_subscribe conduct s,
      fun conduct => Routine.failsCleanly_attach conduct s,
      fun site config contents => Routine.failsCleanly_startVerifier site config contents s⟩
  · exact fun owner guard hguard =>
      ⟨hkept.orderly.active_iff owner guard hguard, hkept.lost hguard⟩
  · intro hclosed later
    have hlater := Clientele.proceeds_afterAll hkept later
    obtain ⟨hshut, hempty⟩ := hkept.shut hlater hclosed
    refine ⟨hempty, fun world callback => ?_⟩
    have hname : (k.afterAll later).list.registry.listName = name :=
      hlater.listName.trans hrun.listName
    have hrefused : (k.afterAll later).list.registry.subscribe callback = none :=
      (Registry.subscribe_eq_none_iff callback).mpr hshut
    simp only [ObservableList.subscribe, ObservableList.scene, Scene.subscribe, hrefused, hname]

end ChangeAudit
