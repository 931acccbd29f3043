/-
# Verifiers, collections and callbacks

What a workbench has to do with verifiers is its registries, its world, and the handles of the
verifiers that have not been dropped (`View`).  They fit together (`View.Sound`): a handle stands
for a verifier that keeps its collection in existence, and a callback that is registered is either
a plain one or that of a verifier, which then has a handle, or whose collection is gone.

Whatever is done, they go on fitting together, and some things cannot be undone (`View.Proceeds`).
A collection that is gone stays gone.  A verifier that was dropped gets no new handle, and its state
stays what it was.  A verifier leaves its callback behind only if its collection goes with it.
-/
import Mathlib.Logic.Function.Basic
import ChangeAudit.Proofs.Observers.History
import ChangeAudit.Proofs.Verifier.Routes

namespace ChangeAudit

/-! ## 1. Registries -/

namespace Registry

variable {κ : Type} {r r' r'' : Registry κ} {id : SubscriptionId}

/-- `r'` can have come of `r`: its callbacks were registered already, or have new numbers. -/
structure TurnsInto (r r' : Registry κ) : Prop where
  next : r.next ≤ r'.next
  source : r'.source = r.source
  known : ∀ entry ∈ r'.entries, entry ∈ r.entries ∨ r.next ≤ entry.1.serial

theorem TurnsInto.refl (r : Registry κ) : r.TurnsInto r := ⟨Nat.le_refl _, rfl, fun _ => Or.inl⟩

theorem TurnsInto.trans (h : r.TurnsInto r') (h' : r'.TurnsInto r'') : r.TurnsInto r'' := by
  refine ⟨Nat.le_trans h.next h'.next, h'.source.trans h.source, fun entry hentry => ?_⟩
  rcases h'.known entry hentry with hold | hnew
  · exact h.known entry hold
  · exact Or.inr (Nat.le_trans h.next hnew)

/-- An identifier that was given out has the callback that it had. -/
theorem TurnsInto.mem_of_given (h : r.TurnsInto r') {entry : SubscriptionId × κ}
    (hentry : entry ∈ r'.entries) (hgiven : entry.1.serial < r.next) : entry ∈ r.entries :=
  (h.known entry hentry).resolve_right (Nat.not_le_of_lt hgiven)

theorem TurnsInto.mem_ids_of_given (h : r.TurnsInto r') (hid : id ∈ r'.ids)
    (hgiven : id.serial < r.next) : id ∈ r.ids := by
  obtain ⟨entry, hentry, rfl⟩ := List.mem_map.mp hid
  exact List.mem_map_of_mem (h.mem_of_given hentry hgiven)

/-- A registration adds one callback, under a new identifier. -/
theorem subscribe_eq_some_iff {callback : κ} : r.subscribe callback = some (r', id) ↔
    r.isClosed = false ∧ id = r.fresh ∧
      r' = { r with next := r.next + 1, entries := r.entries ++ [(r.fresh, callback)] } := by
  unfold subscribe
  cases r.isClosed <;> simp [eq_comm, and_comm]

theorem turnsInto_subscribe {callback : κ} (hs : r.subscribe callback = some (r', id)) :
    r.TurnsInto r' := by
  obtain ⟨-, -, rfl⟩ := subscribe_eq_some_iff.mp hs
  refine ⟨Nat.le_succ _, rfl, fun entry hentry => ?_⟩
  rcases List.mem_append.mp hentry with hold | hnew
  · exact Or.inl hold
  · cases List.mem_singleton.mp hnew
    exact Or.inr (Nat.le_refl _)

theorem turnsInto_unsubscribe (r : Registry κ) (id : SubscriptionId) :
    r.TurnsInto (r.unsubscribe id).1 :=
  ⟨Nat.le_refl _, rfl, fun _ hentry => Or.inl ((List.mem_filter.mp hentry).1)⟩

theorem turnsInto_close (r : Registry κ) : r.TurnsInto r.close.1 :=
  ⟨Nat.le_refl _, rfl, fun _ hentry => nomatch hentry⟩

end Registry

namespace Workbench

variable {α : Type}

/-! ## 2. Collections that are gone -/

namespace World

variable {w w' w'' : World α} {n : Nat}

/-- The collection has existed, and does so no longer. -/
def IsGone (w : World α) (n : Nat) : Prop := n < w.collections.length ∧ w.isAlive n = false

/-- The verifiers are what they were, and no collection has come back. -/
structure Passes (w w' : World α) : Prop where
  verifiers : w'.verifiers = w.verifiers
  collections : w.collections.length ≤ w'.collections.length
  gone : ∀ n, w.IsGone n → w'.IsGone n

theorem Passes.refl (w : World α) : w.Passes w := ⟨rfl, Nat.le_refl _, fun _ => id⟩

/-- A collection that exists does so because somebody holds it. -/
theorem isAlive_iff : w.isAlive n = true ↔
    (∃ c, w.collections[n]? = some c ∧ c.held = true) ∨
      ∃ o ∈ w.verifiers, o.kept = true ∧ o.collection = n := by
  simp [isAlive, Option.any_eq_true]

/-- Whatever is changed about a collection, it does not come back unless it is held again. -/
theorem passes_modifyCollection (w : World α) (n : Nat) (f : Collection α → Collection α)
    (hf : ∀ c, (f c).held = true → c.held = true) : w.Passes (w.modifyCollection n f) := by
  refine ⟨rfl, by simp [modifyCollection], fun m hm => ⟨by simpa [modifyCollection] using hm.1, ?_⟩⟩
  rw [Bool.eq_false_iff]
  intro halive
  refine Bool.eq_false_iff.mp hm.2 (isAlive_iff.mpr ?_)
  rcases isAlive_iff.mp halive with ⟨c, hc, hheld⟩ | hobserved
  · simp only [modifyCollection, List.getElem?_modify, Option.map_eq_map,
      Option.map_eq_some_iff] at hc
    obtain ⟨c₀, hc₀, rfl⟩ := hc
    refine Or.inl ⟨c₀, hc₀, ?_⟩
    split at hheld
    · exact hf c₀ hheld
    · exact hheld
  · exact Or.inr hobserved

theorem passes_read (w : World α) (n : Nat) (contents : List α) :
    w.Passes (w.read n contents).2 :=
  w.passes_modifyCollection n _ fun _ => id

theorem passes_of_eq (hcollections : w'.collections = w.collections)
    (hverifiers : w'.verifiers = w.verifiers) : w.Passes w' := by
  have halive : ∀ n, w'.isAlive n = w.isAlive n := by
    intro n
    rw [isAlive, isAlive, hcollections, hverifiers]
  exact ⟨hverifiers, hcollections ▸ Nat.le_refl _,
    fun n hn => ⟨hcollections ▸ hn.1, (halive n).trans hn.2⟩⟩

theorem passes_create (w : World α) :
    w.Passes { w with collections := w.collections ++ [{}] } := by
  refine ⟨rfl, by simp, fun n hn => ⟨by simpa using Nat.lt_succ_of_lt hn.1, ?_⟩⟩
  rw [← hn.2, isAlive, isAlive, List.getElem?_append_left hn.1]

/-- The verifiers of a world after one of them has changed. -/
theorem mem_modify {β : Type} {f : β → β} {xs : List β} {x : β} (hx : x ∈ xs.modify n f) :
    ∃ x₀ ∈ xs, x = x₀ ∨ x = f x₀ := by
  obtain ⟨m, hm⟩ := List.mem_iff_getElem?.mp hx
  rw [List.getElem?_modify, Option.map_eq_map, Option.map_eq_some_iff] at hm
  obtain ⟨x₀, hx₀, rfl⟩ := hm
  refine ⟨x₀, List.mem_of_getElem? hx₀, ?_⟩
  split
  · exact Or.inr rfl
  · exact Or.inl rfl

/-- The world without a verifier. -/
def without (w : World α) (number : Nat) : World α :=
  { w with verifiers := w.verifiers.modify number fun o => { o with kept := false } }

/-- A verifier that is dropped keeps no collection in existence. -/
theorem isGone_without (number : Nat) (hn : w.IsGone n) : (w.without number).IsGone n := by
  refine ⟨hn.1, Bool.eq_false_iff.mpr fun halive => Bool.eq_false_iff.mp hn.2 ?_⟩
  rcases isAlive_iff.mp halive with hheld | ⟨o, ho, hkept, hcollection⟩
  · exact isAlive_iff.mpr (Or.inl hheld)
  · obtain ⟨o₀, ho₀, rfl | rfl⟩ := mem_modify ho
    · exact isAlive_iff.mpr (Or.inr ⟨_, ho₀, hkept, hcollection⟩)
    · cases hkept

end World

/-! ## 3. What fits together -/

/-- Two handles of one verifier, which may have released its subscription in between. -/
structure VerifierHandle.Alike (h h' : VerifierHandle) : Prop where
  number : h.number = h'.number
  collection : h.collection = h'.collection
  id : h.subscription.id = h'.subscription.id

theorem VerifierHandle.Alike.refl (h : VerifierHandle) : h.Alike h := ⟨rfl, rfl, rfl⟩

theorem VerifierHandle.Alike.trans {h h' h'' : VerifierHandle} (ha : h.Alike h')
    (ha' : h'.Alike h'') : h.Alike h'' :=
  ⟨ha.number.trans ha'.number, ha.collection.trans ha'.collection, ha.id.trans ha'.id⟩

variable [BEq α] [Element α]

/-- The registries of the lists, by their numbers, the world, and the handles of the verifiers that
have not been dropped. -/
structure View (α : Type) where
  registries : Nat → Registry (Callback (World α) α)
  world : World α
  handles : VerifierHandle → Prop

namespace View

/-- A verifier of this number has not been dropped. -/
def Keeps (v : View α) (number : Nat) : Prop := ∃ h, v.handles h ∧ h.number = number

/-- A callback that is registered with the list of number `n`. -/
def Welcome (v : View α) (n : Nat) (entry : SubscriptionId × Callback (World α) α) : Prop :=
  (∃ name reaction, entry.2 = plainCallback name reaction) ∨
    ∃ number, entry.2 = Verifier.callback (World.site number n) ∧
      (v.world.IsGone n ∨ ∃ h, v.handles h ∧ h.number = number ∧ h.collection = n ∧
        h.subscription.id = entry.1)

/-- The verifier of a handle, its collection and its subscription. -/
structure Attached (v : View α) (h : VerifierHandle) : Prop where
  observed : ∃ o, v.world.verifiers[h.number]? = some o ∧ o.kept = true ∧
    o.collection = h.collection
  source : h.subscription.id.source = h.collection
  given : h.subscription.id.serial < (v.registries h.collection).next
  /-- A subscription that was released is not registered. -/
  released : h.subscription.active = false → h.subscription.id ∉ (v.registries h.collection).ids
  tracked : ∀ callback, (h.subscription.id, callback) ∈ (v.registries h.collection).entries →
    callback = Verifier.callback (World.site h.number h.collection)

/-- Registries, world and handles fit together. -/
structure Sound (v : View α) : Prop where
  valid : ∀ n, (v.registries n).Valid
  source : ∀ n, (v.registries n).source = n
  homes : ∀ o ∈ v.world.verifiers, o.collection < v.world.collections.length
  attached : ∀ h, v.handles h → v.Attached h
  apart : ∀ h h', v.handles h → v.handles h' → h.number = h'.number → h = h'
  welcome : ∀ n, ∀ entry ∈ (v.registries n).entries, v.Welcome n entry

/-- `v'` can have come of `v`. -/
structure Proceeds (v v' : View α) : Prop where
  sound : v'.Sound
  registries : ∀ n, (v.registries n).TurnsInto (v'.registries n)
  gone : ∀ n, v.world.IsGone n → v'.world.IsGone n
  started : v.world.verifiers.length ≤ v'.world.verifiers.length
  /-- A handle is that of a verifier that had one, or of a new one. -/
  handles : ∀ h', v'.handles h' →
    (∃ h, v.handles h ∧ h.Alike h') ∨ v.world.verifiers.length ≤ h'.number
  /-- The state of a verifier that was dropped does not change. -/
  frozen : ∀ number < v.world.verifiers.length, ¬ v.Keeps number →
    v'.world.verifiers[number]? = v.world.verifiers[number]?
  /-- A verifier that is dropped leaves its callback only if its collection goes with it. -/
  dropped : ∀ h, v.handles h → ¬ v'.Keeps h.number →
    h.subscription.id ∈ (v'.registries h.collection).ids → v'.world.IsGone h.collection

variable {v v' v'' : View α} {h : VerifierHandle} {n : Nat}

theorem Sound.number_lt (hv : v.Sound) (hh : v.handles h) :
    h.number < v.world.verifiers.length := by
  obtain ⟨o, ho, -⟩ := (hv.attached h hh).observed
  exact (List.getElem?_eq_some_iff.mp ho).1

/-- Who has no handle gets none. -/
theorem Proceeds.not_keeps (hp : v.Proceeds v') {number : Nat}
    (hlt : number < v.world.verifiers.length) (hnot : ¬ v.Keeps number) : ¬ v'.Keeps number := by
  rintro ⟨h', hh', rfl⟩
  rcases hp.handles h' hh' with ⟨h, hh, hsame⟩ | hnew
  · exact hnot ⟨h, hh, hsame.number⟩
  · omega

theorem Proceeds.trans (hv : v.Sound) (hp : v.Proceeds v') (hp' : v'.Proceeds v'') :
    v.Proceeds v'' where
  sound := hp'.sound
  registries n := (hp.registries n).trans (hp'.registries n)
  gone n hn := hp'.gone n (hp.gone n hn)
  started := Nat.le_trans hp.started hp'.started
  handles h'' hh'' := by
    rcases hp'.handles h'' hh'' with ⟨h', hh', hsame'⟩ | hnew
    · rcases hp.handles h' hh' with ⟨h, hh, hsame⟩ | hnew
      · exact Or.inl ⟨h, hh, hsame.trans hsame'⟩
      · exact Or.inr (hsame'.number ▸ hnew)
    · exact Or.inr (Nat.le_trans hp.started hnew)
  frozen number hlt hnot := by
    rw [← hp.frozen number hlt hnot]
    exact hp'.frozen number (Nat.lt_of_lt_of_le hlt hp.started) (hp.not_keeps hlt hnot)
  dropped h hh hnot hid := by
    have hlt := hv.number_lt hh
    have hgiven := (hv.attached h hh).given
    by_cases hkept : v'.Keeps h.number
    · -- it was dropped in the second part, under a handle for the same verifier
      obtain ⟨h', hh', hnumber'⟩ := hkept
      rcases hp.handles h' hh' with ⟨h₀, hh₀, hsame⟩ | hnew
      · obtain rfl := hv.apart h₀ h hh₀ hh (hsame.number.trans hnumber')
        rw [hsame.collection]
        refine hp'.dropped h' hh' (hsame.number ▸ hnot) ?_
        rw [← hsame.collection, ← hsame.id]
        exact hid
      · omega
    · refine hp'.gone _ (hp.dropped h hh hkept ?_)
      exact (hp'.registries _).mem_ids_of_given hid
        (Nat.lt_of_lt_of_le hgiven (hp.registries _).next)

/-- A callback stays welcome unless a verifier goes and leaves it behind. -/
theorem Welcome.mono {entry : SubscriptionId × Callback (World α) α} (hw : v.Welcome n entry)
    (hgone : v.world.IsGone n → v'.world.IsGone n)
    (hhandles : ∀ h, v.handles h → h.collection = n → h.subscription.id = entry.1 →
      v'.world.IsGone n ∨ ∃ h', v'.handles h' ∧ h.Alike h') :
    v'.Welcome n entry := by
  rcases hw with hplain | ⟨number, hcallback, hn | ⟨h, hh, rfl, hcollection, hid⟩⟩
  · exact Or.inl hplain
  · exact Or.inr ⟨number, hcallback, Or.inl (hgone hn)⟩
  · refine Or.inr ⟨h.number, hcallback, (hhandles h hh hcollection hid).imp id ?_⟩
    rintro ⟨h', hh', hsame⟩
    exact ⟨h', hh', hsame.number.symm, hsame.collection.symm.trans hcollection,
      hsame.id.symm.trans hid⟩

/-- A callback stays welcome as long as no handle goes. -/
theorem Welcome.of_handles {entry : SubscriptionId × Callback (World α) α} (hw : v.Welcome n entry)
    (hgone : v.world.IsGone n → v'.world.IsGone n) (hhandles : ∀ h, v.handles h → v'.handles h) :
    v'.Welcome n entry :=
  hw.mono hgone fun h hh _ _ => Or.inr ⟨h, hhandles h hh, .refl h⟩

/-- A verifier stays attached for as long as it is there. -/
theorem Attached.mono (ha : v.Attached h)
    (hturns : ∀ n, (v.registries n).TurnsInto (v'.registries n))
    (hobserved : ∃ o, v'.world.verifiers[h.number]? = some o ∧ o.kept = true ∧
      o.collection = h.collection) : v'.Attached h where
  observed := hobserved
  source := ha.source
  given := Nat.lt_of_lt_of_le ha.given (hturns h.collection).next
  released hreleased hid :=
    ha.released hreleased ((hturns h.collection).mem_ids_of_given hid ha.given)
  tracked callback hentry :=
    ha.tracked callback ((hturns h.collection).mem_of_given hentry ha.given)

/-! ## 4. What verifiers do not notice -/

/-- Something happens in the world that is nothing to the verifiers. -/
theorem Sound.passes (hv : v.Sound) {w' : World α} (hw : v.world.Passes w') :
    v.Proceeds { v with world := w' } where
  sound :=
    { valid := hv.valid
      source := hv.source
      homes := fun o ho => Nat.lt_of_lt_of_le (hv.homes o (hw.verifiers ▸ ho)) hw.collections
      attached := fun h hh =>
        ⟨hw.verifiers ▸ (hv.attached h hh).observed, (hv.attached h hh).source,
          (hv.attached h hh).given, (hv.attached h hh).released, (hv.attached h hh).tracked⟩
      apart := hv.apart
      welcome := fun n entry hentry =>
        (hv.welcome n entry hentry).of_handles (hw.gone n) fun _ => id }
  registries _ := .refl _
  gone := hw.gone
  started := Nat.le_of_eq (congrArg List.length hw.verifiers).symm
  handles h hh := Or.inl ⟨h, hh, .refl h⟩
  frozen number _ _ := congrArg (·[number]?) hw.verifiers
  dropped h hh hnot := absurd ⟨h, hh, rfl⟩ hnot

theorem Sound.refl (hv : v.Sound) : v.Proceeds v := hv.passes (.refl _)

omit [BEq α] [Element α] in
theorem turnsInto_update {registries : Nat → Registry (Callback (World α) α)}
    {r' : Registry (Callback (World α) α)} (hr : (registries n).TurnsInto r') (m : Nat) :
    (registries m).TurnsInto (Function.update registries n r' m) := by
  by_cases hm : m = n
  · subst hm
    simpa using hr
  · rw [Function.update_of_ne hm]
    exact .refl _

omit [BEq α] [Element α] in
/-- What holds of one registry that is changed, and of the others, holds of all afterwards. -/
theorem forall_update {registries : Nat → Registry (Callback (World α) α)}
    {r' : Registry (Callback (World α) α)} {P : Nat → Registry (Callback (World α) α) → Prop}
    (hothers : ∀ m, m ≠ n → P m (registries m)) (hr : P n r') (m : Nat) :
    P m (Function.update registries n r' m) := by
  by_cases hm : m = n
  · subst hm
    simpa using hr
  · rw [Function.update_of_ne hm]
    exact hothers m hm

/-- The registry of one list changes, and no verifier is registered with it. -/
theorem Sound.reorganised (hv : v.Sound) {r' : Registry (Callback (World α) α)}
    (hr : (v.registries n).TurnsInto r') (hvalid : r'.Valid)
    (hplain : ∀ entry ∈ r'.entries, entry ∈ (v.registries n).entries ∨
      ∃ name reaction, entry.2 = plainCallback name reaction) :
    v.Proceeds { v with registries := Function.update v.registries n r' } where
  sound :=
    { valid := forall_update (fun m _ => hv.valid m) hvalid
      source := forall_update (P := fun m r => r.source = m) (fun m _ => hv.source m)
        (hr.source.trans (hv.source n))
      homes := hv.homes
      attached := fun h hh =>
        (hv.attached h hh).mono (turnsInto_update hr) (hv.attached h hh).observed
      apart := hv.apart
      welcome := by
        refine forall_update (P := fun m r => ∀ entry ∈ r.entries, View.Welcome _ m entry) ?_ ?_
        · exact fun m _ entry hentry => (hv.welcome m entry hentry).of_handles id fun _ => id
        · intro entry hentry
          rcases hplain entry hentry with hold | hnew
          · exact (hv.welcome n entry hold).of_handles id fun _ => id
          · exact Or.inl hnew }
  registries := turnsInto_update hr
  gone _ := id
  started := Nat.le_refl _
  handles h hh := Or.inl ⟨h, hh, .refl h⟩
  frozen _ _ _ := rfl
  dropped h hh hnot := absurd ⟨h, hh, rfl⟩ hnot

/-- Anybody may give up an identifier, and so unsubscribe a verifier. -/
theorem Sound.unsubscribed (hv : v.Sound) (n : Nat) (id : SubscriptionId) :
    v.Proceeds
      { v with registries := Function.update v.registries n ((v.registries n).unsubscribe id).1 } :=
  hv.reorganised ((v.registries n).turnsInto_unsubscribe id) ((hv.valid n).unsubscribe id)
    fun _ hentry => Or.inl (List.mem_filter.mp hentry).1

theorem Sound.closed (hv : v.Sound) (n : Nat) :
    v.Proceeds { v with registries := Function.update v.registries n (v.registries n).close.1 } :=
  hv.reorganised (v.registries n).turnsInto_close .close fun _ hentry => nomatch hentry

/-- A plain callback is registered. -/
theorem Sound.subscribed (hv : v.Sound) {name : String} {reaction : Reaction}
    {r' : Registry (Callback (World α) α)} {id : SubscriptionId}
    (hs : (v.registries n).subscribe (plainCallback name reaction) = some (r', id)) :
    v.Proceeds { v with registries := Function.update v.registries n r' } := by
  refine hv.reorganised (Registry.turnsInto_subscribe hs) ((hv.valid n).subscribe hs) ?_
  obtain ⟨-, -, rfl⟩ := Registry.subscribe_eq_some_iff.mp hs
  intro entry hentry
  rcases List.mem_append.mp hentry with hold | hnew
  · exact Or.inl hold
  · cases List.mem_singleton.mp hnew
    exact Or.inr ⟨name, reaction, rfl⟩

/-! ## 5. Verifiers at work -/

/-- The state of a verifier that has a handle changes. -/
theorem Sound.stored (hv : v.Sound) (hh : v.handles h) (x : Verifier α) :
    v.Proceeds { v with world := v.world.storeVerifier h.number x } := by
  have hgone : ∀ n, v.world.IsGone n → (v.world.storeVerifier h.number x).IsGone n := fun n hn =>
    ⟨hn.1, (World.isAlive_storeVerifier v.world h.number x n).trans hn.2⟩
  have hsound : View.Sound { v with world := v.world.storeVerifier h.number x } := by
    refine ⟨hv.valid, hv.source, fun o ho => ?homes, fun h₀ hh₀ => ?attached, hv.apart,
      fun n entry hentry => (hv.welcome n entry hentry).of_handles (hgone n) fun _ => id⟩
    case homes =>
      obtain ⟨o₀, ho₀, rfl | rfl⟩ := World.mem_modify ho
      · exact hv.homes _ ho₀
      · exact hv.homes o₀ ho₀
    case attached =>
      refine (hv.attached h₀ hh₀).mono (fun _ => .refl _) ?_
      obtain ⟨o, ho, hkept, hcollection⟩ := (hv.attached h₀ hh₀).observed
      by_cases hnumber : h.number = h₀.number
      · exact ⟨{ o with verifier := x }, by simp [World.storeVerifier, hnumber, ho], hkept,
          hcollection⟩
      · exact ⟨o, by simp [World.storeVerifier, hnumber, ho], hkept, hcollection⟩
  refine ⟨hsound, fun _ => .refl _, hgone, by simp [World.storeVerifier],
    fun h₀ hh₀ => Or.inl ⟨h₀, hh₀, .refl h₀⟩, fun number _ hnot => ?frozen,
    fun h₀ hh₀ hnot => absurd ⟨h₀, hh₀, rfl⟩ hnot⟩
  case frozen =>
    have hne : h.number ≠ number := fun heq => hnot ⟨h, hh, heq⟩
    simp [World.storeVerifier, hne]

/-- A new verifier subscribes and gets a handle. -/
theorem Sound.started (hv : v.Sound) (x : Verifier α) {r' : Registry (Callback (World α) α)}
    {id : SubscriptionId} (hn : n < v.world.collections.length) (halive : v.world.isAlive n = true)
    (hs : (v.registries n).subscribe
      (Verifier.callback (World.site v.world.verifiers.length n)) = some (r', id)) :
    v.Proceeds
      { registries := Function.update v.registries n r'
        world := { v.world with
          verifiers := v.world.verifiers ++ [{ verifier := x, collection := n }] }
        handles := fun h => v.handles h ∨
          h = { number := v.world.verifiers.length, collection := n, subscription := { id } } } := by
  have hr := Registry.turnsInto_subscribe hs
  have hvalid := (hv.valid n).subscribe hs
  have hfresh := Registry.fresh_not_mem (hv.valid n)
  obtain ⟨-, rfl, rfl⟩ := Registry.subscribe_eq_some_iff.mp hs
  -- the only collection that the new verifier holds has existed before
  have hgone : ∀ m, v.world.IsGone m → World.IsGone
      { v.world with
        verifiers := v.world.verifiers ++ [{ verifier := x, collection := n }] } m := by
    intro m hm
    have hne : n ≠ m := by
      rintro rfl
      exact Bool.eq_false_iff.mp hm.2 halive
    have halive' := hm.2
    simp only [World.isAlive, Bool.or_eq_false_iff] at halive'
    exact ⟨hm.1, by simp [World.isAlive, halive', hne]⟩
  refine ⟨⟨forall_update (fun m _ => hv.valid m) hvalid,
    forall_update (P := fun m r => r.source = m) (fun m _ => hv.source m) (hv.source n), ?homes,
    ?attached, ?apart,
    forall_update (P := fun m r => ∀ entry ∈ r.entries, View.Welcome _ m entry) ?elsewhere ?here⟩,
    turnsInto_update hr, hgone, by simp, ?handles, ?frozen, ?dropped⟩
  case homes =>
    intro o ho
    rcases List.mem_append.mp ho with hold | hnew
    · exact hv.homes o hold
    · cases List.mem_singleton.mp hnew
      exact hn
  case attached =>
    rintro h (hh | rfl)
    · refine (hv.attached h hh).mono (turnsInto_update hr) ?_
      obtain ⟨o, ho, hrest⟩ := (hv.attached h hh).observed
      exact ⟨o, (List.getElem?_append_left (hv.number_lt hh)).trans ho, hrest⟩
    · refine ⟨⟨_, List.getElem?_concat_length, rfl, rfl⟩, hv.source n, by simp [Registry.fresh],
        (fun hactive => by cases hactive), ?_⟩
      intro callback hentry
      simp only [Function.update_self] at hentry
      rcases List.mem_append.mp hentry with hold | hnew
      · exact absurd (List.mem_map_of_mem hold) hfresh
      · exact (Prod.mk.inj (List.mem_singleton.mp hnew)).2
  case apart =>
    rintro h h' (hh | rfl) (hh' | rfl) hnumber
    · exact hv.apart h h' hh hh' hnumber
    · exact absurd hnumber (Nat.ne_of_lt (hv.number_lt hh))
    · exact absurd hnumber.symm (Nat.ne_of_lt (hv.number_lt hh'))
    · rfl
  case elsewhere =>
    exact fun m _ entry hentry => (hv.welcome m entry hentry).of_handles (hgone m) fun _ => Or.inl
  case here =>
    intro entry hentry
    rcases List.mem_append.mp hentry with hold | hnew
    · exact (hv.welcome n entry hold).of_handles (hgone n) fun _ => Or.inl
    · cases List.mem_singleton.mp hnew
      exact Or.inr ⟨_, rfl, Or.inr ⟨_, Or.inr rfl, rfl, rfl, rfl⟩⟩
  case handles =>
    rintro h (hh | rfl)
    · exact Or.inl ⟨h, hh, .refl h⟩
    · exact Or.inr (Nat.le_refl _)
  case frozen =>
    exact fun number hlt _ => List.getElem?_append_left hlt
  case dropped =>
    exact fun h hh hnot => absurd ⟨h, Or.inl hh, rfl⟩ hnot

/-- A verifier gives up its subscription and remains. -/
theorem Sound.detached (hv : v.Sound) (hh : v.handles h) :
    v.Proceeds
      { v with
        registries := Function.update v.registries h.collection
          ((v.registries h.collection).unsubscribe h.subscription.id).1
        handles := fun h' => v.handles h' ∧ h' ≠ h ∨
          h' = { h with subscription := { h.subscription with active := false } } } := by
  have hr := (v.registries h.collection).turnsInto_unsubscribe h.subscription.id
  -- the verifier keeps a handle, if not the same one
  have hhandles : ∀ h₀, v.handles h₀ → ∃ h', (v.handles h' ∧ h' ≠ h ∨
      h' = { h with subscription := { h.subscription with active := false } }) ∧ h₀.Alike h' := by
    intro h₀ hh₀
    by_cases heq : h₀ = h
    · exact ⟨_, Or.inr rfl, heq ▸ ⟨rfl, rfl, rfl⟩⟩
    · exact ⟨h₀, Or.inl ⟨hh₀, heq⟩, .refl h₀⟩
  refine ⟨⟨forall_update (fun m _ => hv.valid m) ((hv.valid _).unsubscribe _),
    forall_update (P := fun m r => r.source = m) (fun m _ => hv.source m) (hv.source _), hv.homes,
    ?attached, ?apart,
    forall_update (P := fun m r => ∀ entry ∈ r.entries, View.Welcome _ m entry) ?elsewhere ?here⟩,
    turnsInto_update hr, fun _ => id, Nat.le_refl _, ?handles, fun _ _ _ => rfl, ?dropped⟩
  case attached =>
    rintro h' (⟨hh', -⟩ | rfl)
    · exact (hv.attached h' hh').mono (turnsInto_update hr) (hv.attached h' hh').observed
    · have ha : View.Attached
          { v with
            registries := Function.update v.registries h.collection
              ((v.registries h.collection).unsubscribe h.subscription.id).1 } h :=
        (hv.attached h hh).mono (turnsInto_update hr) (hv.attached h hh).observed
      refine ⟨ha.observed, ha.source, ha.given, fun _ => ?_, ha.tracked⟩
      simpa using Registry.not_mem_ids_unsubscribe (v.registries h.collection) h.subscription.id
  case apart =>
    rintro h₁ h₂ (⟨hh₁, hne₁⟩ | rfl) (⟨hh₂, hne₂⟩ | rfl) hnumber
    · exact hv.apart h₁ h₂ hh₁ hh₂ hnumber
    · exact absurd (hv.apart h₁ h hh₁ hh hnumber) hne₁
    · exact absurd (hv.apart h h₂ hh hh₂ hnumber).symm hne₂
    · rfl
  case elsewhere =>
    exact fun m _ entry hentry =>
      (hv.welcome m entry hentry).mono id fun h₀ hh₀ _ _ => Or.inr (hhandles h₀ hh₀)
  case here =>
    exact fun entry hentry =>
      (hv.welcome _ entry (List.mem_filter.mp hentry).1).mono id fun h₀ hh₀ _ _ =>
        Or.inr (hhandles h₀ hh₀)
  case handles =>
    rintro h' (⟨hh', -⟩ | rfl)
    · exact Or.inl ⟨h', hh', .refl h'⟩
    · exact Or.inl ⟨h, hh, rfl, rfl, rfl⟩
  case dropped =>
    intro h₀ hh₀ hnot
    obtain ⟨h', hh', hsame⟩ := hhandles h₀ hh₀
    exact absurd ⟨h', hh', hsame.number.symm⟩ hnot

/-- A verifier is dropped: it lets go of its collection, and gives up its subscription if the
collection is still there. -/
theorem Sound.dropped (hv : v.Sound) (hh : v.handles h) {r' : Registry (Callback (World α) α)}
    (hr' : r' = ((v.registries h.collection).unsubscribe h.subscription.id).1 ∨
      r' = v.registries h.collection ∧
        (v.world.without h.number).isAlive h.collection = false) :
    v.Proceeds
      { registries := Function.update v.registries h.collection r'
        world := v.world.without h.number
        handles := fun h' => v.handles h' ∧ h' ≠ h } := by
  have hr : (v.registries h.collection).TurnsInto r' := by
    rcases hr' with rfl | ⟨rfl, -⟩
    · exact (v.registries h.collection).turnsInto_unsubscribe h.subscription.id
    · exact .refl _
  have hvalid : r'.Valid := by
    rcases hr' with rfl | ⟨rfl, -⟩
    · exact (hv.valid _).unsubscribe _
    · exact hv.valid _
  -- if the callback is still there, its collection is not
  have hleft : ∀ entry ∈ r'.entries, entry.1 = h.subscription.id →
      (v.world.without h.number).IsGone h.collection := by
    intro entry hentry hid
    rcases hr' with rfl | ⟨rfl, hdead⟩
    · have hne := (List.mem_filter.mp hentry).2
      simp [hid] at hne
    · obtain ⟨o, ho, -, hcollection⟩ := (hv.attached h hh).observed
      exact ⟨hcollection ▸ hv.homes o (List.mem_of_getElem? ho), hdead⟩
  refine ⟨⟨forall_update (fun m _ => hv.valid m) hvalid,
    forall_update (P := fun m r => r.source = m) (fun m _ => hv.source m)
      (hr.source.trans (hv.source _)), ?homes, ?attached, ?apart,
    forall_update (P := fun m r => ∀ entry ∈ r.entries, View.Welcome _ m entry) ?elsewhere ?here⟩,
    turnsInto_update hr, fun m => World.isGone_without h.number, by simp [World.without],
    ?handles, ?frozen, ?dropped⟩
  case homes =>
    intro o ho
    obtain ⟨o₀, ho₀, rfl | rfl⟩ := World.mem_modify ho
    · exact hv.homes _ ho₀
    · exact hv.homes o₀ ho₀
  case attached =>
    rintro h' ⟨hh', hne⟩
    refine (hv.attached h' hh').mono (turnsInto_update hr) ?_
    obtain ⟨o, ho, hrest⟩ := (hv.attached h' hh').observed
    have hnumber : h.number ≠ h'.number := fun heq => hne (hv.apart h' h hh' hh heq.symm)
    exact ⟨o, by simp [World.without, hnumber, ho], hrest⟩
  case apart =>
    exact fun h₁ h₂ hh₁ hh₂ => hv.apart h₁ h₂ hh₁.1 hh₂.1
  case elsewhere =>
    intro m hm entry hentry
    refine (hv.welcome m entry hentry).mono (World.isGone_without h.number)
      fun h₀ hh₀ hcollection _ => ?_
    have hne : h₀ ≠ h := by
      rintro rfl
      exact hm hcollection.symm
    exact Or.inr ⟨h₀, ⟨hh₀, hne⟩, .refl h₀⟩
  case here =>
    intro entry hentry
    have hold : entry ∈ (v.registries h.collection).entries := by
      rcases hr' with rfl | ⟨rfl, -⟩
      · exact (List.mem_filter.mp hentry).1
      · exact hentry
    refine (hv.welcome _ entry hold).mono (World.isGone_without h.number) fun h₀ hh₀ _ hid => ?_
    by_cases heq : h₀ = h
    · exact Or.inl (hleft entry hentry (heq ▸ hid).symm)
    · exact Or.inr ⟨h₀, ⟨hh₀, heq⟩, .refl h₀⟩
  case handles =>
    exact fun h' hh' => Or.inl ⟨h', hh'.1, .refl h'⟩
  case frozen =>
    intro number _ hnot
    have hne : h.number ≠ number := fun heq => hnot ⟨h, hh, heq⟩
    simp [World.without, hne]
  case dropped =>
    intro h₀ hh₀ hnot hid
    have heq : h₀ = h := by
      by_contra hne
      exact hnot ⟨h₀, ⟨hh₀, hne⟩, rfl⟩
    subst heq
    obtain ⟨entry, hentry, hentryid⟩ := List.mem_map.mp hid
    exact hleft entry (by simpa using hentry) hentryid

end View

end Workbench

end ChangeAudit
