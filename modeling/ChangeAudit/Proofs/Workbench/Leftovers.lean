/-
# Callbacks that were left behind

While a report is made, callbacks change the registry of the list and the world.  They are plain
ones and those of verifiers, so registries, world and handles go on fitting together whatever they
do (`View.Sound.report`).

The callback of a verifier whose collection is gone is called like any other, and does nothing
(`IdleIn`, `View.Sound.idleIn`).
-/
import ChangeAudit.Proofs.Workbench.Views

namespace ChangeAudit

/-! ## 1. Idle callbacks -/

/-- While a change is reported to these callbacks, the one under `id` does nothing whenever it is
called: it leaves everything as it finds it, and returns. -/
def IdleIn {σ α : Type} (id : SubscriptionId) (c : Change α) (contents : List α) :
    List (SubscriptionId × Callback σ α) → Scene σ α → Prop
  | [], _ => True
  | (other, callback) :: rest, s =>
    (other = id → (callback other c contents).run s = (s, none)) ∧
      (((callback other c contents).run s).2 = none →
        IdleIn id c contents rest ((callback other c contents).run s).1)

namespace Workbench

variable {α : Type}

/-! ## 2. Scenes and views -/

namespace View

variable {v : View α} {n : Nat} {s : Scene (World α) α}

/-- A report on the list of number `n` has come to this scene. -/
structure Shows (v : View α) (n : Nat) (s : Scene (World α) α) : Prop where
  registry : v.registries n = s.registry
  world : v.world = s.world

/-- What is left when a report on the list of number `n` has come to this scene. -/
def withScene (v : View α) (n : Nat) (s : Scene (World α) α) : View α where
  registries := Function.update v.registries n s.registry
  world := s.world
  handles := v.handles

theorem withScene_of_registry (hs : s.registry = v.registries n) :
    v.withScene n s = { v with world := s.world } := by
  rw [withScene, hs, Function.update_eq_self]

theorem Shows.withScene_eq (hs : v.Shows n s) : v.withScene n s = v := by
  rw [withScene_of_registry hs.registry.symm, ← hs.world]

theorem shows_withScene (v : View α) (n : Nat) (s : Scene (World α) α) :
    (v.withScene n s).Shows n s :=
  ⟨Function.update_self .., rfl⟩

theorem withScene_withScene (v : View α) (n : Nat) (s s' : Scene (World α) α) :
    (v.withScene n s).withScene n s' = v.withScene n s' := by
  simp [withScene]

variable [BEq α] [Element α] {id : SubscriptionId} {c : Change α} {contents : List α}

/-! ## 3. One callback -/

/-- What a plain callback does after it has written down its delivery. -/
theorem Sound.react (hv : v.Sound) (hs : v.Shows n s) (name : String) (reaction : Reaction)
    (id : SubscriptionId) :
    v.Proceeds (v.withScene n ((reaction.script name id).run s).1) := by
  obtain ⟨registry, world, log⟩ := s
  obtain ⟨rfl, rfl⟩ := hs
  cases reaction with
  | record | panic =>
    change v.Proceeds (v.withScene n ⟨v.registries n, v.world, log⟩)
    rw [withScene_of_registry rfl]
    exact hv.refl
  | once => exact hv.unsubscribed n id
  | close => exact hv.closed n
  | spawn =>
    have hspawned : (recording (spawnedName name) fun _ => .done : Callback (World α) α) =
        plainCallback (spawnedName name) .record := rfl
    simp only [Reaction.script, hspawned, Script.run, Scene.subscribe]
    split
    · rw [withScene_of_registry rfl]
      exact hv.refl
    · rename_i hsub
      exact hv.subscribed hsub

/-- A plain callback is called. -/
theorem Sound.plain (hv : v.Sound) (hs : v.Shows n s) (name : String) (reaction : Reaction)
    (id : SubscriptionId) (c : Change α) (contents : List α) :
    v.Proceeds (v.withScene n ((plainCallback name reaction id c contents).run s).1) := by
  have hdelivered : v.Proceeds
      { v with world := s.world.deliver name { change := c, size := contents.length } } :=
    hv.passes (hs.world ▸ World.passes_of_eq rfl rfl)
  have hreacted := hdelivered.sound.react (n := n)
    (s := { s with world := s.world.deliver name { change := c, size := contents.length } })
    ⟨hs.registry, rfl⟩ name reaction id
  exact hdelivered.trans hv hreacted

omit [BEq α] [Element α] in
theorem passes_readFor (w : World α) (number n : Nat) (x : Verifier α) (contents : List α) :
    w.Passes ((World.site number n).readFor x contents w).2 := by
  rw [Site.readFor]
  split
  · exact w.passes_read n contents
  · exact .refl w

/-- The callback of a verifier is called. -/
theorem Sound.tracking (hv : v.Sound) (hs : v.Shows n s) {number : Nat}
    (hwelcome : v.world.IsGone n ∨ ∃ h, v.handles h ∧ h.number = number)
    (id : SubscriptionId) (c : Change α) (contents : List α) :
    v.Proceeds
      (v.withScene n ((Verifier.callback (World.site number n) id c contents).run s).1) := by
  obtain ⟨registry, world, log⟩ := s
  obtain ⟨rfl, rfl⟩ := hs
  cases hfind : (World.site number n : Site (World α) α).find v.world with
  | none =>
    simp only [Verifier.callback, Script.run, hfind]
    rw [withScene_of_registry rfl]
    exact hv.refl
  | some x =>
    have hkept : ∃ h, v.handles h ∧ h.number = number := by
      refine hwelcome.resolve_left fun hgone => ?_
      simp only [World.site, hgone.2] at hfind
      cases hfind
    obtain ⟨h, hh, rfl⟩ := hkept
    rw [Verifier.callback_run_of_found hfind, withScene_of_registry rfl]
    have hread := hv.passes (passes_readFor v.world h.number n x contents)
    exact hread.trans hv (hread.sound.stored hh _)

/-- A callback that is welcome is called. -/
theorem Sound.call (hv : v.Sound) (hs : v.Shows n s)
    {entry : SubscriptionId × Callback (World α) α} (hwelcome : v.Welcome n entry) (c : Change α)
    (contents : List α) :
    v.Proceeds (v.withScene n ((entry.2 entry.1 c contents).run s).1) := by
  obtain ⟨id, callback⟩ := entry
  rcases hwelcome with ⟨name, reaction, rfl⟩ | ⟨number, rfl, hreason⟩
  · exact hv.plain hs name reaction id c contents
  · exact hv.tracking hs (hreason.imp_right fun ⟨h, hh, hnumber, _⟩ => ⟨h, hh, hnumber⟩) id c
      contents

/-! ## 4. All callbacks -/

/-- **Whatever the callbacks do, everything goes on fitting together.** -/
theorem Sound.callAll (hv : v.Sound) (hs : v.Shows n s) (c : Change α) (contents : List α)
    {entries : List (SubscriptionId × Callback (World α) α)}
    (hwelcome : ∀ entry ∈ entries, v.Welcome n entry) :
    v.Proceeds (v.withScene n (ObservableList.callAll c contents entries s).1) := by
  induction entries generalizing v s with
  | nil =>
    rw [ObservableList.callAll, hs.withScene_eq]
    exact hv.refl
  | cons entry rest ih =>
    have hfirst := hv.call hs (hwelcome entry List.mem_cons_self) c contents
    cases hrun : ((entry.2 entry.1 c contents).run s).2 with
    | some cause =>
      rw [(ObservableList.callAll_cons_of_panics rest hrun).1]
      exact hfirst
    | none =>
      have hrest := ih hfirst.sound (shows_withScene v n _) fun other hother =>
        (hwelcome other (List.mem_cons_of_mem _ hother)).of_handles (hfirst.gone n) fun _ hh => hh
      rw [withScene_withScene] at hrest
      rw [(ObservableList.callAll_cons_of_returns rest hrun).1]
      exact hfirst.trans hv hrest

/-- **The callback of a verifier whose collection is gone does nothing.** -/
theorem Sound.idleIn (hv : v.Sound) (hs : v.Shows n s) (number : Nat) (id : SubscriptionId)
    (c : Change α) (contents : List α) {entries : List (SubscriptionId × Callback (World α) α)}
    (hwelcome : ∀ entry ∈ entries, v.Welcome n entry)
    (hleft : ∀ callback, (id, callback) ∈ entries →
      v.world.IsGone n ∧ callback = Verifier.callback (World.site number n)) :
    IdleIn id c contents entries s := by
  induction entries generalizing v s with
  | nil => exact trivial
  | cons entry rest ih =>
    obtain ⟨other, callback⟩ := entry
    refine ⟨?_, fun _ => ?_⟩
    · rintro rfl
      obtain ⟨hgone, rfl⟩ := hleft callback List.mem_cons_self
      have hfind : (World.site number n : Site (World α) α).find s.world = none := by
        simp [World.site, ← hs.world, hgone.2]
      simp only [Verifier.callback, Script.run, hfind]
    · have hfirst := hv.call hs (hwelcome _ List.mem_cons_self) c contents
      refine ih hfirst.sound (shows_withScene v n _) (fun other hother => ?_)
        fun callback hentry => ?_
      · exact (hwelcome other (List.mem_cons_of_mem _ hother)).of_handles (hfirst.gone n)
          fun _ hh => hh
      · exact (hleft callback (List.mem_cons_of_mem _ hentry)).imp_left (hfirst.gone n)

end View

end Workbench

end ChangeAudit
