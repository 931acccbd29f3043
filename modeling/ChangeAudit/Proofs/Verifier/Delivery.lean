/-
# How a report reaches a verifier

A verifier shares a list with other observers.  They are called in between, may do anything to the
registry, and have the rest of the world to themselves; the verifier itself they may ask and
relieve of the violations it keeps, but they leave its shadow and its counters alone
(`Verifier.LeftAlone`).

If none of them panics either (`Undisturbed`), then a registered verifier is told of a report
exactly once, with the contents of the list right after the change, wherever it stands among the
callbacks and whatever the others do to the registry meanwhile
(`ObservableList.callAll_of_registered`).
-/
import ChangeAudit.Proofs.Observers.Reports
import ChangeAudit.Verifier.Callback

namespace ChangeAudit

variable {τ α : Type}

/-! ## 1. A verifier and the rest of the world -/

/-- A verifier whose collection is the list itself; `τ` is the rest of the world. -/
def Site.direct : Site (Verifier α × τ) α where
  find w := some w.1
  store v w := (v, w.2)
  read contents w := (contents, w)

namespace Verifier

/-- `v'` is `v`, but for violations that were taken. -/
structure LeftAlone (v v' : Verifier α) : Prop where
  config : v'.config = v.config
  shadow : v'.shadow = v.shadow
  stats : v'.stats = v.stats
  violations : v'.violations ⊆ v.violations

theorem LeftAlone.refl (v : Verifier α) : v.LeftAlone v :=
  ⟨rfl, rfl, rfl, List.Subset.refl _⟩

theorem LeftAlone.trans {v v' v'' : Verifier α} (h : v.LeftAlone v') (h' : v'.LeftAlone v'') :
    v.LeftAlone v'' :=
  ⟨h'.config.trans h.config, h'.shadow.trans h.shadow, h'.stats.trans h.stats,
    List.Subset.trans h'.violations h.violations⟩

theorem LeftAlone.violations_eq_nil {v v' : Verifier α} (h : v.LeftAlone v')
    (hv : v.violations = []) : v'.violations = [] := by
  have hnone := h.violations
  rw [hv] at hnone
  exact List.subset_nil.mp hnone

/-- What a verifier reads of the contents when a report comes. -/
def liveFor (v : Verifier α) (contents : List α) : Option (List α) :=
  if v.config.verifyOnChange then some contents else none

/-- The mismatch that a notification finds, whatever then becomes of it; `contents` is what the
list holds right after the change. -/
def finding [BEq α] (v : Verifier α) (contents : List α) (c : Change α) : Option (Mismatch α) :=
  (v.replay (v.liveFor contents) c).mismatch

/-- The effect of a notification. -/
def told [BEq α] (v : Verifier α) (contents : List α) (c : Change α) : Replayed α :=
  v.notify (v.liveFor contents) c

section Told

variable [BEq α] (v : Verifier α) (contents : List α) (c : Change α)

theorem finding_eq : v.finding contents c =
    (v.liveFor contents).bind fun live =>
      compare (v.shadow.apply c).1.items live v.config.comparison v.config.label := rfl

theorem told_config : (v.told contents c).verifier.config = v.config :=
  v.notify_config (v.liveFor contents) c

theorem told_shadow : (v.told contents c).verifier.shadow = (v.shadow.apply c).1 :=
  v.notify_shadow (v.liveFor contents) c

theorem told_stats :
    (v.told contents c).verifier.stats = v.stats.record (v.shadow.apply c).2 :=
  v.notify_stats (v.liveFor contents) c

/-- What is found is left to panic with, unless it is kept. -/
theorem told_mismatch : (v.told contents c).mismatch =
    match v.config.onMismatch with
    | .panic => v.finding contents c
    | .record => none := by
  rw [told, notify, finding]
  cases hm : (v.replay (v.liveFor contents) c).mismatch with
  | none => cases v.config.onMismatch <;> exact hm
  | some m =>
    cases v.config.onMismatch with
    | panic => exact hm
    | record => rfl

/-- What is found is kept if the settings say so. -/
theorem told_violations : (v.told contents c).verifier.violations =
    v.violations ++ match v.config.onMismatch with
      | .panic => []
      | .record => (v.finding contents c).toList := by
  rw [told, notify, finding]
  cases hm : (v.replay (v.liveFor contents) c).mismatch with
  | none => cases v.config.onMismatch <;> exact (List.append_nil _).symm
  | some m =>
    cases v.config.onMismatch with
    | panic => exact (List.append_nil _).symm
    | record => rfl

variable {v contents c}

/-- Nothing becomes of a notification that finds nothing. -/
theorem told_of_finding_eq_none (h : v.finding contents c = none) :
    (v.told contents c).mismatch = none ∧
      (v.told contents c).verifier.violations = v.violations := by
  constructor
  · rw [told_mismatch, h]
    cases v.config.onMismatch <;> rfl
  · rw [told_violations, h]
    cases v.config.onMismatch <;> exact List.append_nil _

end Told

/-- Violations that were taken beforehand make no other difference to a notification. -/
theorem LeftAlone.told [BEq α] {v v' : Verifier α} (h : v.LeftAlone v') (contents : List α)
    (c : Change α) : (v.told contents c).verifier.LeftAlone (v'.told contents c).verifier ∧
      (v'.told contents c).mismatch = (v.told contents c).mismatch := by
  have hfinding : v'.finding contents c = v.finding contents c := by
    rw [finding_eq, finding_eq, liveFor, liveFor, h.shadow, h.config]
  refine ⟨⟨?_, ?_, ?_, ?_⟩, ?_⟩
  · rw [told_config, told_config, h.config]
  · rw [told_shadow, told_shadow, h.shadow]
  · rw [told_stats, told_stats, h.stats, h.shadow]
  · rw [told_violations, told_violations, h.config, hfinding]
    exact List.append_subset.mpr
      ⟨List.Subset.trans h.violations (List.subset_append_left _ _), List.subset_append_right _ _⟩
  · rw [told_mismatch, told_mismatch, h.config, hfinding]

end Verifier

section Callback

variable {σ : Type}

/-- What is read for a verifier is what the collection gives, if the verifier wants it. -/
theorem Site.readFor_fst (site : Site σ α) (v : Verifier α) (contents : List α) (w : σ) :
    (site.readFor v contents w).1 = v.liveFor (site.read contents w).1 := by
  rw [readFor, Verifier.liveFor]
  split <;> rfl

variable [BEq α] [Element α]

/-- What the callback of a verifier does to the scene, and the panic that it ends in. -/
theorem Verifier.callback_run_of_found {site : Site σ α} {s : Scene σ α} {v : Verifier α}
    (h : site.find s.world = some v) (id : SubscriptionId) (c : Change α) (contents : List α) :
    (Verifier.callback site id c contents).run s =
      let r := v.told (site.read contents s.world).1 c
      ({ s with world := site.store r.verifier (site.readFor v contents s.world).2 }.note r.log,
        r.mismatch.map fun m => .raised m.text) := by
  simp only [callback, Script.run, h, site.readFor_fst, told]
  cases (v.notify (v.liveFor (site.read contents s.world).1) c).mismatch <;> rfl

/-- The same, of a verifier whose collection is the list itself. -/
theorem Verifier.callback_run (id : SubscriptionId) (c : Change α) (contents : List α)
    (s : Scene (Verifier α × τ) α) :
    ((Verifier.callback Site.direct id c contents).run s).1.world =
        ((s.world.1.told contents c).verifier, s.world.2) ∧
      ((Verifier.callback Site.direct id c contents).run s).2 =
        (s.world.1.told contents c).mismatch.map fun m => .raised m.text := by
  have hfind : Site.direct.find s.world = some s.world.1 := rfl
  have hworld : (Site.direct.readFor s.world.1 contents s.world).2 = s.world := by
    rw [Site.readFor]
    split <;> rfl
  rw [callback_run_of_found hfind id c contents, hworld]
  exact ⟨rfl, rfl⟩

end Callback

/-! ## 2. The others are called, too -/

/-- While a report is delivered, every callback but the one under `id` returns, and leaves the
verifier alone. -/
def Undisturbed (id : SubscriptionId) (c : Change α) (contents : List α) :
    List (SubscriptionId × Callback (Verifier α × τ) α) → Scene (Verifier α × τ) α → Prop
  | [], _ => True
  | (other, callback) :: rest, s =>
    let out := (callback other c contents).run s
    (other ≠ id → out.2 = none ∧ s.world.1.LeftAlone out.1.world.1) ∧
      (out.2 = none → Undisturbed id c contents rest out.1)

namespace ObservableList

variable {id : SubscriptionId} {c : Change α} {contents : List α}

/-- Where the verifier is not among the callbacks, nobody panics and it is left alone. -/
theorem callAll_of_absent {entries : List (SubscriptionId × Callback (Verifier α × τ) α)}
    {s : Scene (Verifier α × τ) α} (hid : id ∉ entries.map (·.1))
    (hu : Undisturbed id c contents entries s) :
    (callAll c contents entries s).2.2 = none ∧
      s.world.1.LeftAlone (callAll c contents entries s).1.world.1 := by
  induction entries generalizing s with
  | nil => exact ⟨rfl, .refl _⟩
  | cons entry rest ih =>
    obtain ⟨other, callback⟩ := entry
    rw [List.map_cons, List.mem_cons, not_or] at hid
    obtain ⟨hother, hrest⟩ := hu
    obtain ⟨hreturns, halone⟩ := hother fun h => hid.1 h.symm
    obtain ⟨hscene, -, hpanic⟩ := callAll_cons_of_returns rest hreturns
    obtain ⟨hquiet, halone'⟩ := ih hid.2 (hrest hreturns)
    rw [hscene, hpanic]
    exact ⟨hquiet, halone.trans halone'⟩

/-- **A registered verifier is told exactly once**, with the contents after the change; and the
delivery ends in a panic only if the verifier does. -/
theorem callAll_of_registered [BEq α] [Element α]
    {entries : List (SubscriptionId × Callback (Verifier α × τ) α)}
    {s : Scene (Verifier α × τ) α} (hid : (id, Verifier.callback Site.direct) ∈ entries)
    (hnodup : (entries.map (·.1)).Nodup) (hu : Undisturbed id c contents entries s) :
    (s.world.1.told contents c).verifier.LeftAlone (callAll c contents entries s).1.world.1 ∧
      (callAll c contents entries s).2.2 =
        (s.world.1.told contents c).mismatch.map fun m => .raised m.text := by
  induction entries generalizing s with
  | nil => cases hid
  | cons entry rest ih =>
    obtain ⟨other, callback⟩ := entry
    rw [List.map_cons, List.nodup_cons] at hnodup
    obtain ⟨hother, hrest⟩ := hu
    rcases List.mem_cons.mp hid with heq | hmem
    · -- the verifier's turn: after it come only others
      obtain ⟨rfl, rfl⟩ := Prod.mk.inj heq
      obtain ⟨hworld, hend⟩ := Verifier.callback_run id c contents s
      cases hm : (s.world.1.told contents c).mismatch with
      | none =>
        rw [hm] at hend
        obtain ⟨hscene, -, hpanic⟩ := callAll_cons_of_returns rest hend
        obtain ⟨hquiet, halone⟩ := callAll_of_absent hnodup.1 (hrest hend)
        rw [hworld] at halone
        rw [hscene, hpanic]
        exact ⟨halone, hquiet⟩
      | some m =>
        rw [hm] at hend
        obtain ⟨hscene, hpanic⟩ := callAll_cons_of_panics rest hend
        rw [hscene, hpanic, hworld]
        exact ⟨.refl _, rfl⟩
    · -- somebody else's turn
      have hne : other ≠ id := by
        rintro rfl
        exact hnodup.1 (List.mem_map_of_mem (f := (·.1)) hmem)
      obtain ⟨hreturns, halone⟩ := hother hne
      obtain ⟨hscene, -, hpanic⟩ := callAll_cons_of_returns rest hreturns
      obtain ⟨htold, hmismatch⟩ := halone.told contents c
      obtain ⟨halone', hend⟩ := ih hmem hnodup.2 (hrest hreturns)
      rw [hscene, hpanic, hend, hmismatch]
      exact ⟨htold.trans halone', rfl⟩

end ObservableList

end ChangeAudit
