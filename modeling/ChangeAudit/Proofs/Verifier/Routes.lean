/-
# All ways of reporting agree

A change reaches a verifier through its subscription or by hand (`Route`).  In between the verifier
is asked to compare, or relieved of the mismatches that it keeps (`Use`).  One use follows another
in any order, and anything else may happen meanwhile that leaves the verifier alone
(`Site.History`).

What a verifier tracks is decided by its first contents and by the changes: not by its collection
or its settings, nor by the routes (`Site.History.find_eq`).  A mismatch that one route panics
with is what another keeps, and what the caller of a third is told (`Site.Uncovers`).  So two
verifiers of different collections, with different settings, whose changes came by different
routes, agree in all of this (`reports_agree`).
-/
import ChangeAudit.Proofs.Verifier.Delivery
import ChangeAudit.Workbench.Run

namespace ChangeAudit

variable {σ α : Type}

/-! ## 1. Using a verifier -/

/-- How a change reaches a verifier. -/
inductive Route where
  /-- Through the subscription under this identifier. -/
  | subscription (id : SubscriptionId)
  | byHand

/-- What is done with a verifier, while the list of its collection has the given contents. -/
inductive Use (α : Type) where
  | report (route : Route) (contents : List α) (c : Change α)
  | verify (contents : List α)
  | takeViolations

/-- The change that a use reports. -/
def Use.change? : Use α → Option (Change α)
  | .report _ _ c => some c
  | .verify _ | .takeViolations => none

/-- The effect of a use. -/
structure Used (σ α : Type) where
  scene : Scene σ α
  /-- The mismatch that the caller is told of. -/
  error : Option (Mismatch α) := none
  /-- The panic that the callback ends in. -/
  panic : Option Panic := none
  taken : List (Mismatch α) := []

namespace Site

/-- A verifier that was stored is found again, and reading the collection does not touch it. -/
structure Lawful (site : Site σ α) : Prop where
  find_store : ∀ {w v}, site.find w = some v → ∀ v', site.find (site.store v' w) = some v'
  find_read : ∀ contents w, site.find (site.read contents w).2 = site.find w

variable [BEq α] [Element α]

/-- Uses the verifier at a site. -/
def use (site : Site σ α) (s : Scene σ α) : Use α → Used σ α
  | .report (.subscription id) contents c =>
    let (scene, panic) := (Verifier.callback site id c contents).run s
    { scene, panic }
  | .report .byHand contents c =>
    match site.find s.world with
    | none => { scene := s }
    | some v =>
      let (live, world) := site.readFor v contents s.world
      let r := v.replay live c
      { scene := { s with world := site.store r.verifier world }.note r.log, error := r.mismatch }
  | .verify contents =>
    match site.find s.world with
    | none => { scene := s }
    | some v =>
      let (live, world) := site.read contents s.world
      let (error, log) := v.verify live
      { scene := { s with world }.note log, error }
  | .takeViolations =>
    match site.find s.world with
    | none => { scene := s }
    | some v =>
      let (v, taken) := v.takeViolations
      { scene := { s with world := site.store v s.world }, taken }

/-- What a use gives a verifier with these settings to keep: what comes through the subscription
counts, under the recording policy, with the mismatch that the caller would be told of if it came
by hand. -/
def kept (site : Site σ α) (config : Config) (s : Scene σ α) : Use α → List (Mismatch α)
  | .report (.subscription _) contents c =>
    match config.onMismatch with
    | .panic => []
    | .record => (site.use s (.report .byHand contents c)).error.toList
  | .report .byHand _ _ | .verify _ | .takeViolations => []

end Site

/-- What is remembered of the uses of a verifier. -/
structure Uses (α : Type) where
  /-- The changes that were reported. -/
  changes : List (Change α) := []
  /-- What there was to keep. -/
  kept : List (Mismatch α) := []
  /-- What was taken. -/
  taken : List (Mismatch α) := []

namespace Site

variable [BEq α] [Element α]

/-- What is remembered after one more use. -/
def entered (site : Site σ α) (config : Config) (s : Scene σ α) (u : Use α) (k : Uses α) :
    Uses α where
  changes := k.changes ++ u.change?.toList
  kept := k.kept ++ site.kept config s u
  taken := k.taken ++ (site.use s u).taken

/-- What can become of a verifier that started with these settings from these contents. -/
inductive History (site : Site σ α) (config : Config) (items : List α) :
    Uses α → Scene σ α → Prop where
  | start {s : Scene σ α} (h : site.find s.world = some (.ofSnapshot config items)) :
      History site config items {} s
  | use {k : Uses α} {s : Scene σ α} (h : History site config items k s) (u : Use α) :
      History site config items (site.entered config s u k) (site.use s u).scene
  /-- Something else happens, which leaves the verifier alone. -/
  | aside {k : Uses α} {s s' : Scene σ α} (h : History site config items k s)
      (hfind : site.find s'.world = site.find s.world) : History site config items k s'

/-! ## 2. One use -/

/-- The mismatches that the verifier at a site keeps. -/
def violations? (site : Site σ α) (s : Scene σ α) : Option (List (Mismatch α)) :=
  (site.find s.world).map (·.violations)

/-- The scene after a change was replayed. -/
def absorbed (site : Site σ α) (s : Scene σ α) (v : Verifier α) (contents : List α)
    (r : Replayed α) : Scene σ α :=
  { s with world := site.store r.verifier (site.readFor v contents s.world).2 }.note r.log

variable {site : Site σ α} {config : Config} {items : List α} {s : Scene σ α} {v : Verifier α}
  {contents : List α} {c : Change α} {k : Uses α}

omit [BEq α] [Element α] in
theorem find_absorbed (hsite : site.Lawful) (hv : site.find s.world = some v) (contents : List α)
    (r : Replayed α) : site.find (site.absorbed s v contents r).world = some r.verifier := by
  have hread : site.find (site.readFor v contents s.world).2 = some v := by
    rw [readFor]
    split
    · exact (hsite.find_read contents s.world).trans hv
    · exact hv
  exact hsite.find_store hread r.verifier

/-- What a change does that comes through the subscription. -/
theorem use_subscription (hv : site.find s.world = some v) (id : SubscriptionId) :
    site.use s (.report (.subscription id) contents c) =
      { scene := site.absorbed s v contents (v.told (site.read contents s.world).1 c)
        panic := (v.told (site.read contents s.world).1 c).mismatch.map fun m =>
          .raised m.text } := by
  rw [use, Verifier.callback_run_of_found hv]
  rfl

/-- What a change does that is replayed by hand. -/
theorem use_byHand (hv : site.find s.world = some v) :
    site.use s (.report .byHand contents c) =
      { scene := site.absorbed s v contents
          (v.replay (v.liveFor (site.read contents s.world).1) c)
        error := v.finding (site.read contents s.world).1 c } := by
  simp only [use, hv, readFor_fst, Verifier.finding, absorbed]

theorem use_verify (hv : site.find s.world = some v) :
    site.use s (.verify contents) =
      { scene := { s with world := (site.read contents s.world).2 }.note
          (v.verify (site.read contents s.world).1).2
        error := v.check (site.read contents s.world).1 } := by
  simp only [use, hv, Verifier.verify]

theorem use_takeViolations (hv : site.find s.world = some v) :
    site.use s .takeViolations =
      { scene := { s with world := site.store { v with violations := [] } s.world }
        taken := v.violations } := by
  simp only [use, hv, Verifier.takeViolations]

end Site

namespace Verifier

/-- What a verifier tracks: its shadow and its counters. -/
def progress (v : Verifier α) : Shadow α × VerifierStats := (v.shadow, v.stats)

variable [BEq α]

/-- What is tracked after one more change. -/
def advance (p : Shadow α × VerifierStats) (c : Change α) : Shadow α × VerifierStats :=
  ((p.1.apply c).1, p.2.record (p.1.apply c).2)

/-- What a verifier tracks that started from these contents, once it has seen these changes. -/
def tracked (items : List α) (cs : List (Change α)) : Shadow α × VerifierStats :=
  cs.foldl advance (⟨items⟩, {})

theorem told_progress (v : Verifier α) (contents : List α) (c : Change α) :
    (v.told contents c).verifier.progress = advance v.progress c :=
  Prod.ext (v.told_shadow contents c) (v.told_stats contents c)

end Verifier

namespace Site

variable [BEq α] [Element α]

/-- What a use makes of a verifier. -/
structure Moves (site : Site σ α) (s : Scene σ α) (u : Use α) (v v' : Verifier α) : Prop where
  config : v'.config = v.config
  progress : v'.progress = u.change?.toList.foldl Verifier.advance v.progress
  violations : (site.use s u).taken ++ v'.violations = v.violations ++ site.kept v.config s u

variable {site : Site σ α} {config : Config} {items : List α} {s : Scene σ α} {v : Verifier α}
  {contents : List α} {c : Change α} {k : Uses α}

/-- **One use**: only a change moves what is tracked, and only one that comes through the
subscription can add to the violations. -/
theorem find_use (hsite : site.Lawful) (hv : site.find s.world = some v) (u : Use α) :
    ∃ v', site.find (site.use s u).scene.world = some v' ∧ site.Moves s u v v' := by
  cases u with
  | report route contents c =>
    cases route with
    | subscription id =>
      rw [use_subscription hv]
      refine ⟨_, find_absorbed hsite hv contents _, v.told_config _ c, v.told_progress _ c, ?_⟩
      have hviolations := v.told_violations (site.read contents s.world).1 c
      rw [use_subscription hv, kept, use_byHand hv]
      cases hpolicy : v.config.onMismatch with
      | panic =>
        rw [hpolicy] at hviolations
        exact hviolations
      | record =>
        rw [hpolicy] at hviolations
        exact hviolations
    | byHand =>
      rw [use_byHand hv]
      refine ⟨_, find_absorbed hsite hv contents _, rfl, rfl, ?_⟩
      rw [use_byHand hv]
      exact (List.append_nil _).symm
  | verify contents =>
    rw [use_verify hv]
    refine ⟨v, (hsite.find_read contents s.world).trans hv, rfl, rfl, ?_⟩
    rw [use_verify hv]
    exact (List.append_nil _).symm
  | takeViolations =>
    rw [use_takeViolations hv]
    refine ⟨_, hsite.find_store hv _, rfl, rfl, ?_⟩
    rw [use_takeViolations hv]
    rfl

/-- What a use leaves for the verifier to keep, if nothing is taken. -/
theorem violations?_use (hsite : site.Lawful) (hv : site.find s.world = some v) {u : Use α}
    (htaken : (site.use s u).taken = []) :
    site.violations? (site.use s u).scene =
      (site.violations? s).map (· ++ site.kept v.config s u) := by
  obtain ⟨v', hv', hmoves⟩ := find_use hsite hv u
  have hviolations := hmoves.violations
  rw [htaken, List.nil_append] at hviolations
  rw [violations?, violations?, hv, hv', Option.map_some, Option.map_some, Option.map_some,
    hviolations]

/-- The violations stay as they are where there is nothing to take and nothing to keep. -/
theorem violations?_use_of_kept_eq_nil (hsite : site.Lawful) (hv : site.find s.world = some v)
    {u : Use α} (htaken : (site.use s u).taken = []) (hkept : site.kept v.config s u = []) :
    site.violations? (site.use s u).scene = site.violations? s := by
  rw [violations?_use hsite hv htaken, hkept]
  simp only [List.append_nil, Option.map_id']

/-- Replaying by hand adds nothing to the violations. -/
theorem violations?_byHand (hsite : site.Lawful) (hv : site.find s.world = some v)
    (contents : List α) (c : Change α) :
    site.violations? (site.use s (.report .byHand contents c)).scene = site.violations? s :=
  violations?_use_of_kept_eq_nil hsite hv (by rw [use_byHand hv]) rfl

/-- Nor does asking. -/
theorem violations?_verify (hsite : site.Lawful) (hv : site.find s.world = some v)
    (contents : List α) :
    site.violations? (site.use s (.verify contents)).scene = site.violations? s :=
  violations?_use_of_kept_eq_nil hsite hv (by rw [use_verify hv]) rfl

/-! ## 3. All uses -/

/-- **What a verifier tracks is decided by its first contents and the changes.**  And whatever
there was to keep was taken, or is kept, once and in order. -/
theorem History.find_eq (h : site.History config items k s) (hsite : site.Lawful) :
    ∃ v, site.find s.world = some v ∧ v.config = config ∧
      v.progress = Verifier.tracked items k.changes ∧ k.taken ++ v.violations = k.kept := by
  induction h with
  | start h => exact ⟨_, h, rfl, rfl, rfl⟩
  | @use k s h u ih =>
    obtain ⟨v, hv, hconfig, hprogress, hkept⟩ := ih
    obtain ⟨v', hv', hmoves⟩ := find_use hsite hv u
    refine ⟨v', hv', hmoves.config.trans hconfig, ?_, ?_⟩
    · rw [hmoves.progress, hprogress, entered, Verifier.tracked, Verifier.tracked,
        List.foldl_append]
    · simp only [entered]
      rw [List.append_assoc, hmoves.violations, ← List.append_assoc, hkept, hconfig]
  | aside _ hfind ih =>
    obtain ⟨v, hv, hrest⟩ := ih
    exact ⟨v, hfind.trans hv, hrest⟩

/-! ## 4. What a report brings to light -/

/-- A change that is reported next brings `m` to light on all routes: the subscription panics with
it or keeps it, the caller who replays the change by hand is told of it, and so is the caller who
asks right afterwards, with the contents still the same. -/
structure Uncovers (site : Site σ α) (config : Config) (s : Scene σ α) (contents : List α)
    (c : Change α) (m : Option (Mismatch α)) : Prop where
  panics : config.onMismatch = .panic → ∀ id,
    let used := site.use s (.report (.subscription id) contents c)
    used.panic = (m.map fun m => .raised m.text) ∧ site.violations? used.scene = site.violations? s
  keeps : config.onMismatch = .record → ∀ id,
    let used := site.use s (.report (.subscription id) contents c)
    used.panic = none ∧
      site.violations? used.scene = (site.violations? s).map (· ++ m.toList)
  tells : (site.use s (.report .byHand contents c)).error = m
  confirms : ∀ route contents',
    let after := (site.use s (.report route contents c)).scene
    (site.read contents' after.world).1 = (site.read contents s.world).1 →
      (site.use after (.verify contents')).error = m

/-- A change that is reported next makes no difference to anyone but the verifier, on any route: the
collection is not read, nobody panics, nothing is kept and the caller is told of nothing. -/
def Overlooks (site : Site σ α) (s : Scene σ α) (contents : List α) (c : Change α) : Prop :=
  ∀ route, let used := site.use s (.report route contents c)
    (∀ read, ({ site with read } : Site σ α).use s (.report route contents c) = used) ∧
      used.panic = none ∧ used.error = none ∧ site.violations? used.scene = site.violations? s

/-- A verifier that compares finds the same on all routes: what the comparison of its next shadow
with the live contents gives. -/
theorem uncovers_of_checks (hsite : site.Lawful) (hv : site.find s.world = some v)
    (hchecks : v.config.verifyOnChange = true) (contents : List α) (c : Change α) :
    site.Uncovers v.config s contents c
      (compare (v.shadow.apply c).1.items (site.read contents s.world).1 v.config.comparison
        v.config.label) := by
  have hfinding : v.finding (site.read contents s.world).1 c =
      compare (v.shadow.apply c).1.items (site.read contents s.world).1 v.config.comparison
        v.config.label := by
    rw [v.finding_eq, Verifier.liveFor, if_pos hchecks, Option.bind_some]
  have htaken : ∀ id, (site.use s (.report (.subscription id) contents c)).taken = [] := by
    intro id
    rw [use_subscription hv]
  constructor
  · intro hpanic id used
    constructor
    · simp only [used, use_subscription hv, v.told_mismatch, hpanic, hfinding]
    · refine violations?_use_of_kept_eq_nil hsite hv (htaken id) ?_
      rw [kept, hpanic]
  · intro hrecord id used
    constructor
    · simp only [used, use_subscription hv, v.told_mismatch, hrecord, Option.map_none]
    · rw [violations?_use hsite hv (htaken id), kept, hrecord, use_byHand hv, hfinding]
  · rw [use_byHand hv, hfinding]
  · intro route contents' after hsame
    obtain ⟨v', hv', hmoves⟩ := find_use hsite hv (.report route contents c)
    have hshadow : v'.shadow = (v.shadow.apply c).1 := congrArg Prod.fst hmoves.progress
    rw [use_verify hv', Verifier.check, hshadow, hsame, hmoves.config]

/-- A verifier that does not compare reads nothing and finds nothing. -/
theorem overlooks_of_not_checks (hsite : site.Lawful) (hv : site.find s.world = some v)
    (hchecks : v.config.verifyOnChange = false) (contents : List α) (c : Change α) :
    site.Overlooks s contents c := by
  have hlive : ∀ live, v.liveFor live = none := by
    intro live
    rw [Verifier.liveFor, hchecks]
    rfl
  have hfinding : ∀ live, v.finding live c = none := by
    intro live
    rw [v.finding_eq, hlive]
    rfl
  have hunread : ∀ (read : List α → σ → List α × σ) r,
      ({ site with read } : Site σ α).absorbed s v contents r = site.absorbed s v contents r := by
    intro read r
    rw [absorbed, absorbed, readFor, readFor, hchecks]
    rfl
  intro route used
  cases route with
  | subscription id =>
    have hused : used = site.use s (.report (.subscription id) contents c) := rfl
    rw [use_subscription hv] at hused
    obtain ⟨hpanic, -⟩ := Verifier.told_of_finding_eq_none (hfinding (site.read contents s.world).1)
    refine ⟨?_, ?_, ?_, ?_⟩
    · intro read
      have hv' : ({ site with read } : Site σ α).find s.world = some v := hv
      rw [hused, use_subscription hv', hunread, Verifier.told, Verifier.told, hlive, hlive]
    · rw [hused, hpanic]
      rfl
    · rw [hused]
    · have hkept : site.kept v.config s (.report (.subscription id) contents c) = [] := by
        rw [kept, use_byHand hv, hfinding]
        cases v.config.onMismatch <;> rfl
      exact violations?_use_of_kept_eq_nil hsite hv (by rw [use_subscription hv]) hkept
  | byHand =>
    have hused : used = site.use s (.report .byHand contents c) := rfl
    rw [use_byHand hv] at hused
    refine ⟨?_, ?_, ?_, ?_⟩
    · intro read
      have hv' : ({ site with read } : Site σ α).find s.world = some v := hv
      rw [hused, use_byHand hv', hunread, hlive, hlive, hfinding, hfinding]
    · rw [hused]
    · rw [hused, hfinding]
    · exact violations?_byHand hsite hv contents c

end Site

/-! ## 5. A workbench -/

namespace Workbench

variable {b : Bench α} {name : String} {handle : VerifierHandle} {v : Verifier α}
  {list : ObservableList (World α) α}

/-- Where a workbench has the verifier of a handle. -/
def VerifierHandle.site (handle : VerifierHandle) : Site (World α) α :=
  World.site handle.number handle.collection

/-- A modification that no element shows is not seen in the list either. -/
theorem any_modify {β : Type} {p : β → Bool} {f : β → β} (h : ∀ x, p (f x) = p x) (xs : List β)
    (n : Nat) : (xs.modify n f).any p = xs.any p := by
  induction xs generalizing n with
  | nil => rw [List.modify_nil]
  | cons x xs ih =>
    cases n with
    | zero => rw [List.modify_zero_cons, List.any_cons, List.any_cons, h]
    | succ n => rw [List.modify_succ_cons, List.any_cons, List.any_cons, ih]

theorem World.isAlive_storeVerifier (w : World α) (number : Nat) (v : Verifier α)
    (collection : Nat) : (w.storeVerifier number v).isAlive collection = w.isAlive collection := by
  rw [isAlive, isAlive, storeVerifier]
  refine congrArg (_ || ·) (any_modify ?_ w.verifiers number)
  intro o
  rfl

theorem World.isAlive_read (w : World α) (number : Nat) (contents : List α) (collection : Nat) :
    (w.read number contents).2.isAlive collection = w.isAlive collection := by
  rw [isAlive, isAlive, read, modifyCollection, List.getElem?_modify]
  split <;> cases w.collections[collection]? <;> rfl

/-- The verifiers of a workbench keep what is stored, and its collections leave them alone. -/
theorem World.site_lawful (number collection : Nat) :
    (World.site number collection : Site (World α) α).Lawful := by
  constructor
  · intro w v hv v'
    simp only [site] at hv ⊢
    rw [isAlive_storeVerifier, storeVerifier, List.getElem?_modify]
    split at hv
    · rename_i halive
      obtain ⟨o, ho, -⟩ := Option.map_eq_some_iff.mp hv
      simp only [halive, ho, if_true, Option.map_eq_map, Option.map_some]
    · cases hv
  · intro contents w
    simp only [site, isAlive_read]
    rfl

/-- The workbench has a verifier of this name, and the list that it observes. -/
structure Bench.Holds (b : Bench α) (name : String) (handle : VerifierHandle) (v : Verifier α)
    (list : ObservableList (World α) α) : Prop where
  named : b.verifiers.find? name = some handle
  found : handle.site.find b.world = some v
  observed : (b.stands[handle.collection]?).map (·.list) = some list

theorem Bench.Holds.withVerifier_eq (h : b.Holds name handle v list)
    (f : VerifierHandle → Verifier α → ObservableList (World α) α → Effect α) :
    b.withVerifier name f = f handle v list := by
  have hv := h.found
  simp only [VerifierHandle.site, World.site] at hv
  split at hv
  · obtain ⟨o, ho, rfl⟩ := Option.map_eq_some_iff.mp hv
    obtain ⟨stand, hstand, rfl⟩ := Option.map_eq_some_iff.mp h.observed
    simp only [withVerifier, withNamed, h.named, ho, hstand]
  · cases hv

variable [BEq α] [Element α]

/-- The use of a verifier that a command amounts to. -/
def Bench.used (b : Bench α) (handle : VerifierHandle) (list : ObservableList (World α) α)
    (u : Use α) : Used (World α) α :=
  handle.site.use (list.scene b.world) u

/-- **The commands about a verifier are uses of it.** -/
theorem Bench.Holds.perform_eq (h : b.Holds name handle v list) :
    (∀ c, b.perform (.replay name c) =
      let used := b.used handle list (.report .byHand list.items c)
      { bench := { b with world := used.scene.world }, answer := .ok (verdict used.error)
        log := used.scene.log }) ∧
    (b.perform (.verify name) =
      let used := b.used handle list (.verify list.items)
      { bench := { b with world := used.scene.world }, answer := .ok (verdict used.error)
        log := used.scene.log }) ∧
    (b.perform (.assertConsistent name) =
      let used := b.used handle list (.verify list.items)
      { bench := { b with world := used.scene.world }
        answer := match used.error with
          | none => .ok .nothing
          | some m => .error (.raised m.text)
        log := used.scene.log }) ∧
    b.perform (.takeViolations name) =
      let used := b.used handle list .takeViolations
      { bench := { b with world := used.scene.world }, answer := .ok (.violations used.taken) } := by
  have hv : handle.site.find (list.scene b.world).world = some v := h.found
  refine ⟨?_, ?_, ?_, ?_⟩
  · intro c
    simp only [perform, replay, h.withVerifier_eq, used, Site.use, hv]
    rfl
  · simp only [perform, verify, h.withVerifier_eq, used, Site.use, hv]
    rfl
  · have hread : handle.site.read list.items (list.scene b.world).world =
        b.world.read handle.collection list.items := rfl
    simp only [perform, verify, h.withVerifier_eq, used, Site.use, hv, hread]
    cases (v.verify (b.world.read handle.collection list.items).1).1 <;> rfl
  · simp only [perform, h.withVerifier_eq, used, Site.use, hv]
    rfl

end Workbench

/-! ## 6. The main statement -/

variable [BEq α] [Element α] {σ' : Type} {site : Site σ α} {site' : Site σ' α}
  {config config' : Config} {items : List α} {k k' : Uses α} {s : Scene σ α} {s' : Scene σ' α}

/-- **All ways of reporting agree.**  Let two verifiers start from the same contents, whatever
their collections and their settings, and let the same changes be reported to them, by whatever
routes.  Then they have the same shadow and the same counters.  What was taken from one, followed
by what it keeps, is what came through its subscription to be kept; replaying by hand and asking
add nothing.  One that does not compare on its own overlooks every change.  And if both compare,
in the same mode and under the same label, then a change that is reported next while the live
contents are the same brings the same mismatch to light with both, on all routes. -/
theorem reports_agree (hsite : site.Lawful) (hsite' : site'.Lawful)
    (h : site.History config items k s) (h' : site'.History config' items k' s')
    (hsame : k'.changes = k.changes) :
    (∃ v v', site.find s.world = some v ∧ site'.find s'.world = some v' ∧
      v'.shadow = v.shadow ∧ v'.stats = v.stats) ∧
    (site.violations? s).map (k.taken ++ ·) = some k.kept ∧
    (∀ contents c, site.violations? (site.use s (.report .byHand contents c)).scene =
      site.violations? s) ∧
    (∀ contents, site.violations? (site.use s (.verify contents)).scene = site.violations? s) ∧
    (config.verifyOnChange = false → ∀ contents c, site.Overlooks s contents c) ∧
    (config.verifyOnChange = true → config'.verifyOnChange = true →
      config'.comparison = config.comparison → config'.label = config.label →
      ∀ contents contents' c,
        (site'.read contents' s'.world).1 = (site.read contents s.world).1 →
        ∃ m, site.Uncovers config s contents c m ∧ site'.Uncovers config' s' contents' c m) := by
  obtain ⟨v, hv, rfl, hprogress, hkept⟩ := h.find_eq hsite
  obtain ⟨v', hv', rfl, hprogress', -⟩ := h'.find_eq hsite'
  have htracked : v'.progress = v.progress := by rw [hprogress, hprogress', hsame]
  obtain ⟨hshadow, hstats⟩ := Prod.mk.inj htracked
  refine ⟨⟨v, v', hv, hv', hshadow, hstats⟩, ?_, ?_, ?_, ?_, ?_⟩
  · rw [Site.violations?, hv, Option.map_some, Option.map_some, hkept]
  · exact Site.violations?_byHand hsite hv
  · exact Site.violations?_verify hsite hv
  · intro hchecks contents c
    exact Site.overlooks_of_not_checks hsite hv hchecks contents c
  · intro hchecks hchecks' hmode hlabel contents contents' c hlive
    have huncovers' := Site.uncovers_of_checks hsite' hv' hchecks' contents' c
    rw [hshadow, hlive, hmode, hlabel] at huncovers'
    exact ⟨_, Site.uncovers_of_checks hsite hv hchecks contents c, huncovers'⟩

omit [BEq α] [Element α] in
/-- A list reports an addition that never came, to a verifier that panics and to one that keeps
what it finds; the latter is relieved of it.  The next change brings the same mismatch to light
with both. -/
theorem reports_agree_panicking_and_recording :
    let site : Site (Verifier Int64 × Unit) Int64 := .direct
    let start (config : Config) : Scene (Verifier Int64 × Unit) Int64 :=
      { registry := { listName := "numbers", source := 0 }, world := (.ofSnapshot config [1], ()) }
    let addition : Use Int64 := .report (.subscription ⟨0, 0⟩) [1] ⟨[], [2]⟩
    let panicking := site.use (start {}) addition
    let recording := site.use (start { onMismatch := .record }) addition
    let relieved := site.use recording.scene .takeViolations
    panicking.panic.isSome = true ∧ relieved.taken.length = 1 ∧
      panicking.scene.world.1.shadow = ⟨[1, 2]⟩ ∧ relieved.scene.world.1.shadow = ⟨[1, 2]⟩ ∧
      ∃ m, site.Uncovers {} panicking.scene [] ⟨[1], []⟩ (some m) ∧
        site.Uncovers { onMismatch := .record } relieved.scene [] ⟨[1], []⟩ (some m) := by
  intro site start addition panicking recording relieved
  have hsite : site.Lawful := ⟨fun _ _ => rfl, fun _ _ => rfl⟩
  have hstart : ∀ config, site.History config [1] {} (start config) := fun _ => .start rfl
  have hpanicking := (hstart {}).use addition
  have hrelieved := ((hstart { onMismatch := .record }).use addition).use .takeViolations
  obtain ⟨⟨v, v', hv, hv', hshadow, -⟩, -, -, -, -, hfindings⟩ :=
    reports_agree hsite hsite hpanicking hrelieved rfl
  obtain rfl : panicking.scene.world.1 = v := Option.some.inj hv
  obtain rfl : relieved.scene.world.1 = v' := Option.some.inj hv'
  have htracked : panicking.scene.world.1.shadow = ⟨[1, 2]⟩ := by decide
  obtain ⟨m, hm, hm'⟩ := hfindings rfl rfl rfl rfl [] [] ⟨[1], []⟩ rfl
  have hsome : (site.use panicking.scene (.report .byHand [] ⟨[1], []⟩)).error.isSome = true := by
    decide
  rw [hm.tells] at hsome
  obtain ⟨m, rfl⟩ := Option.isSome_iff_exists.mp hsome
  exact ⟨by decide, by decide, htracked, hshadow.trans htracked, m, hm, hm'⟩

end ChangeAudit
