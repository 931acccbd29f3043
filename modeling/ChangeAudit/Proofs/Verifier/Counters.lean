/-
# The counters of a verifier balance

A verifier counts what it replays: the changes, the elements that they put into its shadow and
those that they take out of it, and the removals that find nothing to take out.  The counters are
kept apart from the shadow, and no comparison ever looks at them.  Still they agree with the shadow
and with the changes at all times (`Verifier.Balanced`): what the shadow held at first and gained
is what it holds and lost, and each removal of each change was either carried out or unmatched.

One change keeps the balance (`Balanced.advance`), so all changes do (`Balanced.advanceAll`).  The
main statement is about everything that can become of a verifier (`counters_balance`), whether or
not the changes tell the truth, and also after reports that ended in a panic.
-/
import Mathlib.Algebra.GroupWithZero.Nat
import ChangeAudit.Proofs.Verifier.Routes
import ChangeAudit.Proofs.Workbench.Commands

namespace ChangeAudit

variable {σ α : Type}

/-! ## 1. The balance -/

namespace Verifier

/-- What is tracked agrees with the changes that were seen, the shadow having started from
`items`. -/
structure Balanced (items : List α) (cs : List (Change α)) (p : Shadow α × VerifierStats) :
    Prop where
  events : p.2.events = cs.length
  added : p.2.added = (cs.map (·.added.length)).sum
  removed : p.2.removed + p.2.unmatched = (cs.map (·.removed.length)).sum
  size : p.1.size + p.2.removed = items.length + p.2.added

namespace Balanced

variable {items : List α} {cs : List (Change α)} {p : Shadow α × VerifierStats}

/-- No more is taken out than was ever there. -/
theorem removed_le (h : Balanced items cs p) : p.2.removed ≤ items.length + p.2.added := by
  have hsize := h.size
  omega

theorem start (items : List α) : Balanced items [] (⟨items⟩, {}) := ⟨rfl, rfl, rfl, rfl⟩

variable [BEq α]

/-- **One change keeps the balance**, whether or not it fits the shadow. -/
theorem advance (h : Balanced items cs p) (c : Change α) :
    Balanced items (cs ++ [c]) (Verifier.advance p c) := by
  have hsize := p.1.length_apply c
  have hremoved := p.1.removed_add_unmatched c
  have hadded : (p.1.apply c).2.added = c.added.length := rfl
  constructor
  · simp only [Verifier.advance, VerifierStats.record, h.events, List.length_append,
      List.length_singleton]
  · simp only [Verifier.advance, VerifierStats.record, h.added, hadded, List.map_append,
      List.sum_append, List.map_singleton, List.sum_singleton]
  · have hbefore := h.removed
    simp only [Verifier.advance, VerifierStats.record, List.map_append, List.sum_append,
      List.map_singleton, List.sum_singleton]
    omega
  · have hbefore := h.size
    simp only [Verifier.advance, VerifierStats.record]
    omega

/-- So do any number of changes. -/
theorem advanceAll (h : Balanced items cs p) (ds : List (Change α)) :
    Balanced items (cs ++ ds) (ds.foldl Verifier.advance p) := by
  induction ds generalizing cs p with
  | nil => rwa [List.append_nil]
  | cons d ds ih =>
    have hrest := ih (h.advance d)
    rwa [List.append_assoc, List.singleton_append] at hrest

end Balanced

theorem balanced_tracked [BEq α] (items : List α) (cs : List (Change α)) :
    Balanced items cs (tracked items cs) :=
  (Balanced.start items).advanceAll cs

end Verifier

/-! ## 2. What moves nothing -/

namespace Site

variable [BEq α] [Element α] {site : Site σ α} {s : Scene σ α} {v : Verifier α}

/-- A use that reports no change leaves what is tracked as it is. -/
theorem progress_use (hsite : site.Lawful) (hv : site.find s.world = some v) {u : Use α}
    (hu : u.change? = none) :
    ∃ v', site.find (site.use s u).scene.world = some v' ∧ v'.progress = v.progress := by
  obtain ⟨v', hv', hmoves⟩ := find_use hsite hv u
  refine ⟨v', hv', ?_⟩
  rw [hmoves.progress, hu]
  rfl

end Site

namespace Workbench

/-- The commands by which a verifier is asked, relieved of its violations, or detached. -/
def inquiries (name : String) : List (Command α) :=
  [.verify name, .assertConsistent name, .violations name, .takeViolations name, .detach name]

variable [BEq α] [Element α] {b : Bench α} {name : String} {handle : VerifierHandle}
  {v : Verifier α} {list : ObservableList (World α) α} {command : Command α}

/-- **Nothing that a verifier is asked moves what it tracks**, nor does detaching it. -/
theorem Bench.Holds.progress_perform (h : b.Holds name handle v list)
    (hcommand : command ∈ inquiries name) :
    ∃ v', handle.site.find (b.perform command).bench.world = some v' ∧
      v'.progress = v.progress := by
  have hsite : (handle.site : Site (World α) α).Lawful := World.site_lawful _ _
  have hv : handle.site.find (list.scene b.world).world = some v := h.found
  obtain ⟨-, hverify, hassert, htake⟩ := h.perform_eq
  simp only [inquiries, List.mem_cons, List.not_mem_nil, or_false] at hcommand
  obtain rfl | rfl | rfl | rfl | rfl := hcommand
  · rw [hverify]
    exact Site.progress_use hsite hv rfl
  · rw [hassert]
    exact Site.progress_use hsite hv rfl
  · rw [Bench.perform, h.withVerifier_eq]
    exact ⟨v, h.found, rfl⟩
  · rw [htake]
    exact Site.progress_use hsite hv rfl
  · have hworld := (b.releaseOn_aside handle.collection (some list) handle.subscription).1
    refine ⟨v, ?_, rfl⟩
    rw [Bench.perform, Bench.detach, h.withVerifier_eq]
    exact (congrArg handle.site.find hworld).trans h.found

end Workbench

/-! ## 3. The main statement -/

open Workbench

variable [BEq α] [Element α] {site : Site σ α} {config : Config} {items : List α} {k : Uses α}
  {s : Scene σ α}

/-- **The counters of a verifier balance.**  Whatever is done with a verifier that started from
`items`, and whatever changes are reported to it:

* the size of its shadow and the elements that were taken out make up those that it started from
  and those that were put in;
* it counts each change, each element of an added list, and each element of a removed list, the
  latter as taken out or as unmatched; so it never counts more taken out than there was;
* asking it and relieving it of its violations move none of this.

On a workbench no command moves it by which a verifier is asked, relieved or detached. -/
theorem counters_balance (hsite : site.Lawful) (h : site.History config items k s) :
    (∃ v, site.find s.world = some v ∧
      v.shadow.size + v.stats.removed = items.length + v.stats.added ∧
      v.stats.events = k.changes.length ∧
      v.stats.added = (k.changes.map (·.added.length)).sum ∧
      v.stats.removed + v.stats.unmatched = (k.changes.map (·.removed.length)).sum ∧
      v.stats.removed ≤ items.length + v.stats.added ∧
      ∀ u : Use α, u.change? = none →
        ∃ v', site.find (site.use s u).scene.world = some v' ∧ v'.shadow = v.shadow ∧
          v'.stats = v.stats) ∧
    ∀ (b : Bench α) (name : String) (handle : VerifierHandle) (v : Verifier α)
      (list : ObservableList (World α) α), b.Holds name handle v list →
      ∀ command ∈ inquiries name,
        ∃ v', handle.site.find (b.perform command).bench.world = some v' ∧
          v'.shadow = v.shadow ∧ v'.stats = v.stats := by
  constructor
  · obtain ⟨v, hv, -, hprogress, -⟩ := h.find_eq hsite
    have hbalanced : Verifier.Balanced items k.changes v.progress := by
      rw [hprogress]
      exact Verifier.balanced_tracked items k.changes
    refine ⟨v, hv, hbalanced.size, hbalanced.events, hbalanced.added, hbalanced.removed,
      hbalanced.removed_le, ?_⟩
    intro u hu
    obtain ⟨v', hv', hsame⟩ := Site.progress_use hsite hv hu
    obtain ⟨hshadow, hstats⟩ := Prod.mk.inj hsame
    exact ⟨v', hv', hshadow, hstats⟩
  · intro b name handle v list hholds command hcommand
    obtain ⟨v', hv', hsame⟩ := hholds.progress_perform hcommand
    obtain ⟨hshadow, hstats⟩ := Prod.mk.inj hsame
    exact ⟨v', hv', hshadow, hstats⟩

omit [BEq α] [Element α] in
/-- A list of `1` reports that a `5` went, which was never there, and a `2` came, which did not; the
verifier panics.  Then it is told by hand that the `1` went.  On a workbench a verifier is told the
first of these by hand; then it is asked, relieved or detached. -/
theorem counters_balance_after_panic :
    let site : Site (Verifier Int64 × Unit) Int64 := .direct
    let start : Scene (Verifier Int64 × Unit) Int64 :=
      { registry := { listName := "numbers", source := 0 }, world := (.ofSnapshot {} [1], ()) }
    let panicking := site.use start (.report (.subscription ⟨0, 0⟩) [1] ⟨[5], [2]⟩)
    let used := site.use panicking.scene (.report .byHand [1] ⟨[1], []⟩)
    let bench : Bench Int64 := Bench.afterAll {}
      [.create "l" "numbers" [1], .startVerifier "v" "l" none false, .replay "v" ⟨[5], [2]⟩]
    panicking.panic.isSome = true ∧
      (∃ v, site.find used.scene.world = some v ∧ v.shadow.items = [2] ∧ v.stats.removed = 1 ∧
        v.stats.added = 1 ∧ v.stats.unmatched = 1 ∧
        v.shadow.size + v.stats.removed = 1 + v.stats.added ∧ v.stats.events = 2 ∧
        v.stats.removed + v.stats.unmatched = 2) ∧
      ∀ command ∈ inquiries "v", ∃ v,
        (World.site 0 0).find (bench.perform command).bench.world = some v ∧
          v.shadow = ⟨[1, 2]⟩ ∧ v.stats = { events := 1, added := 1, unmatched := 1 } := by
  intro site start panicking used bench
  have hsite : site.Lawful := ⟨fun _ _ => rfl, fun _ _ => rfl⟩
  have hstart : site.History {} [1] {} start := .start rfl
  have huses := (hstart.use (.report (.subscription ⟨0, 0⟩) [1] ⟨[5], [2]⟩)).use
    (.report .byHand [1] ⟨[1], []⟩)
  obtain ⟨⟨v, hv, hsize, hevents, -, hremoved, -⟩, hbench⟩ := counters_balance hsite huses
  obtain rfl : used.scene.world.1 = v := Option.some.inj hv
  have hholds : bench.Holds "v" { number := 0, collection := 0, subscription := { id := ⟨0, 0⟩ } }
      _ _ := ⟨rfl, rfl, rfl⟩
  refine ⟨by decide, ⟨_, rfl, by decide, by decide, by decide, by decide, hsize, hevents, hremoved⟩,
    fun command hcommand => ?_⟩
  obtain ⟨v', hv', hshadow, hstats⟩ := hbench bench "v" _ _ _ hholds command hcommand
  exact ⟨v', hv', hshadow.trans (by decide), hstats.trans (by decide)⟩

end ChangeAudit
