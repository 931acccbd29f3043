/-
# Verifiers

A verifier starts from a snapshot of a collection, replays every report of the collection onto a
shadow, counts what it replays, and compares the shadow with the live contents: after every report
if it is set to (`Config.verifyOnChange`), and whenever it is asked.

A report can reach a verifier in two ways, with the same effect on its shadow and its counters.
Through its subscription (`Verifier.notify`) a mismatch panics or is kept, as the settings say; by
hand (`Verifier.replay`) it is given to the caller.
-/
import ChangeAudit.LogEntry
import ChangeAudit.Shadow

namespace ChangeAudit

/-- What a verifier has replayed so far. -/
structure VerifierStats where
  events : Nat := 0
  added : Nat := 0
  removed : Nat := 0
  /-- Removals that found nothing equal in the shadow. -/
  unmatched : Nat := 0
  deriving DecidableEq, Inhabited

/-- A verifier: its settings, its shadow of the collection, its counters, and the mismatches that
it keeps. -/
structure Verifier (α : Type) where
  config : Config
  shadow : Shadow α
  stats : VerifierStats := {}
  violations : List (Mismatch α) := []

/-- The effect of a report on a verifier. -/
structure Replayed (α : Type) where
  verifier : Verifier α
  mismatch : Option (Mismatch α)
  log : List (LogEntry α)

namespace VerifierStats

variable {α : Type}

/-- The counters after one more change. -/
def record (s : VerifierStats) (a : Applied α) : VerifierStats where
  events := s.events + 1
  added := s.added + a.added
  removed := s.removed + a.removed
  unmatched := s.unmatched + a.unmatched.length

end VerifierStats

namespace Verifier

variable {α : Type}

/-- A verifier that has seen a collection with these contents. -/
def ofSnapshot (config : Config) (items : List α) : Verifier α := { config, shadow := ⟨items⟩ }

/-- The name that its log entries use. -/
def name (v : Verifier α) : String := v.config.displayName

/-- What is logged about removals that found nothing. -/
def unmatchedEntries (v : Verifier α) (elements : List α) : List (LogEntry α) :=
  if elements.isEmpty then [] else [.unmatched v.name elements]

/-- Replays a change onto the shadow and counts it. -/
def absorb [BEq α] (v : Verifier α) (c : Change α) : Verifier α × List (LogEntry α) :=
  let (shadow, applied) := v.shadow.apply c
  ({ v with shadow, stats := v.stats.record applied }, v.unmatchedEntries applied.unmatched)

/-- Compares the shadow with the live contents. -/
def check [BEq α] (v : Verifier α) (live : List α) : Option (Mismatch α) :=
  compare v.shadow.items live v.config.comparison v.config.label

/-- What is logged about a comparison. -/
def mismatchEntries (m : Option (Mismatch α)) : List (LogEntry α) := m.toList.map .mismatch

/-- Replays a change; then compares with the live contents, if they were read. -/
def replay [BEq α] (v : Verifier α) (live : Option (List α)) (c : Change α) : Replayed α :=
  let (verifier, log) := v.absorb c
  let mismatch := live.bind verifier.check
  { verifier, mismatch, log := log ++ mismatchEntries mismatch }

/-- A change that comes through the subscription: as `replay`, but a mismatch is kept if the
settings say so; else it is left to panic with. -/
def notify [BEq α] (v : Verifier α) (live : Option (List α)) (c : Change α) : Replayed α :=
  let r := v.replay live c
  match r.mismatch, v.config.onMismatch with
  | some m, .record =>
    { r with
      verifier := { r.verifier with violations := r.verifier.violations ++ [m] }
      mismatch := none }
  | _, _ => r

/-- Compares on demand: the mismatch, and what is logged about it. -/
def verify [BEq α] (v : Verifier α) (live : List α) : Option (Mismatch α) × List (LogEntry α) :=
  (v.check live, mismatchEntries (v.check live))

/-- Hands over the mismatches that were kept, and forgets them. -/
def takeViolations (v : Verifier α) : Verifier α × List (Mismatch α) :=
  ({ v with violations := [] }, v.violations)

/-! ## What the ways of reporting have in common -/

/-- Whether a change is compared, and what happens to a mismatch, makes no difference to the
shadow. -/
theorem notify_shadow [BEq α] (v : Verifier α) (live : Option (List α)) (c : Change α) :
    (v.notify live c).verifier.shadow = (v.shadow.apply c).1 := by
  unfold notify
  dsimp only
  split <;> rfl

/-- Nor to the counters. -/
theorem notify_stats [BEq α] (v : Verifier α) (live : Option (List α)) (c : Change α) :
    (v.notify live c).verifier.stats = v.stats.record (v.shadow.apply c).2 := by
  unfold notify
  dsimp only
  split <;> rfl

theorem notify_config [BEq α] (v : Verifier α) (live : Option (List α)) (c : Change α) :
    (v.notify live c).verifier.config = v.config := by
  unfold notify
  dsimp only
  split <;> rfl

end Verifier

end ChangeAudit
