/-
# Reports of verifiers

A verifier that cannot be started or that finds a difference tells why (`VerifyError`); a verifier,
its counters and its shadow can be dumped.
-/
import ChangeAudit.Observer.Subscription
import ChangeAudit.Verifier

namespace ChangeAudit

/-- Why a verifier could not be started, or what it found. -/
inductive VerifyError (α : Type) where
  /-- The collection was already gone. -/
  | missingCollection
  | subscription (error : CollectionError)
  | mismatch (m : Mismatch α)

namespace VerifyError

variable {α : Type}

/-- The error in words. -/
def message [Element α] : VerifyError α → String
  | .missingCollection => "Collection to verify is missing"
  | .subscription error => "Failed to observe collection: " ++ error.message
  | .mismatch m => m.text

/-- Whether it is about a difference in contents. -/
def isMismatch : VerifyError α → Bool
  | .mismatch _ => true
  | .missingCollection | .subscription _ => false

end VerifyError

/-- The counters in a dump. -/
def VerifierStats.dump (s : VerifierStats) : Text.Dump :=
  .record "VerifierStats" [
    ("events", .ofNat s.events), ("added", .ofNat s.added), ("removed", .ofNat s.removed),
    ("unmatched", .ofNat s.unmatched)]

/-- A verifier and its subscription in a dump. -/
def Verifier.dump {α : Type} (v : Verifier α) (s : Subscription) : Text.Dump :=
  .record "ChangeVerifier" [
    ("label", .ofString v.name), ("subscription", s.dump), ("stats", v.stats.dump)]

/-- A shadow in a dump. -/
def Shadow.dump {α : Type} [Element α] (s : Shadow α) : Text.Dump :=
  .record "ShadowList" [("items", Element.dumpList s.items)]

end ChangeAudit
