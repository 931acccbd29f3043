/-
# Verifier settings

How a verifier compares replayed contents with live ones, when it does so by itself, and what it
does about a difference.  Every setting has a default, and a setting that is not given keeps it.
-/

namespace ChangeAudit

/-- What counts as the same contents. -/
inductive ComparisonMode where
  /-- The same elements with the same multiplicities, in any order. -/
  | multiset
  /-- The same elements in the same positions. -/
  | sequence
  deriving DecidableEq, Inhabited

/-- What happens when a report leaves the shadow out of step. -/
inductive MismatchPolicy where
  /-- The callback panics, which fails the surrounding test. -/
  | panic
  /-- The mismatch is kept for later. -/
  | record
  deriving DecidableEq, Inhabited

/-- The settings of a verifier. -/
structure Config where
  /-- Shown in log lines and in mismatch reports. -/
  label : Option String := none
  comparison : ComparisonMode := .multiset
  /-- Whether every report is followed by a comparison. -/
  verifyOnChange : Bool := true
  onMismatch : MismatchPolicy := .panic
  deriving DecidableEq, Inhabited

/-- The name of a collection that was given none. -/
def unnamedCollection : String := "collection"

namespace ComparisonMode

/-- The name of a mode in settings and in reports. -/
def name : ComparisonMode → String
  | .multiset => "multiset"
  | .sequence => "sequence"

/-- All modes, in the order in which they are listed to the user. -/
def all : List ComparisonMode := [.multiset, .sequence]

end ComparisonMode

namespace MismatchPolicy

/-- The name of a policy in settings. -/
def name : MismatchPolicy → String
  | .panic => "panic"
  | .record => "record"

/-- All policies, in the order in which they are listed to the user. -/
def all : List MismatchPolicy := [.panic, .record]

end MismatchPolicy

namespace Config

def withLabel (c : Config) (label : String) : Config := { c with label := some label }

def withComparison (c : Config) (mode : ComparisonMode) : Config := { c with comparison := mode }

def withPolicy (c : Config) (policy : MismatchPolicy) : Config := { c with onMismatch := policy }

def withVerifyOnChange (c : Config) (enabled : Bool) : Config :=
  { c with verifyOnChange := enabled }

/-- The name that log lines use. -/
def displayName (c : Config) : String := c.label.getD unnamedCollection

end Config

end ChangeAudit
