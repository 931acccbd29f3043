/-
# The written form of the settings

Settings are written as an object with all four members.  They are read back from an object with
any of them, or from an array of the first few; what is not given keeps its default.
-/
import ChangeAudit.Config
import ChangeAudit.Json.Basic
import ChangeAudit.Json.Form
import ChangeAudit.Text.Dump

namespace ChangeAudit

/-- A mode in a dump. -/
def ComparisonMode.dump : ComparisonMode → Text.Dump
  | .multiset => .atom "Multiset"
  | .sequence => .atom "Sequence"

/-- A policy in a dump. -/
def MismatchPolicy.dump : MismatchPolicy → Text.Dump
  | .panic => .atom "Panic"
  | .record => .atom "Record"

namespace Config

/-- The settings in a dump. -/
def dump (c : Config) : Text.Dump :=
  .record "VerifierConfig" [
    ("label", .ofOption (c.label.map .ofString)),
    ("comparison", c.comparison.dump),
    ("verify_on_change", .ofBool c.verifyOnChange),
    ("on_mismatch", c.onMismatch.dump)]

/-- The settings as a document. -/
def toJson (c : Config) : Json :=
  .object [
    ("label", Json.ofText? c.label),
    ("comparison", .string c.comparison.name),
    ("verify_on_change", .bool c.verifyOnChange),
    ("on_mismatch", .string c.onMismatch.name)]

/-- How settings are written. -/
def form : Json.Form Config where
  title := "struct VerifierConfig"
  fields := [
    .of "label" Json.readText? fun c label => { c with label },
    .of "comparison" (Json.readVariant (ComparisonMode.all.map fun m => (m.name, m)))
      fun c comparison => { c with comparison },
    .of "verify_on_change" Json.readBool fun c verifyOnChange => { c with verifyOnChange },
    .of "on_mismatch" (Json.readVariant (MismatchPolicy.all.map fun p => (p.name, p)))
      fun c onMismatch => { c with onMismatch }]
  start := {}
  complete := false

/-- The settings that a text describes. -/
def ofText (text : String) : Except Json.ReadError Config := Json.readWhole form.read text

end Config

end ChangeAudit
