/-
# Mismatch reports

A mismatch is shown in three forms: as lines of text, which show what is missing and what is
unexpected only if there is any; as a document, which always shows both; and as a dump.
-/
import ChangeAudit.Config.Written
import ChangeAudit.Element
import ChangeAudit.Mismatch

namespace ChangeAudit.Mismatch

variable {α : Type} [Element α]

open ChangeAudit.Element (dumpList listText listToJson)

/-- A line about some elements, left out if there are none. -/
def optionalLine (heading : String) (xs : List α) : String :=
  if xs.isEmpty then "" else heading ++ listText xs ++ "\n"

/-- The report in lines of text, each with a line break at its end. -/
def text (m : Mismatch α) : String :=
  m.label.getD unnamedCollection ++ " diverged from its change notifications (" ++ m.mode.name ++
    " comparison)\n" ++
  "  expected: " ++ listText m.expected ++ "\n" ++
  "  actual:   " ++ listText m.actual ++ "\n" ++
  optionalLine "  missing:    " m.missing ++
  optionalLine "  unexpected: " m.unexpected

/-- The report as a document. -/
def toJson (m : Mismatch α) : Json :=
  .object [
    ("label", Json.ofText? m.label),
    ("mode", .string m.mode.name),
    ("expected", listToJson m.expected),
    ("actual", listToJson m.actual),
    ("missing", listToJson m.missing),
    ("unexpected", listToJson m.unexpected)]

/-- The report in a dump. -/
def dump (m : Mismatch α) : Text.Dump :=
  .record "Mismatch" [
    ("label", .ofOption (m.label.map .ofString)),
    ("mode", m.mode.dump),
    ("expected", dumpList m.expected),
    ("actual", dumpList m.actual),
    ("missing", dumpList m.missing),
    ("unexpected", dumpList m.unexpected)]

end ChangeAudit.Mismatch
