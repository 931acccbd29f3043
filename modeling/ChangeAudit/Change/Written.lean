/-
# The written form of a change

A change is written as an object with the members `removed` and `added`, in this order, and read
back from an object that has both, or from an array of the two.
-/
import ChangeAudit.Change
import ChangeAudit.Element

namespace ChangeAudit.Change

variable {α : Type} [Element α]

open ChangeAudit.Element (dumpList listToJson)

/-- The change in a dump. -/
def dump (c : Change α) : Text.Dump :=
  .record "ChangeEvent" [("removed", dumpList c.removed), ("added", dumpList c.added)]

/-- The change as a document. -/
def toJson (c : Change α) : Json :=
  .object [("removed", listToJson c.removed), ("added", listToJson c.added)]

/-- How a change is written. -/
def form : Json.Form (Change α) where
  title := "struct ChangeEvent"
  fields := [
    .of "removed" (Json.readList Element.read) fun c removed => { c with removed },
    .of "added" (Json.readList Element.read) fun c added => { c with added }]
  start := {}
  complete := true

/-- The change that a text describes. -/
def ofText (text : String) : Except Json.ReadError (Change α) := Json.readWhole form.read text

end ChangeAudit.Change
