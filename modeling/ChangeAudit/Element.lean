/-
# Elements of collections

What reports need of an element besides its equality: its text in a dump, its document, and how
it is read back.  Equality is a class of its own, because it may tell less apart than the text and
the document show: of two equal elements it then matters which one is kept.
-/
import ChangeAudit.Json.Basic
import ChangeAudit.Json.Form
import ChangeAudit.Text.Dump

namespace ChangeAudit

open ChangeAudit.Json (Reader)
open ChangeAudit.Text (Dump)

/-- An element that can be shown, written and read. -/
class Element (α : Type) where
  dump : α → Dump
  toJson : α → Json
  read : Reader α

namespace Element

variable {α : Type} [Element α]

/-- A list of elements in a dump. -/
def dumpList (xs : List α) : Dump := .list (xs.map dump)

/-- The text of a list of elements on one line. -/
def listText (xs : List α) : String := (dumpList xs).inline

/-- A list of elements as a document. -/
def listToJson (xs : List α) : Json := .array (xs.map toJson)

end Element

/-! ## 1. Plain elements -/

/-- Whole numbers of 64 bits with sign. -/
instance : Element Int64 where
  dump n := .ofInt n.toInt
  toJson n := .int n.toInt
  read := Json.readInt64

/-- Texts. -/
instance : Element String where
  dump := .ofString
  toJson := .string
  read := Json.readText "a string"

/-- Texts that may be absent. -/
instance : Element (Option String) where
  dump s := .ofOption (s.map .ofString)
  toJson := Json.ofText?
  read := Json.readText?

/-- Lists of whole numbers. -/
instance : Element (List Int64) where
  dump := Element.dumpList
  toJson := Element.listToJson
  read := Json.readList Json.readInt64

/-! ## 2. Keyed records -/

/-- A value with a key that identifies it. -/
structure Keyed where
  key : String
  value : Int64

namespace Keyed

/-- The key that identifies nothing. -/
def nobody : String := "NaN"

/-- Records are equal if their keys are; the key that identifies nothing is not even equal to
itself. -/
instance : BEq Keyed := ⟨fun a b => a.key == b.key && a.key != nobody⟩

theorem beq_iff {a b : Keyed} : (a == b) = true ↔ a.key = b.key ∧ a.key ≠ nobody := by
  change (a.key == b.key && a.key != nobody) = true ↔ _
  rw [Bool.and_eq_true, beq_iff_eq, bne_iff_ne]

instance : PartialEquivBEq Keyed where
  symm h := by
    obtain ⟨hkey, hsome⟩ := beq_iff.mp h
    exact beq_iff.mpr ⟨hkey.symm, hkey ▸ hsome⟩
  trans h h' := by
    obtain ⟨hkey, hsome⟩ := beq_iff.mp h
    exact beq_iff.mpr ⟨hkey.trans (beq_iff.mp h').1, hsome⟩

/-- How a record is written. -/
def form : Json.Form Keyed where
  title := "struct Keyed"
  fields := [
    .of "k" (Json.readText "a string") fun r key => { r with key },
    .of "v" Json.readInt64 fun r value => { r with value }]
  start := ⟨"", 0⟩
  complete := true

instance : Element Keyed where
  dump r := .record "Keyed" [("k", .ofString r.key), ("v", .ofInt r.value.toInt)]
  toJson r := .object [("k", .string r.key), ("v", .int r.value.toInt)]
  read := form.read

end Keyed

end ChangeAudit
