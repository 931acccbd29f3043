/-
# Reading records

A record is read in either of two shapes: as an object that names its fields, in any order, or as
an array that gives them in the order of their declaration (`Form.read`).  In an object, members
with other names are passed over, whatever their value, but the value has to be JSON; a name that
comes twice is refused as soon as it is seen again.  In an array, nothing may follow the last field.

Some records have to be complete, others take their start value for what is not given.
-/
import ChangeAudit.Json.Pass

namespace ChangeAudit.Json

/-- One field of a record: its name, and how its value changes a record. -/
structure Field (ρ : Type) where
  name : String
  read : Reader (ρ → ρ)

/-- How a record is written. -/
structure Form (ρ : Type) where
  /-- What the record is called in complaints. -/
  title : String
  /-- Its fields, in order. -/
  fields : List (Field ρ)
  /-- What the fields hold that have not been read. -/
  start : ρ
  /-- Whether every field has to be given. -/
  complete : Bool

/-- A field of this name, read by `read` and stored by `store`. -/
def Field.of {ρ β : Type} (name : String) (read : Reader β) (store : ρ → β → ρ) : Field ρ where
  name
  read ts := (read ts).map fun (b, rest) => (fun r => store r b, rest)

namespace Form

variable {ρ : Type}

/-- What is said of a record with the wrong number of fields. -/
def titleWithSize (form : Form ρ) : String :=
  form.title ++ " with " ++ toString form.fields.length ++ " elements"

/-- The fields one after another, of which `count` have been read into `r`. -/
def readInOrder (form : Form ρ) (count : Nat) (r : ρ) : List (Field ρ) → Reader ρ
  | [], ts => do
    let ((), ts) ← readClosing .closeArray ts
    .ok (r, ts)
  | field :: fields, ts => do
    let (more, ts) ← nextElement (count = 0) ts
    if more then
      let (update, ts) ← field.read ts
      readInOrder form (count + 1) (update r) fields ts
    else if form.complete then unfit (.wrongLength count form.titleWithSize)
    else .ok (r, ts)

/-- The field of a given name. -/
def field? (form : Form ρ) (name : String) : Option (Field ρ) :=
  form.fields.find? (·.name == name)

/-- The first field that has to be given and has not been seen. -/
def missing? (form : Form ρ) (seen : List String) : Option String :=
  if form.complete then (form.fields.map (·.name)).find? fun name => !seen.contains name else none

/-- The name of the next member, `none` at the end of the object. -/
def nextName (isFirst : Bool) : Reader (Option String)
  | .closeObject :: rest => .ok (none, rest)
  | .comma :: rest =>
    if isFirst then broken .malformed
    else (readName rest).map fun (name, rest) => (some name, rest)
  | [] => broken .truncated
  | ts =>
    if isFirst then (readName ts).map fun (name, rest) => (some name, rest)
    else broken .malformed

/-- The members of an object up to its end, of which there are fewer than `bound`; the fields
`seen` have been read into `r`. -/
def readMembers (form : Form ρ) :
    (bound : Nat) → (isFirst : Bool) → (seen : List String) → (r : ρ) → Reader ρ
  | 0, _, _, _, _ => broken .truncated
  | bound + 1, isFirst, seen, r, ts => do
    let (name?, ts) ← nextName isFirst ts
    match name? with
    | none =>
      match form.missing? seen with
      | some name => unfit (.missingField name)
      | none => .ok (r, ts)
    | some name =>
      match form.field? name with
      | none =>
        let ((), ts) ← readColon ts
        let ts ← pass ts
        readMembers form bound false seen r ts
      | some field =>
        if seen.contains name then unfit (.duplicateField name)
        else
          let ((), ts) ← readColon ts
          let (update, ts) ← field.read ts
          readMembers form bound false (name :: seen) (update r) ts

/-- A record in either shape. -/
def read (form : Form ρ) : Reader ρ
  | .openArray :: ts => form.readInOrder 0 form.start form.fields ts
  | .openObject :: ts => form.readMembers (ts.length + 1) true [] form.start ts
  | ts => refuse form.title ts

end Form

end ChangeAudit.Json
