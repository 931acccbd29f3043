/-
# What can be wrong with a document

There are two kinds of wrong (`ReadError`): the text is broken, or the document does not fit.  A
document that does not fit is complained of in words: what was found and what was expected, a name
that is not known, a field that is missing or given twice.
-/
import ChangeAudit.Decimal.Shortest
import ChangeAudit.Json.Token
import ChangeAudit.Text.Quoted

namespace ChangeAudit.Json

/-- What a reader found in the place of what it wanted. -/
inductive Found where
  | null
  | bool (b : Bool)
  | number (n : Number)
  | text (s : String)
  | sequence
  | map

/-- In which way a document does not fit. -/
inductive Complaint where
  | wrongType (found : Found) (expected : String)
  | wrongValue (found : Found) (expected : String)
  | wrongLength (length : Nat) (expected : String)
  | unknownVariant (name : String) (known : List String)
  | missingField (name : String)
  | duplicateField (name : String)

/-- Why a text could not be read. -/
inductive ReadError where
  /-- The text is not JSON. -/
  | broken (fault : Fault)
  /-- The text is JSON so far, but not of the right shape. -/
  | unfit (complaint : Complaint)

/-- A word set apart from the sentence it stands in. -/
def ticked (s : String) : String := "`" ++ s ++ "`"

/-- What was found, in words. -/
def Found.describe : Found → String
  | .null => "null"
  | .bool b => "boolean " ++ ticked (if b then "true" else "false")
  | .number (.integer n) => "integer " ++ ticked (toString n)
  | .number (.float x) => "floating point " ++ ticked (Decimal.shortest x)
  | .text s => "string " ++ Text.quoted s
  | .sequence => "sequence"
  | .map => "map"

/-- The complaint in words. -/
def Complaint.message : Complaint → String
  | .wrongType found expected => "invalid type: " ++ found.describe ++ ", expected " ++ expected
  | .wrongValue found expected => "invalid value: " ++ found.describe ++ ", expected " ++ expected
  | .wrongLength length expected =>
    "invalid length " ++ toString length ++ ", expected " ++ expected
  | .unknownVariant name known =>
    "unknown variant " ++ ticked name ++ ", expected " ++ " or ".intercalate (known.map ticked)
  | .missingField name => "missing field " ++ ticked name
  | .duplicateField name => "duplicate field " ++ ticked name

end ChangeAudit.Json
