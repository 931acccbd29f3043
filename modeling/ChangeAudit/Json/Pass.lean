/-
# Passing over values

A value that nobody wants has to be JSON all the same, to any depth.  `pass` keeps the open brackets
in a list and looks at each token once.
-/
import ChangeAudit.Json.Reader

namespace ChangeAudit.Json

/-- A bracket that is open. -/
inductive Bracket where
  | array
  | object
  deriving DecidableEq

/-- What has to come next in a value that is passed over. -/
inductive Due where
  | value
  /-- The first element or member, or the closing bracket. -/
  | first
  /-- A comma or the closing bracket. -/
  | next
  /-- The name of a member. -/
  | name
  | colon
  deriving DecidableEq

/-- The start of a value. -/
def passValue (opened : List Bracket) : Token → Except Fault (Due × List Bracket)
  | .null | .bool _ | .number _ | .string _ => .ok (.next, opened)
  | .openArray => .ok (.first, .array :: opened)
  | .openObject => .ok (.first, .object :: opened)
  | .torn _ _ passed => .error passed
  | .closeArray | .closeObject | .comma | .colon | .stray => .error .malformed

/-- The name of a member. -/
def passName (opened : List Bracket) : Token → Except Fault (Due × List Bracket)
  | .string _ => .ok (.colon, opened)
  | .torn true _ passed => .error passed
  | _ => .error .malformed

/-- One token of a value that is passed over: what is due after it, and which brackets are open. -/
def passToken (due : Due) (opened : List Bracket) (t : Token) : Except Fault (Due × List Bracket) :=
  match due, opened with
  | .value, _ => passValue opened t
  | .name, _ => passName opened t
  | .colon, _ => if t = .colon then .ok (.value, opened) else .error .malformed
  | .first, .array :: outer =>
    if t = .closeArray then .ok (.next, outer) else passValue opened t
  | .first, .object :: outer =>
    if t = .closeObject then .ok (.next, outer) else passName opened t
  | .next, .array :: outer =>
    if t = .closeArray then .ok (.next, outer)
    else if t = .comma then .ok (.value, opened)
    else .error .malformed
  | .next, .object :: outer =>
    if t = .closeObject then .ok (.next, outer)
    else if t = .comma then .ok (.name, opened)
    else .error .malformed
  | .first, [] | .next, [] => .error .malformed

/-- Passes over the rest of a value. -/
def passRest (due : Due) (opened : List Bracket) : List Token → Except ReadError (List Token)
  | [] => broken .truncated
  | t :: ts =>
    match passToken due opened t with
    | .error fault => broken fault
    | .ok (.next, []) => .ok ts
    | .ok (due, opened) => passRest due opened ts

/-- The tokens after the next value, whatever it is. -/
def pass : List Token → Except ReadError (List Token) := passRest .value []

end ChangeAudit.Json
