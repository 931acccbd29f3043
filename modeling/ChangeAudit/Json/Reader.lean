/-
# Reading documents into values

A reader takes a value from the front of a list of tokens.  It meets the tokens from left to
right and stops at the first thing that is wrong, so what stands after that does not matter.  Here
are the readers of single values, of names from a list, and of arrays; records have a module of
their own (`Json.Form`).
-/
import ChangeAudit.Json.Lexer
import ChangeAudit.Json.ReadError

namespace ChangeAudit.Json

/-! ## 1. Readers of single tokens -/

/-- A value from the front of the tokens, and the tokens after it. -/
abbrev Reader (α : Type) := List Token → Except ReadError (α × List Token)

/-- The text is broken here. -/
def broken {α : Type} (fault : Fault) : Except ReadError α := .error (.broken fault)

/-- The document does not fit here. -/
def unfit {α : Type} (complaint : Complaint) : Except ReadError α := .error (.unfit complaint)

/-- What is wrong with the next token, if it is not the start of what was expected.  A token that
is broken or out of range is reported as such; a bracket is reported without looking inside. -/
def refuse {α : Type} (expected : String) : List Token → Except ReadError α
  | [] => broken .truncated
  | .null :: _ => unfit (.wrongType .null expected)
  | .bool b :: _ => unfit (.wrongType (.bool b) expected)
  | .number n :: _ =>
    match n.number? with
    | some v => unfit (.wrongType (.number v) expected)
    | none => broken .malformed
  | .string (some s) :: _ => unfit (.wrongType (.text s) expected)
  | .openArray :: _ => unfit (.wrongType .sequence expected)
  | .openObject :: _ => unfit (.wrongType .map expected)
  | .torn _ wanted _ :: _ => broken wanted
  | .string none :: _ | .closeArray :: _ | .closeObject :: _ | .comma :: _ | .colon :: _
  | .stray :: _ => broken .malformed

/-- A text. -/
def readText (expected : String) : Reader String
  | .string (some s) :: rest => .ok (s, rest)
  | ts => refuse expected ts

/-- A text or nothing. -/
def readText? : Reader (Option String)
  | .null :: rest => .ok (none, rest)
  | ts => (readText "a string" ts).map fun (s, rest) => (some s, rest)

/-- A truth value. -/
def readBool : Reader Bool
  | .bool b :: rest => .ok (b, rest)
  | ts => refuse "a boolean" ts

/-- Nothing. -/
def readUnit : Reader Unit
  | .null :: rest => .ok ((), rest)
  | ts => refuse "unit" ts

/-- A whole number of 64 bits with sign. -/
def readInt64 : Reader Int64
  | .number n :: rest =>
    match n.integer? with
    | some i =>
      if i ≤ maxSigned then .ok (Int64.ofInt i, rest)
      else unfit (.wrongValue (.number (.integer i)) "i64")
    | none => refuse "i64" (.number n :: rest)
  | ts => refuse "i64" ts

/-- The name of a member.  Nothing else can stand there, so whatever is no text breaks the
document, and is not looked at any further. -/
def readName : Reader String
  | .string (some name) :: rest => .ok (name, rest)
  | .torn true wanted _ :: _ => broken wanted
  | [] => broken .truncated
  | _ => broken .malformed

/-- The colon between the name and the value of a member. -/
def readColon : Reader Unit
  | .colon :: rest => .ok ((), rest)
  | [] => broken .truncated
  | _ => broken .malformed

/-- A bracket that has to close here. -/
def readClosing (bracket : Token) : Reader Unit
  | [] => broken .truncated
  | t :: rest => if t = bracket then .ok ((), rest) else broken .malformed

/-! ## 2. Names from a list -/

/-- The value that a name stands for. -/
def chosen {α : Type} (known : List (String × α)) (name : String) : Except ReadError α :=
  match known.lookup name with
  | some a => .ok a
  | none => unfit (.unknownVariant name (known.map (·.1)))

/-- One of several named values: its name, or an object whose only member has that name and the
value `null`. -/
def readVariant {α : Type} (known : List (String × α)) : Reader α
  | .string (some name) :: rest => (chosen known name).map fun a => (a, rest)
  | .torn true wanted _ :: _ => broken wanted
  | .openObject :: ts => do
    let (name, ts) ← readName ts
    let a ← chosen known name
    let ((), ts) ← readColon ts
    let ((), ts) ← readUnit ts
    let ((), ts) ← readClosing .closeObject ts
    .ok (a, ts)
  | [] => broken .truncated
  | _ => broken .malformed

/-! ## 3. Arrays -/

/-- Whether an array has another element, and the tokens from there on. -/
def nextElement (isFirst : Bool) : Reader Bool
  | [] => broken .truncated
  | .closeArray :: rest => .ok (false, rest)
  | .comma :: rest =>
    if isFirst then .ok (true, .comma :: rest)
    else
      match rest with
      | [] => broken .truncated
      | .closeArray :: _ => broken .malformed
      | _ => .ok (true, rest)
  | t :: rest => if isFirst then .ok (true, t :: rest) else broken .malformed

/-- The elements of an array up to its end; there are fewer than `bound` of them. -/
def readElements {α : Type} (element : Reader α) :
    (bound : Nat) → (isFirst : Bool) → Reader (List α)
  | 0, _, _ => broken .truncated
  | bound + 1, isFirst, ts => do
    let (more, ts) ← nextElement isFirst ts
    if more then
      let (x, ts) ← element ts
      let (xs, ts) ← readElements element bound false ts
      .ok (x :: xs, ts)
    else .ok ([], ts)

/-- An array of any length. -/
def readList {α : Type} (element : Reader α) : Reader (List α)
  | .openArray :: ts => readElements element (ts.length + 1) true ts
  | ts => refuse "a sequence" ts

/-! ## 4. Whole texts -/

/-- A text that holds one value and nothing else. -/
def readWhole {α : Type} (read : Reader α) (text : String) : Except ReadError α :=
  match read (tokens text.toList) with
  | .error e => .error e
  | .ok (a, []) => .ok a
  | .ok (_, _ :: _) => broken .malformed

end ChangeAudit.Json
