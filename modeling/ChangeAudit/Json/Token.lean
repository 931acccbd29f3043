/-
# Tokens of JSON text

What is no token at all is a `stray`, and a token that breaks off or goes wrong inside is a `torn`,
after which nothing is read.  So every text has a list of tokens, and a reader of the tokens meets
the faults of the text in the order in which they stand in it.

A reader needs three things of a fault.  Whether the text merely ended or was no JSON (`Fault`),
because the two are told apart in reports; whether it happened inside a text, because some readers
look at a text more closely than at any other token; and whether the token was wanted or only
passed over, because two faults depend on that.  A text in which half of a character pair stands
alone is sound as long as nobody wants it, and a numeral that ends too early counts as cut off for
a reader who wants it, but as wrong for one who passes over it.

A word, a numeral and a text take several characters.  The types for how far each of them has come
are here as well; the machine that reads the characters is in `Json.Lexer`.
-/
import ChangeAudit.Json.Numeral

namespace ChangeAudit.Json

/-- What can be wrong with a text, other than holding the wrong document. -/
inductive Fault where
  /-- The text ends too early. -/
  | truncated
  /-- The text is not JSON. -/
  | malformed
  deriving DecidableEq, Inhabited

/-- A token. -/
inductive Token where
  | openArray
  | closeArray
  | openObject
  | closeObject
  | comma
  | colon
  | null
  | bool (b : Bool)
  | number (n : Numeral)
  /-- A text; `none` if it holds half of a character pair alone. -/
  | string (text : Option String)
  /-- A token that breaks off: whether it is a text, the fault for a reader who wants it, and the
  fault for one who passes over it. -/
  | torn (inText : Bool) (wanted passed : Fault)
  /-- A character that begins no token. -/
  | stray
  deriving DecidableEq, Inhabited

/-! ## 1. Words, numerals and texts in the making -/

/-- The three words of the language. -/
inductive Word where
  | null
  | true
  | false
  deriving DecidableEq, Inhabited

/-- The token that a word is. -/
def Word.token : Word → Token
  | .null => .null
  | .true => .bool Bool.true
  | .false => .bool Bool.false

/-- How far a numeral has come. -/
inductive NumeralPart where
  /-- After the minus sign. -/
  | sign
  /-- After a leading zero. -/
  | zero
  /-- In the whole digits. -/
  | whole
  /-- After the point. -/
  | point
  | fraction
  /-- After the exponent mark. -/
  | mark
  /-- After the sign of the exponent. -/
  | markSign
  | exponent
  deriving DecidableEq, Inhabited

/-- Whether a numeral may end here. -/
def NumeralPart.complete : NumeralPart → Bool
  | .zero | .whole | .fraction | .exponent => true
  | .sign | .point | .mark | .markSign => false

/-- How far a text has come. -/
inductive TextPart where
  | plain
  /-- After a backslash. -/
  | escape
  /-- In the four bytes of a code unit: how many have been seen, the value so far, and whether all
  were hexadecimal digits. -/
  | unit (seen value : Nat) (valid : Bool)
  deriving DecidableEq, Inhabited

/-- A text in the making. -/
structure PartialText where
  /-- The characters so far; `none` once half of a pair stood alone. -/
  chars : Option (List Char) := some []
  /-- The first half of a character pair, waiting for the second. -/
  half : Option Nat := none
  part : TextPart := .plain
  deriving DecidableEq, Inhabited

namespace PartialText

/-- Gives up a waiting half. -/
def settle (t : PartialText) : PartialText :=
  if t.half.isSome then { t with chars := none, half := none } else t

/-- One more character. -/
def push (t : PartialText) (c : Char) : PartialText :=
  { t with chars := t.chars.map (· ++ [c]), part := .plain }

/-- A code unit from `low` to `high`. -/
def isUnitIn (low high value : Nat) : Bool := low ≤ value && value ≤ high

/-- One more code unit: a character of its own, the first half of a pair, or the second. -/
def pushUnit (t : PartialText) (value : Nat) : PartialText :=
  match t.half with
  | some first =>
    if isUnitIn 0xdc00 0xdfff value then
      { t with half := none }.push
        (Char.ofNat ((first - 0xd800) * 0x400 + (value - 0xdc00) + 0x10000))
    else { t with chars := none, half := none, part := .plain }
  | none =>
    if isUnitIn 0xd800 0xdbff value then { t with half := some value, part := .plain }
    else if isUnitIn 0xdc00 0xdfff value then { t with chars := none, part := .plain }
    else t.push (Char.ofNat value)

/-- The fault of breaking off with `fault`: a text that held a lone half is wrong anyway for a
reader who wants it. -/
def torn (t : PartialText) (fault : Fault) : Token :=
  .torn true (if t.chars.isSome then fault else .malformed) fault

/-- The token of a text that has ended. -/
def token (t : PartialText) : Token := .string (t.settle.chars.map String.ofList)

end PartialText

/-- The character that a letter stands for after a backslash. -/
def unescaped? (c : Char) : Option Char :=
  if c = '"' then some '"'
  else if c = '\\' then some '\\'
  else if c = '/' then some '/'
  else if c = 'b' then some '\x08'
  else if c = 'f' then some '\x0c'
  else if c = 'n' then some '\n'
  else if c = 'r' then some '\r'
  else if c = 't' then some '\t'
  else none

/-- The value of a hexadecimal digit. -/
def hexValue? (c : Char) : Option Nat :=
  if '0' ≤ c ∧ c ≤ '9' then some (c.toNat - '0'.toNat)
  else if 'a' ≤ c ∧ c ≤ 'f' then some (c.toNat - 'a'.toNat + 10)
  else if 'A' ≤ c ∧ c ≤ 'F' then some (c.toNat - 'A'.toNat + 10)
  else none

end ChangeAudit.Json
