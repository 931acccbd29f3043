/-
# Numerals

A numeral is a number as it is written: sign, whole digits, fraction digits, exponent.  Its value
is a whole number where one was written and 64 bits hold it, else a binary floating point number.

The floating point value is found in two steps.  First the digits are gathered into a whole number
that has to fit 64 bits without sign; a whole digit that no longer fits raises the exponent
instead, and a fraction digit that no longer fits ends the gathering (`Numeral.gather`).  Then the
gathered number, rounded, is multiplied or divided by the power of ten, with one more rounding
(`scaled`).  So long numerals may miss the nearest value by a little.
-/

namespace ChangeAudit.Json

/-- A number as it is written. -/
structure Numeral where
  negative : Bool := false
  whole : List Char := []
  /-- Empty if there is no decimal point. -/
  fraction : List Char := []
  /-- The sign of the exponent, `true` for minus, and its digits. -/
  exponent : Option (Bool × List Char) := none
  deriving DecidableEq, Inhabited

/-- The value of a numeral. -/
inductive Number where
  | integer (n : Int)
  | float (x : Float)

/-- The largest number that 64 bits without sign hold. -/
def maxWord : Nat := 0xffffffffffffffff

/-- The largest number that 64 bits with sign hold; the least is one further from zero. -/
def maxSigned : Nat := 0x7fffffffffffffff

/-- The largest power of ten that is a finite floating point number. -/
def maxTenPower : Nat := 308

/-- Ten to a power that is finite. -/
def tenPower (k : Nat) : Float := Float.ofScientific 1 false k

/-- The product of `significand` and ten to `exponent`; `none` if it is out of range.  If one division
by a finite power is not enough, there are two, and the number vanishes if they are not enough. -/
def scaled (significand : Nat) (exponent : Int) : Option Float :=
  let x := significand.toUInt64.toFloat
  let size := exponent.natAbs
  if significand = 0 then some 0.0
  else if 0 ≤ exponent then
    if size ≤ maxTenPower then
      let y := x * tenPower size
      if y.isInf then none else some y
    else none
  else if size ≤ maxTenPower then some (x / tenPower size)
  else if size ≤ 2 * maxTenPower then
    some (x / tenPower maxTenPower / tenPower (size - maxTenPower))
  else some 0.0

namespace Numeral

/-- The value of a decimal digit. -/
def digitValue (c : Char) : Nat := c.toNat - '0'.toNat

/-- The longest run of leading digits whose number, appended to `start`, fits 64 bits, as that
number, and the number of digits that are left. -/
def gather (start : Nat) : List Char → Nat × Nat
  | [] => (start, 0)
  | c :: rest =>
    let next := start * 10 + digitValue c
    if next ≤ maxWord then gather next rest else (start, rest.length + 1)

/-- The written exponent. -/
def writtenExponent (n : Numeral) : Int :=
  match n.exponent with
  | none => 0
  | some (true, digits) => -(Nat.ofDigitChars 10 digits 0 : Int)
  | some (false, digits) => Nat.ofDigitChars 10 digits 0

/-- The floating point value; `none` if it is out of range. -/
def float? (n : Numeral) : Option Float :=
  let whole := gather 0 n.whole
  let all := gather whole.1 n.fraction
  let used := n.fraction.length - all.2
  (scaled all.1 (whole.2 - used + n.writtenExponent)).map fun x => if n.negative then -x else x

/-- Whether the numeral has neither a fraction nor an exponent. -/
def isWhole (n : Numeral) : Bool := n.fraction.isEmpty && n.exponent.isNone

/-- The whole number that the numeral is, if it is one that 64 bits hold.  A negative zero is
not. -/
def integer? (n : Numeral) : Option Int :=
  let size := Nat.ofDigitChars 10 n.whole 0
  if !n.isWhole then none
  else if n.negative then
    if 0 < size ∧ size ≤ maxSigned + 1 then some (-(size : Int)) else none
  else if size ≤ maxWord then some size
  else none

/-- The value of the numeral; `none` if it is out of range. -/
def number? (n : Numeral) : Option Number :=
  match n.integer? with
  | some i => some (.integer i)
  | none => n.float?.map .float

end Numeral

end ChangeAudit.Json
