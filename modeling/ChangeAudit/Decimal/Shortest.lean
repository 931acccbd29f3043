/-
# The shortest decimal of a floating point number

Many decimals are nearer to a given binary floating point number than to any other.  Among those
with the fewest digits, the one nearest to the number is its text (`shortest`).

A finite positive number is `m` times two to the `q`.  The decimals that read back as it lie in an
interval around it, whose ends belong to it if `m` is even, since a reader rounds a tie to even.
With `n` digits, the two candidates are the neighbours of the number on the grid of `n`-digit
decimals, and the search takes `n` from 1 to 17, which is always enough.  All of it is done on
natural numbers.
-/

namespace ChangeAudit.Decimal

/-- A positive number `m · 2^q` and the ends of the interval of the decimals that read back as it,
as multiples of two to the `unit`. -/
structure Target where
  low : Nat
  value : Nat
  high : Nat
  unit : Int
  /-- Whether the ends read back as the number. -/
  closed : Bool

/-- The number of values of the 52 bits that are stored of a significand. -/
def storedRange : Nat := 0x10000000000000

/-- The number of values of the 63 bits beside the sign. -/
def unsignedRange : Nat := 0x8000000000000000

/-- The target of the finite number with these bits, sign apart. -/
def Target.ofBits (bits : Nat) : Target :=
  let stored : Nat := bits % storedRange
  let field : Nat := bits / storedRange
  let m : Nat := if field = 0 then stored else storedRange + stored
  let q : Int := if field = 0 then -1074 else (field : Int) - 1075
  { low := if stored = 0 && field > 1 then 4 * m - 1 else 4 * m - 2
    value := 4 * m
    high := 4 * m + 2
    unit := q - 2
    closed := m % 2 = 0 }

/-- The number `n · base^e` as a fraction. -/
def asFraction (n base : Nat) (e : Int) : Nat × Nat :=
  if 0 ≤ e then (n * Nat.pow base e.natAbs, 1) else (n, Nat.pow base e.natAbs)

/-- The fraction `n · 2^unit / 10^e`. -/
def onGrid (n : Nat) (unit e : Int) : Nat × Nat :=
  let (a, b) := asFraction n 2 unit
  let (c, d) := asFraction 1 10 e
  (a * d, b * c)

namespace Target

/-- How many digits the number has before the point; at most 0 if it is below one tenth. -/
def exponent (t : Target) : Int :=
  let rec search (fuel : Nat) (e : Int) : Int :=
    match fuel with
    | 0 => e
    | fuel + 1 =>
      let (a, b) := onGrid t.value t.unit (e - 1)
      if b ≤ a then e else search fuel (e - 1)
  search 640 310

/-- Whether `digits · 10^e` reads back as the number. -/
def accepts (t : Target) (digits : Nat) (e : Int) : Bool :=
  let (a, b) := onGrid t.low t.unit e
  let (c, d) := onGrid t.high t.unit e
  if t.closed then a ≤ digits * b && digits * d ≤ c else a < digits * b && digits * d < c

/-- The nearest decimal `digits · 10^e` that reads back as the number, if there is one; of two at
the same distance the even one. -/
def onGrid? (t : Target) (e : Int) : Option Nat :=
  let (a, b) := onGrid t.value t.unit e
  let below := a / b
  let above := below + 1
  let toBelow := a - below * b
  let toAbove := above * b - a
  match t.accepts below e, t.accepts above e with
  | true, true =>
    if toBelow < toAbove || (toBelow = toAbove && below % 2 = 0) then some below else some above
  | true, false => some below
  | false, true => some above
  | false, false => none

/-- The shortest decimal with at least `n` digits: its digits as a number, and its exponent. -/
def search (t : Target) (exponent : Int) : (fuel n : Nat) → Nat × Int
  | 0, _ => (t.value, t.unit)
  | fuel + 1, n =>
    match t.onGrid? (exponent - n) with
    | some digits => (digits, exponent - n)
    | none => search t exponent fuel (n + 1)

/-- The shortest decimal that reads back as the number. -/
def shortest (t : Target) : Nat × Int := t.search t.exponent 17 1

end Target

/-- How decimals are laid out. -/
structure Layout where
  /-- The lowest power of ten for the first digit of a number in positional notation. -/
  lowest : Int
  /-- The highest such power. -/
  highest : Int
  deriving DecidableEq

/-- Numbers in messages are positional from 0.00001 up to sixteen digits before the point. -/
def messageLayout : Layout := { lowest := -5, highest := 15 }

/-- Digits with a point after the first `before` of them, at least one digit on either side. -/
def positional (digits : List Char) (before : Int) : List Char :=
  if before ≤ 0 then
    '0' :: '.' :: List.replicate before.natAbs '0' ++ digits
  else
    let k := before.natAbs
    let padded := digits ++ List.replicate (k - digits.length) '0'
    let rest := padded.drop k
    padded.take k ++ '.' :: (if rest.isEmpty then ['0'] else rest)

/-- Digits with a point after the first, and the power of ten where the first stands, with its
sign. -/
def scientific (digits : List Char) (power : Int) : List Char :=
  let rest := digits.drop 1
  digits.take 1 ++ (if rest.isEmpty then [] else '.' :: rest) ++
    'e' :: (if power < 0 then '-' else '+') :: Nat.toDigits 10 power.natAbs

/-- The text of a positive decimal `digits · 10^e`. -/
def render (layout : Layout) (digits : Nat) (e : Int) : List Char :=
  let all := Nat.toDigits 10 digits
  let significant := (all.reverse.dropWhile (· == '0')).reverse
  let before : Int := all.length + e
  if layout.lowest ≤ before - 1 ∧ before - 1 ≤ layout.highest then positional significant before
  else scientific significant (before - 1)

/-- The shortest text that reads back as the number. -/
def shortest (x : Float) : String :=
  let bits := x.toBits.toNat
  let negative := unsignedRange ≤ bits
  let size := bits % unsignedRange
  let text :=
    if size = 0 then "0.0".toList
    else
      let (digits, e) := (Target.ofBits size).shortest
      render messageLayout digits e
  String.ofList (if negative then '-' :: text else text)

example : render messageLayout 15 (-1) = "1.5".toList := by decide

example : render messageLayout 1 3 = "1000.0".toList := by decide

example : render messageLayout 1 (-5) = "0.00001".toList := by decide

example : render messageLayout 12 15 = "1.2e+16".toList := by decide

example : render messageLayout 5 (-324) = "5e-324".toList := by decide

end ChangeAudit.Decimal
