/-
# From characters to tokens

The text of a document is cut into tokens by a machine that looks at one character at a time
(`Lexer.step`).  Blanks between tokens vanish.  A word is complete with its last letter, whatever
follows it; a numeral ends before the first character that cannot continue it, and that character
is then looked at as one between tokens.  After a fault nothing more is read.
-/
import ChangeAudit.Json.Token

namespace ChangeAudit.Json

/-! ## 1. The machine -/

/-- Where the machine is. -/
inductive Lexer where
  /-- Between tokens. -/
  | between
  /-- In a word, with the letters that are still to come. -/
  | word (w : Word) (next : Char) (rest : List Char)
  | numeral (n : Numeral) (part : NumeralPart)
  | text (t : PartialText)
  /-- After a fault. -/
  | stopped
  deriving DecidableEq, Inhabited

namespace Lexer

/-- Blanks between tokens. -/
def isBlank (c : Char) : Bool := c = ' ' || c = '\n' || c = '\t' || c = '\r'

/-- A token that goes wrong outside a text. -/
def broken : Lexer × List Token := (.stopped, [.torn false .malformed .malformed])

/-! ## 2. One character -/

/-- A character between tokens. -/
def begin (c : Char) : Lexer × List Token :=
  if isBlank c then (.between, [])
  else if c = '[' then (.between, [.openArray])
  else if c = ']' then (.between, [.closeArray])
  else if c = '\x7b' then (.between, [.openObject])
  else if c = '\x7d' then (.between, [.closeObject])
  else if c = ',' then (.between, [.comma])
  else if c = ':' then (.between, [.colon])
  else if c = '"' then (.text {}, [])
  else if c = 'n' then (.word .null 'u' ['l', 'l'], [])
  else if c = 't' then (.word .true 'r' ['u', 'e'], [])
  else if c = 'f' then (.word .false 'a' ['l', 's', 'e'], [])
  else if c = '-' then (.numeral { negative := true } .sign, [])
  else if c = '0' then (.numeral { whole := ['0'] } .zero, [])
  else if c.isDigit then (.numeral { whole := [c] } .whole, [])
  else (.stopped, [.stray])

/-- A character inside a word, where `next` has to come. -/
def stepWord (w : Word) (next : Char) (rest : List Char) (c : Char) : Lexer × List Token :=
  if c = next then
    match rest with
    | [] => (.between, [w.token])
    | l :: rest => (.word w l rest, [])
  else broken

/-- The exponent of a numeral with one more digit. -/
def withExponentDigit (n : Numeral) (c : Char) : Numeral :=
  match n.exponent with
  | none => { n with exponent := some (false, [c]) }
  | some (negative, digits) => { n with exponent := some (negative, digits ++ [c]) }

/-- The part of a numeral that a character continues it with; `none` if it does not continue it. -/
def continued (n : Numeral) (part : NumeralPart) (c : Char) : Option (Numeral × NumeralPart) :=
  let isMark := c = 'e' || c = 'E'
  match part with
  | .sign =>
    if c = '0' then some ({ n with whole := ['0'] }, .zero)
    else if c.isDigit then some ({ n with whole := [c] }, .whole)
    else none
  | .zero =>
    if c = '.' then some (n, .point)
    else if isMark then some ({ n with exponent := some (false, []) }, .mark)
    else none
  | .whole =>
    if c.isDigit then some ({ n with whole := n.whole ++ [c] }, .whole)
    else if c = '.' then some (n, .point)
    else if isMark then some ({ n with exponent := some (false, []) }, .mark)
    else none
  | .point =>
    if c.isDigit then some ({ n with fraction := [c] }, .fraction) else none
  | .fraction =>
    if c.isDigit then some ({ n with fraction := n.fraction ++ [c] }, .fraction)
    else if isMark then some ({ n with exponent := some (false, []) }, .mark)
    else none
  | .mark =>
    if c = '+' then some (n, .markSign)
    else if c = '-' then some ({ n with exponent := some (true, []) }, .markSign)
    else if c.isDigit then some (withExponentDigit n c, .exponent)
    else none
  | .markSign | .exponent =>
    if c.isDigit then some (withExponentDigit n c, .exponent) else none

/-- A character after the part of a numeral that has been read. -/
def stepNumeral (n : Numeral) (part : NumeralPart) (c : Char) : Lexer × List Token :=
  match continued n part c with
  | some (n, part) => (.numeral n part, [])
  | none =>
    if !part.complete || (part = .zero && c.isDigit) then broken
    else ((begin c).1, .number n :: (begin c).2)

/-- A character inside a text.  The four characters of a code unit are counted in bytes, and are
judged when the fourth byte has been seen. -/
def stepText (t : PartialText) (c : Char) : Lexer × List Token :=
  match t.part with
  | .plain =>
    if c = '\\' then (.text { t with part := .escape }, [])
    else if c = '"' then (.between, [t.token])
    else if c.toNat < 32 then (.stopped, [t.settle.torn .malformed])
    else (.text (t.settle.push c), [])
  | .escape =>
    if c = 'u' then (.text { t with part := .unit 0 0 true }, [])
    else
      match unescaped? c with
      | some d => (.text (t.settle.push d), [])
      | none => (.stopped, [t.settle.torn .malformed])
  | .unit seen value valid =>
    let seen := seen + c.utf8Size
    let valid := valid && (hexValue? c).isSome
    let value := value * 16 + (hexValue? c).getD 0
    if seen < 4 then (.text { t with part := .unit seen value valid }, [])
    else if valid then (.text (t.pushUnit value), [])
    else (.stopped, [t.torn .malformed])

/-- One character: where the machine is afterwards, and the tokens that it has finished. -/
def step (l : Lexer) (c : Char) : Lexer × List Token :=
  match l with
  | .between => begin c
  | .word w next rest => stepWord w next rest c
  | .numeral n part => stepNumeral n part c
  | .text t => stepText t c
  | .stopped => (.stopped, [])

/-! ## 3. Whole texts -/

/-- The end of the text. -/
def finish : Lexer → List Token
  | .between => []
  | .word _ _ _ => [.torn false .truncated .truncated]
  | .numeral n part => if part.complete then [.number n] else [.torn false .truncated .malformed]
  | .text t => [t.torn .truncated]
  | .stopped => []

/-- Reads characters: where the machine is afterwards, and the tokens that it has finished. -/
def read (l : Lexer) : List Char → Lexer × List Token
  | [] => (l, [])
  | c :: rest =>
    let (l, finished) := l.step c
    let (l, more) := l.read rest
    (l, finished ++ more)

/-- Reading a text in two parts is reading it at once. -/
theorem read_append (l : Lexer) (a b : List Char) :
    l.read (a ++ b) =
      (((l.read a).1.read b).1, (l.read a).2 ++ ((l.read a).1.read b).2) := by
  induction a generalizing l with
  | nil => rfl
  | cons c rest ih => simp [read, ih]

end Lexer

/-- The tokens of a text. -/
def tokens (text : List Char) : List Token :=
  (Lexer.between.read text).2 ++ (Lexer.between.read text).1.finish

end ChangeAudit.Json
