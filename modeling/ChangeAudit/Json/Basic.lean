/-
# JSON documents and their written form

The documents that reports and settings are written as, in two written forms: compact, with no
blanks at all, and laid out, with two more spaces of indentation inside every bracket, one element
or member on each line, and a space after every colon.  An empty array is `[]` in both.

A text is written between double quotes.  The double quote, the backslash and the characters below
U+0020 are escaped, the latter by a letter where one exists; every other character stands as it is.
-/

namespace ChangeAudit

/-- A document. -/
inductive Json where
  | null
  | bool (b : Bool)
  | int (n : Int)
  | string (s : String)
  | array (items : List Json)
  | object (members : List (String × Json))
  deriving Inhabited

namespace Json

/-! ## 1. Texts and numbers -/

/-- How a character is written inside a text. -/
def escapedChar (c : Char) : List Char :=
  if c = '"' then ['\\', '"']
  else if c = '\\' then ['\\', '\\']
  else if c = '\x08' then ['\\', 'b']
  else if c = '\t' then ['\\', 't']
  else if c = '\n' then ['\\', 'n']
  else if c = '\x0c' then ['\\', 'f']
  else if c = '\r' then ['\\', 'r']
  else if c.toNat < 32 then
    ['\\', 'u', '0', '0', Nat.digitChar (c.toNat / 16), Nat.digitChar (c.toNat % 16)]
  else [c]

/-- A text between double quotes. -/
def quoted (s : String) : List Char := '"' :: s.toList.flatMap escapedChar ++ ['"']

/-- A whole number: decimal digits, after a minus sign if it is negative. -/
def decimal : Int → List Char
  | .ofNat n => Nat.toDigits 10 n
  | .negSucc n => '-' :: Nat.toDigits 10 (n + 1)

/-- A truth value. -/
def truth (b : Bool) : List Char := if b then "true".toList else "false".toList

/-! ## 2. The compact form -/

mutual

/-- The document without any blanks. -/
def compactChars : Json → List Char
  | .null => "null".toList
  | .bool b => truth b
  | .int n => decimal n
  | .string s => quoted s
  | .array items => '[' :: compactItems items ++ [']']
  | .object members => '\x7b' :: compactMembers members ++ ['\x7d']

/-- Elements with commas between them. -/
def compactItems : List Json → List Char
  | [] => []
  | [d] => d.compactChars
  | d :: rest => d.compactChars ++ ',' :: compactItems rest

/-- Members with commas between them. -/
def compactMembers : List (String × Json) → List Char
  | [] => []
  | [(key, d)] => quoted key ++ ':' :: d.compactChars
  | (key, d) :: rest => quoted key ++ ':' :: d.compactChars ++ ',' :: compactMembers rest

end

/-- The document on one line, without blanks. -/
def compact (d : Json) : String := String.ofList d.compactChars

/-! ## 3. The laid out form -/

/-- A line break, and the indentation of the next line. -/
def newline (depth : Nat) : List Char := '\n' :: List.replicate (2 * depth) ' '

mutual

/-- The document over several lines; `depth` is the depth of the line it starts on. -/
def prettyChars (depth : Nat) : Json → List Char
  | .null => "null".toList
  | .bool b => truth b
  | .int n => decimal n
  | .string s => quoted s
  | .array [] => ['[', ']']
  | .array items => '[' :: prettyItems (depth + 1) items ++ newline depth ++ [']']
  | .object [] => ['\x7b', '\x7d']
  | .object members => '\x7b' :: prettyMembers (depth + 1) members ++ newline depth ++ ['\x7d']

/-- Each element on a line of its own, with commas between them. -/
def prettyItems (depth : Nat) : List Json → List Char
  | [] => []
  | [d] => newline depth ++ d.prettyChars depth
  | d :: rest => newline depth ++ d.prettyChars depth ++ ',' :: prettyItems depth rest

/-- Each member on a line of its own, with commas between them. -/
def prettyMembers (depth : Nat) : List (String × Json) → List Char
  | [] => []
  | [(key, d)] => newline depth ++ quoted key ++ ':' :: ' ' :: d.prettyChars depth
  | (key, d) :: rest =>
    newline depth ++ quoted key ++ ':' :: ' ' :: d.prettyChars depth ++
      ',' :: prettyMembers depth rest

end

/-- The document over several lines, from the left margin. -/
def pretty (d : Json) : String := String.ofList (d.prettyChars 0)

/-- A text that may be absent. -/
def ofText? : Option String → Json
  | none => .null
  | some s => .string s

end Json

end ChangeAudit
