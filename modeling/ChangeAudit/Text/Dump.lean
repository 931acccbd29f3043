/-
# Dumps

A dump is the text of a value for a reader who debugs: its parts with their names, either on one
line or laid out over several, four spaces deeper at each level, with a comma after every part.
A value without parts looks the same in both forms, and so does an empty list.
-/
import ChangeAudit.Text.Quoted

namespace ChangeAudit.Text

/-- The outline of a value. -/
inductive Dump where
  /-- A value shown by its text alone. -/
  | atom (text : String)
  | list (items : List Dump)
  | record (name : String) (fields : List (String × Dump))
  /-- A value inside a named case. -/
  | wrapped (name : String) (item : Dump)

namespace Dump

/-- Text, quoted. -/
def ofString (s : String) : Dump := .atom (quoted s)

def ofNat (n : Nat) : Dump := .atom (toString n)

def ofInt (n : Int) : Dump := .atom (toString n)

def ofBool (b : Bool) : Dump := .atom (if b then "true" else "false")

/-- A value that may be absent. -/
def ofOption : Option Dump → Dump
  | none => .atom "None"
  | some d => .wrapped "Some" d

/-! ## 1. On one line -/

mutual

/-- The value on one line. -/
def inline : Dump → String
  | .atom text => text
  | .list items => "[" ++ inlineItems items ++ "]"
  | .record name fields => name ++ " \x7b " ++ inlineFields fields ++ " \x7d"
  | .wrapped name item => name ++ "(" ++ item.inline ++ ")"

/-- Items with a comma and a space between them. -/
def inlineItems : List Dump → String
  | [] => ""
  | [d] => d.inline
  | d :: rest => d.inline ++ ", " ++ inlineItems rest

/-- Named parts with a comma and a space between them. -/
def inlineFields : List (String × Dump) → String
  | [] => ""
  | [(name, d)] => name ++ ": " ++ d.inline
  | (name, d) :: rest => name ++ ": " ++ d.inline ++ ", " ++ inlineFields rest

end

/-! ## 2. Laid out -/

/-- A line break, and the indentation of the next line. -/
def newline (depth : Nat) : String := "\n" ++ "".pushn ' ' (4 * depth)

mutual

/-- The value over several lines; `depth` is the depth of the line it starts on. -/
def block (depth : Nat) : Dump → String
  | .atom text => text
  | .list [] => "[]"
  | .list items => "[" ++ blockItems (depth + 1) items ++ newline depth ++ "]"
  | .record name fields =>
    name ++ " \x7b" ++ blockFields (depth + 1) fields ++ newline depth ++ "\x7d"
  | .wrapped name item =>
    name ++ "(" ++ newline (depth + 1) ++ item.block (depth + 1) ++ "," ++ newline depth ++ ")"

/-- Each item on its own lines, a comma after it. -/
def blockItems (depth : Nat) : List Dump → String
  | [] => ""
  | d :: rest => newline depth ++ d.block depth ++ "," ++ blockItems depth rest

/-- Each named part on its own lines, a comma after it. -/
def blockFields (depth : Nat) : List (String × Dump) → String
  | [] => ""
  | (name, d) :: rest =>
    newline depth ++ name ++ ": " ++ d.block depth ++ "," ++ blockFields depth rest

end

/-- The value on one line, or laid out from the left margin. -/
def render (laidOut : Bool) (d : Dump) : String := if laidOut then d.block 0 else d.inline

end Dump

end ChangeAudit.Text
