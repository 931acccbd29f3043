/-
# Quoted text

Text in a report stands between double quotes.  Tab, newline, carriage return, NUL, the double
quote and the backslash have short escapes; a character without a glyph of its own is written by
its code point, `\u` and lower case hexadecimal digits in braces, without padding.  The single
quote is left as it is.
-/
import ChangeAudit.Text.Unprintable

namespace ChangeAudit.Text

/-- A character by its code point. -/
def codePointEscape (c : Char) : List Char :=
  ['\\', 'u', '\x7b'] ++ Nat.toDigits 16 c.toNat ++ ['\x7d']

/-- How one character is written between the quotes. -/
def quotedChar (c : Char) : List Char :=
  if c = '\t' then ['\\', 't']
  else if c = '\n' then ['\\', 'n']
  else if c = '\r' then ['\\', 'r']
  else if c = '\x00' then ['\\', '0']
  else if c = '"' then ['\\', '"']
  else if c = '\\' then ['\\', '\\']
  else if isUnprintable c then codePointEscape c
  else [c]

/-- Text between double quotes. -/
def quoted (text : String) : String :=
  String.ofList (['"'] ++ text.toList.flatMap quotedChar ++ ['"'])

end ChangeAudit.Text
