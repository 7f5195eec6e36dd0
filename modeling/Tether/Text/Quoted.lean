import Tether.Text.Printable

/-!
# Strings in diagnostics

Diagnostics show a string between quotes. What would break the line or not be
seen is written as an escape: the quote, the backslash, the common control
characters by letter, and everything that is not shown as itself by number.
-/

namespace Tether.Text

/-- The hexadecimal digits of a number, without zeros in front. -/
def hexDigits (n : Nat) : List Char :=
  Nat.toDigits 16 n

/-- A character as it is shown between quotes. -/
def showChar (c : Char) : List Char :=
  if c.toNat = 0 then ['\\', '0']
  else if c = '\t' then ['\\', 't']
  else if c = '\r' then ['\\', 'r']
  else if c = '\n' then ['\\', 'n']
  else if c = '\\' then ['\\', '\\']
  else if c = '\"' then ['\\', '\"']
  else if isPrintable c then [c]
  else ['\\', 'u', '{'] ++ hexDigits c.toNat ++ ['}']

/-- A string as it is shown. -/
def quoted (s : String) : String :=
  String.ofList ('\"' :: s.toList.flatMap showChar ++ ['\"'])

/-- A list of strings as it is shown. -/
def quotedList (names : List String) : String :=
  "[" ++ ", ".intercalate (names.map quoted) ++ "]"

end Tether.Text
