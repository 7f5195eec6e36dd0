import Tether.Json.Number

/-!
# Writing JSON

Two forms of one value: compact, without a blank anywhere, and laid out with two
spaces a level. Strings escape the quote, the backslash and the control
characters below the space, and nothing else.
-/

namespace Tether.Json

/-- The digits of `\u00xx`. -/
def hexDigit (n : Nat) : Char :=
  if n < 10 then Char.ofNat (n + 48) else Char.ofNat (n + 87)

/-- A character inside a string. -/
def escape (c : Char) : List Char :=
  if c = '\"' then ['\\', '\"']
  else if c = '\\' then ['\\', '\\']
  else if c = '\n' then ['\\', 'n']
  else if c = '\r' then ['\\', 'r']
  else if c = '\t' then ['\\', 't']
  else if c.toNat = 8 then ['\\', 'b']
  else if c.toNat = 12 then ['\\', 'f']
  else if c.toNat < 32 then
    ['\\', 'u', '0', '0', hexDigit (c.toNat / 16), hexDigit (c.toNat % 16)]
  else [c]

/-- A string in its quotes. -/
def quote (s : String) : List Char :=
  '\"' :: s.toList.flatMap escape ++ ['\"']

mutual

/-- A value in compact form. -/
def compact : Json → List Char
  | null => "null".toList
  | bool true => "true".toList
  | bool false => "false".toList
  | num n => n.chars
  | str s => quote s
  | arr items => '[' :: compactItems items ++ [']']
  | obj fields => '{' :: compactFields fields ++ ['}']

/-- Items with commas between them. -/
def compactItems : List Json → List Char
  | [] => []
  | [x] => compact x
  | x :: y :: rest => compact x ++ ',' :: compactItems (y :: rest)

/-- A member. -/
def compactField : String × Json → List Char
  | (k, v) => quote k ++ ':' :: compact v

/-- Members with commas between them. -/
def compactFields : List (String × Json) → List Char
  | [] => []
  | [x] => compactField x
  | x :: y :: rest => compactField x ++ ',' :: compactFields (y :: rest)

end

/-- A new line at a level. -/
def newline (level : Nat) : List Char :=
  '\n' :: List.replicate (2 * level) ' '

mutual

/-- A value laid out over lines. Empty containers stay on one. -/
def pretty (level : Nat) : Json → List Char
  | null => "null".toList
  | bool true => "true".toList
  | bool false => "false".toList
  | num n => n.chars
  | str s => quote s
  | arr [] => "[]".toList
  | arr (x :: rest) =>
      '[' :: newline (level + 1) ++ pretty (level + 1) x ++ prettyItems (level + 1) rest
        ++ newline level ++ [']']
  | obj [] => ['{', '}']
  | obj (x :: rest) =>
      '{' :: newline (level + 1) ++ prettyField (level + 1) x ++ prettyFields (level + 1) rest
        ++ newline level ++ ['}']

/-- Items after the first. -/
def prettyItems (level : Nat) : List Json → List Char
  | [] => []
  | x :: rest => ',' :: newline level ++ pretty level x ++ prettyItems level rest

/-- A member with a space after its colon. -/
def prettyField (level : Nat) : String × Json → List Char
  | (k, v) => quote k ++ ':' :: ' ' :: pretty level v

/-- Members after the first. -/
def prettyFields (level : Nat) : List (String × Json) → List Char
  | [] => []
  | x :: rest => ',' :: newline level ++ prettyField level x ++ prettyFields level rest

end

/-- The compact text of a value. -/
def text (j : Json) : String :=
  String.ofList j.compact

/-- The text of a value laid out over lines. -/
def prettyText (j : Json) : String :=
  String.ofList (j.pretty 0)

end Tether.Json
