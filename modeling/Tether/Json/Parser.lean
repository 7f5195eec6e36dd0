import Tether.Json.Number

/-!
# Reading JSON

A reader takes a value off the start of a text and gives back the rest. Depth is
bounded: a text may nest 127 arrays and objects and no more. That bound is what
the recursion is on, so a value at depth `d` is read with readers for depth
`d - 1` as an argument, and only the loop over the members of one container
counts its steps.

`skim?` goes over a value without keeping it. It checks the grammar alone: depth,
the range of numbers and the pairing of surrogates do not matter in a value that
is thrown away.
-/

namespace Tether.Json

/-- Takes a value off the start of a text. -/
abbrev Reader (α : Type) := List Char → Option (α × List Char)

/-- How deeply arrays and objects may nest. -/
def maxDepth : Nat := 127

/-- Whether a character may stand between tokens. -/
def isBlank (c : Char) : Bool :=
  c = ' ' || c = '\n' || c = '\t' || c = '\r'

/-- The text from its first token on. -/
def skipBlank (cs : List Char) : List Char :=
  cs.dropWhile isBlank

/-- The value of a hexadecimal digit. -/
def hexValue? (c : Char) : Option Nat :=
  if '0' ≤ c ∧ c ≤ '9' then some (c.toNat - 48)
  else if 'a' ≤ c ∧ c ≤ 'f' then some (c.toNat - 87)
  else if 'A' ≤ c ∧ c ≤ 'F' then some (c.toNat - 55)
  else none

/-- The value of four hexadecimal digits. -/
def hex4? (a b c d : Char) : Option Nat := do
  let a ← hexValue? a
  let b ← hexValue? b
  let c ← hexValue? c
  let d ← hexValue? d
  some (((a * 16 + b) * 16 + c) * 16 + d)

/-- The character a backslash and a letter stand for. -/
def unescape? (c : Char) : Option Char :=
  if c = '\"' then some '\"'
  else if c = '\\' then some '\\'
  else if c = '/' then some '/'
  else if c = 'b' then some (Char.ofNat 8)
  else if c = 'f' then some (Char.ofNat 12)
  else if c = 'n' then some '\n'
  else if c = 'r' then some '\r'
  else if c = 't' then some '\t'
  else none

/-- Whether a unit is the first half of a surrogate pair. -/
def isHigh (n : Nat) : Bool :=
  0xD800 ≤ n && n < 0xDC00

/-- Whether a unit is the second half of a surrogate pair. -/
def isLow (n : Nat) : Bool :=
  0xDC00 ≤ n && n < 0xE000

/-- The character of a surrogate pair. -/
def paired (high low : Nat) : Char :=
  Char.ofNat (0x10000 + (high - 0xD800) * 0x400 + (low - 0xDC00))

/-- The rest of a string after its opening quote. A surrogate has to come with
its other half. -/
def stringChars? : List Char → Option (List Char × List Char)
  | [] => none
  | '\"' :: rest => some ([], rest)
  | '\\' :: 'u' :: a :: b :: c :: d :: '\\' :: 'u' :: e :: f :: g :: h :: rest => do
      let m ← hex4? a b c d
      if isHigh m then
        let n ← hex4? e f g h
        if isLow n then
          let (s, rest) ← stringChars? rest
          some (paired m n :: s, rest)
        else none
      else if isLow m then none
      else
        let (s, rest) ← stringChars? ('\\' :: 'u' :: e :: f :: g :: h :: rest)
        some (Char.ofNat m :: s, rest)
  | '\\' :: 'u' :: a :: b :: c :: d :: rest => do
      let m ← hex4? a b c d
      if isHigh m || isLow m then none
      else
        let (s, rest) ← stringChars? rest
        some (Char.ofNat m :: s, rest)
  | '\\' :: c :: rest => do
      let c ← unescape? c
      let (s, rest) ← stringChars? rest
      some (c :: s, rest)
  | c :: rest =>
      if c.toNat < 32 ∨ c = '\\' then none
      else do
        let (s, rest) ← stringChars? rest
        some (c :: s, rest)

/-- The rest of a string after its opening quote. -/
def string? : Reader String := fun cs =>
  (stringChars? cs).map fun (s, rest) => (String.ofList s, rest)

/-- One item or more with commas between them, up to a closing bracket. -/
def items? {α : Type} (item : Reader α) (close : Char) : Nat → Reader (List α)
  | 0, _ => none
  | fuel + 1, cs => do
      let (x, rest) ← item cs
      match skipBlank rest with
      | ',' :: rest =>
          let (xs, rest) ← items? item close fuel rest
          some (x :: xs, rest)
      | c :: rest => if c = close then some ([x], rest) else none
      | [] => none

/-- The items of a container after its opening bracket. Each takes a character at
least, so the length of the text bounds their number. -/
def contents? {α : Type} (item : Reader α) (close : Char) : Reader (List α) := fun cs =>
  match skipBlank cs with
  | [] => none
  | c :: rest => if c = close then some ([], rest) else items? item close cs.length (c :: rest)

/-- A key, with the colon after it. -/
def key? : Reader String := fun cs =>
  match skipBlank cs with
  | '\"' :: rest => do
      let (k, rest) ← string? rest
      match skipBlank rest with
      | ':' :: rest => some (k, rest)
      | _ => none
  | _ => none

/-- A member, given the reader of its value. -/
def member? {α : Type} (value : Reader α) : Reader (String × α) := fun cs => do
  let (k, rest) ← key? cs
  let (v, rest) ← value rest
  some ((k, v), rest)

/-- The members of an object in the order of the text, given the reader of the values
under its keys. -/
def members? {α : Type} (value : Reader α) : Reader (List (String × α)) := fun cs =>
  match skipBlank cs with
  | '{' :: rest => contents? (member? value) '}' rest
  | _ => none

/-- A value that nests no deeper than a bound. -/
def value? : Nat → Reader Json
  | depth, cs =>
      match skipBlank cs with
      | 'n' :: 'u' :: 'l' :: 'l' :: rest => some (null, rest)
      | 't' :: 'r' :: 'u' :: 'e' :: rest => some (bool true, rest)
      | 'f' :: 'a' :: 'l' :: 's' :: 'e' :: rest => some (bool false, rest)
      | '\"' :: rest => (string? rest).map fun (s, rest) => (str s, rest)
      | '[' :: rest =>
          match depth with
          | 0 => none
          | depth + 1 =>
              (contents? (value? depth) ']' rest).map fun (xs, rest) => (arr xs, rest)
      | '{' :: rest =>
          match depth with
          | 0 => none
          | depth + 1 =>
              (contents? (member? (value? depth)) '}' rest).map fun (es, rest) =>
                (obj (Dict.ofEntries es), rest)
      | cs => (Number.take? cs).map fun (n, rest) => (num n, rest)

/-- The value that a text consists of. -/
def parseChars? (cs : List Char) : Option Json :=
  match value? maxDepth cs with
  | some (j, rest) => if skipBlank rest = [] then some j else none
  | none => none

@[inherit_doc parseChars?]
def parse? (s : String) : Option Json :=
  parseChars? s.toList

/-- The rest of a string after its opening quote, unread. -/
def skimString? : List Char → Option (List Char)
  | [] => none
  | '\"' :: rest => some rest
  | '\\' :: 'u' :: a :: b :: c :: d :: rest => do
      let _ ← hex4? a b c d
      skimString? rest
  | '\\' :: c :: rest => do
      let _ ← unescape? c
      skimString? rest
  | c :: rest => if c.toNat < 32 ∨ c = '\\' then none else skimString? rest

/-- A key, unread, with the colon after it. -/
def skimKey? : List Char → Option (List Char)
  | cs =>
      match skipBlank cs with
      | '\"' :: rest => do
          let rest ← skimString? rest
          match skipBlank rest with
          | ':' :: rest => some rest
          | _ => none
      | _ => none

/-- A value, unread. -/
def skim? : Nat → Reader Unit
  | depth, cs =>
      match skipBlank cs with
      | 'n' :: 'u' :: 'l' :: 'l' :: rest => some ((), rest)
      | 't' :: 'r' :: 'u' :: 'e' :: rest => some ((), rest)
      | 'f' :: 'a' :: 'l' :: 's' :: 'e' :: rest => some ((), rest)
      | '\"' :: rest => (skimString? rest).map fun rest => ((), rest)
      | '[' :: rest =>
          match depth with
          | 0 => none
          | depth + 1 =>
              (contents? (skim? depth) ']' rest).map fun (_, rest) => ((), rest)
      | '{' :: rest =>
          match depth with
          | 0 => none
          | depth + 1 =>
              (contents? (fun cs => (skimKey? cs).bind (skim? depth)) '}' rest).map
                fun (_, rest) => ((), rest)
      | cs => (Literal.take? cs).map fun (_, rest) => ((), rest)

end Tether.Json
