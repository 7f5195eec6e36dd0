import Tether.Toml.Basic
import Tether.Toml.Scalar
import Tether.Toml.Text

/-!
# Reading TOML

A document is read line by line into one growing table. Values nest on one line or
over several, and how deeply is bounded, as is the length of a dotted key; the
recursion over values is on that bound.
-/

namespace Tether.Toml

/-- Takes a value off the start of a text. -/
abbrev Reader (α : Type) := List Char → Option (α × List Char)

/-- How deeply values may nest, and how long a dotted key may be. -/
def maxDepth : Nat := 79

/-- Whether a character may stand in a bare key. -/
def isBare (c : Char) : Bool :=
  ('a' ≤ c && c ≤ 'z') || ('A' ≤ c && c ≤ 'Z') || c.isDigit || c = '_' || c = '-'

/-- A key without dots. -/
def simpleKey? : Reader String
  | '\"' :: rest =>
      (Text.single? ('\"' :: rest)).map fun (s, rest) => (String.ofList s, rest)
  | '\'' :: rest =>
      (Text.single? ('\'' :: rest)).map fun (s, rest) => (String.ofList s, rest)
  | cs =>
      match cs.takeWhile isBare with
      | [] => none
      | name => some (String.ofList name, cs.dropWhile isBare)

/-- The parts of a dotted key, with blanks around each. -/
def keyParts? : Nat → Reader (List String)
  | 0, _ => none
  | fuel + 1, cs => do
      let (k, rest) ← simpleKey? (Text.skipSpace cs)
      match Text.skipSpace rest with
      | '.' :: rest =>
          let (ks, rest) ← keyParts? fuel rest
          some (k :: ks, rest)
      | rest => some ([k], rest)

/-- A key as the path to it and its last part. -/
def key? : Reader (List String × String) := fun cs => do
  let (ks, rest) ← keyParts? (maxDepth + 1) cs
  let last ← ks.getLast?
  if ks.length ≤ maxDepth then some ((ks.dropLast, last), rest) else none

/-- The text after a comment, its line end not included. -/
def skipComment? : List Char → Option (List Char)
  | '#' :: rest =>
      let rest := rest.dropWhile Text.isPlain
      if rest.isEmpty ∨ (Text.lineEnd? rest).isSome then some rest else none
  | cs => some cs

/-- The text after blanks, comments and line ends. -/
def skipFiller? : Nat → List Char → Option (List Char)
  | 0, cs => some cs
  | fuel + 1, cs =>
      let cs := Text.skipSpace cs
      match cs with
      | '#' :: _ => (skipComment? cs).bind (skipFiller? fuel)
      | _ =>
          match Text.lineEnd? cs with
          | some rest => skipFiller? fuel rest
          | none => some cs

/-- Items up to the closing bracket, a comma after the last being allowed. -/
def items? (item : Reader Toml) : Nat → Reader (List Toml)
  | 0, _ => none
  | fuel + 1, cs => do
      let cs ← skipFiller? cs.length cs
      match cs with
      | ']' :: rest => some ([], rest)
      | _ =>
          let (x, rest) ← item cs
          let rest ← skipFiller? rest.length rest
          match rest with
          | ',' :: rest =>
              let (xs, rest) ← items? item fuel rest
              some (x :: xs, rest)
          | ']' :: rest => some ([x], rest)
          | _ => none

/-- A key, an equals sign and a value. -/
def pair? (item : Reader Toml) : Reader ((List String × String) × Toml) := fun cs => do
  let (k, rest) ← key? cs
  match rest with
  | '=' :: rest =>
      let (v, rest) ← item (Text.skipSpace rest)
      some ((k, v), rest)
  | _ => none

/-- Pairs up to the closing bracket, all on one line. -/
def pairs? (item : Reader Toml) : Nat → Reader (List ((List String × String) × Toml))
  | 0, _ => none
  | fuel + 1, cs => do
      let (p, rest) ← pair? item cs
      match Text.skipSpace rest with
      | ',' :: rest =>
          let (ps, rest) ← pairs? item fuel rest
          some (p :: ps, rest)
      | '}' :: rest => some ([p], rest)
      | _ => none

/-- A value that is no container. -/
def scalar? : Reader Toml := fun cs =>
  match cs with
  | '\"' :: _ | '\'' :: _ =>
      (Text.take? cs).map fun (s, rest) => (string (String.ofList s), rest)
  | 't' :: 'r' :: 'u' :: 'e' :: rest => some (boolean true, rest)
  | 'f' :: 'a' :: 'l' :: 's' :: 'e' :: rest => some (boolean false, rest)
  | _ =>
      let literal (rest : List Char) := String.ofList (cs.take (cs.length - rest.length))
      match Scalar.datetime? cs with
      | some rest => some (datetime (literal rest), rest)
      | none =>
          match Scalar.float? cs with
          | some rest => some (float (literal rest), rest)
          | none => (Scalar.integer? cs).map fun (n, rest) => (integer n, rest)

/-- A value that nests no deeper than a bound. -/
def value? : Nat → Reader Toml
  | depth, cs =>
      match cs with
      | '[' :: rest =>
          match depth with
          | 0 => none
          | depth + 1 =>
              (items? (value? depth) (rest.length + 1) rest).map fun (xs, rest) =>
                (array xs, rest)
      | '{' :: rest =>
          match depth with
          | 0 => none
          | depth + 1 =>
              match Text.skipSpace rest with
              | '}' :: rest => some (table .inlined [], rest)
              | rest => do
                  let (ps, rest) ← pairs? (value? depth) (rest.length + 1) rest
                  let t ← inline? ps
                  some (t, rest)
      | cs => scalar? cs

/-- The text of the next line, after a comment if there is one. -/
def endLine? (cs : List Char) : Option (List Char) := do
  let rest ← skipComment? (Text.skipSpace cs)
  if rest.isEmpty then some [] else Text.lineEnd? rest

/-- A document as far as it has been read: its table, and the path of the last
header. -/
structure Progress where
  root : Toml := empty
  place : List String := []

/-- One line: a comment, a header, a key with its value, or nothing. -/
def line? (p : Progress) (cs : List Char) : Option (Progress × List Char) :=
  match Text.skipSpace cs with
  | '[' :: '[' :: rest => do
      let ((path, key), rest) ← key? rest
      match rest with
      | ']' :: ']' :: rest =>
          let rest ← endLine? rest
          let root ← within false (extend key) path p.root
          some (⟨root, path ++ [key]⟩, rest)
      | _ => none
  | '[' :: rest => do
      let ((path, key), rest) ← key? rest
      match rest with
      | ']' :: rest =>
          let rest ← endLine? rest
          let root ← within false (define key) path p.root
          some (⟨root, path ++ [key]⟩, rest)
      | _ => none
  | cs =>
      match endLine? cs with
      | some rest => some (p, rest)
      | none => do
          let (((path, key), v), rest) ← pair? (value? maxDepth) cs
          let rest ← endLine? rest
          let root ← within false (assign path key v) p.place p.root
          some (⟨root, p.place⟩, rest)

/-- The lines of a document. -/
def lines? : Nat → Progress → List Char → Option Toml
  | _, p, [] => some p.root
  | 0, _, _ :: _ => none
  | fuel + 1, p, cs => do
      let (p, rest) ← line? p cs
      lines? fuel p rest

/-- The document that a text is. A byte order mark in front is passed over. -/
def parse? (s : String) : Option Toml :=
  let cs := s.toList
  let cs := if cs.head? = some (Char.ofNat 0xFEFF) then cs.tail else cs
  lines? cs.length {} cs

end Tether.Toml
