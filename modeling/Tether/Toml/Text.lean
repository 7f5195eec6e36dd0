/-!
# Strings in TOML

A string is written in one of four forms. Reading and writing are side by side
here: `take?` takes a string in any form off the start of a text, and `write` chooses
the plainest form that can hold the string.
-/

namespace Tether.Toml.Text

/-- Whether a character is a tab or no control character. -/
def isPlain (c : Char) : Bool :=
  c = '\t' || (32 ≤ c.toNat && c.toNat ≠ 127)

/-- The value of a hexadecimal digit. -/
def hexValue? (c : Char) : Option Nat :=
  if '0' ≤ c ∧ c ≤ '9' then some (c.toNat - 48)
  else if 'a' ≤ c ∧ c ≤ 'f' then some (c.toNat - 87)
  else if 'A' ≤ c ∧ c ≤ 'F' then some (c.toNat - 55)
  else none

/-- The character whose code point is written in digits. -/
def codePoint? (digits : List Char) : Option Char := do
  let n ← digits.foldlM (fun n c => (hexValue? c).map (n * 16 + ·)) 0
  if n.isValidChar then some (Char.ofNat n) else none

/-- The character of a one-letter escape. -/
def letter? (c : Char) : Option Char :=
  if c = 'b' then some (Char.ofNat 8)
  else if c = 't' then some '\t'
  else if c = 'n' then some '\n'
  else if c = 'f' then some (Char.ofNat 12)
  else if c = 'r' then some '\r'
  else if c = '\"' then some '\"'
  else if c = '\\' then some '\\'
  else none

/-- The character of an escape after its backslash. -/
def escape? : List Char → Option (Char × List Char)
  | 'u' :: rest =>
      if rest.length < 4 then none
      else (codePoint? (rest.take 4)).map (·, rest.drop 4)
  | 'U' :: rest =>
      if rest.length < 8 then none
      else (codePoint? (rest.take 8)).map (·, rest.drop 8)
  | c :: rest => (letter? c).map (·, rest)
  | [] => none

/-- The rest of a string on one line, after its quote. -/
def basic? : Nat → List Char → Option (List Char × List Char)
  | 0, _ => none
  | fuel + 1, cs =>
      match cs with
      | '\"' :: rest => some ([], rest)
      | '\\' :: rest => do
          let (c, rest) ← escape? rest
          let (s, rest) ← basic? fuel rest
          some (c :: s, rest)
      | c :: rest =>
          if isPlain c then (basic? fuel rest).map fun (s, rest) => (c :: s, rest) else none
      | [] => none

/-- The rest of a literal string on one line, after its apostrophe. -/
def literal? : List Char → Option (List Char × List Char)
  | '\'' :: rest => some ([], rest)
  | c :: rest =>
      if isPlain c then (literal? rest).map fun (s, rest) => (c :: s, rest) else none
  | [] => none

/-- The text after a line end, if there is one. -/
def lineEnd? : List Char → Option (List Char)
  | '\n' :: rest => some rest
  | '\r' :: '\n' :: rest => some rest
  | _ => none

/-- The text after spaces and tabs. -/
def skipSpace (cs : List Char) : List Char :=
  cs.dropWhile fun c => c = ' ' || c = '\t'

/-- The text after spaces, tabs and line ends. -/
def skipLines : Nat → List Char → List Char
  | 0, cs => cs
  | fuel + 1, cs =>
      match cs with
      | ' ' :: rest => skipLines fuel rest
      | '\t' :: rest => skipLines fuel rest
      | '\n' :: rest => skipLines fuel rest
      | '\r' :: '\n' :: rest => skipLines fuel rest
      | _ => cs

/-- How many times a text starts with a character. -/
def run (q : Char) (cs : List Char) : Nat :=
  (cs.takeWhile (· = q)).length

/-- The rest of a string over several lines, after its opening. A run of three to
five quotes ends it, all but the last three of them being part of it. -/
def multi? (q : Char) (escapes : Bool) : Nat → List Char → Option (List Char × List Char)
  | 0, _ => none
  | fuel + 1, cs =>
      match cs with
      | [] => none
      | c :: rest =>
          if c = q then
            let n := run q cs
            if n < 3 then
              (multi? q escapes fuel (cs.drop n)).map fun (s, rest) =>
                (List.replicate n q ++ s, rest)
            else
              let kept := min (n - 3) 2
              some (List.replicate kept q, cs.drop (kept + 3))
          else if c = '\\' ∧ escapes then
            match lineEnd? (skipSpace rest) with
            | some more => multi? q escapes fuel (skipLines more.length more)
            | none => do
                let (c, rest) ← escape? rest
                let (s, rest) ← multi? q escapes fuel rest
                some (c :: s, rest)
          else
            match lineEnd? cs with
            | some more => (multi? q escapes fuel more).map fun (s, rest) => ('\n' :: s, rest)
            | none =>
                if isPlain c then
                  (multi? q escapes fuel rest).map fun (s, rest) => (c :: s, rest)
                else none

/-- A string over several lines, after its opening, without the line end that may
follow it. -/
def multiline? (q : Char) (escapes : Bool) (cs : List Char) : Option (List Char × List Char) :=
  let cs := (lineEnd? cs).getD cs
  multi? q escapes (cs.length + 1) cs

/-- The string on one line that a text starts with. -/
def single? : List Char → Option (List Char × List Char)
  | '\"' :: rest => basic? (rest.length + 1) rest
  | '\'' :: rest => literal? rest
  | _ => none

/-- The string that a text starts with. -/
def take? : List Char → Option (List Char × List Char)
  | '\"' :: '\"' :: '\"' :: rest => multiline? '\"' true rest
  | '\'' :: '\'' :: '\'' :: rest => multiline? '\'' false rest
  | cs => single? cs

/-- The longest run of a character in a text. -/
def longestRun (q : Char) : List Char → Nat
  | [] => 0
  | c :: rest => max (run q (c :: rest)) (longestRun q rest)

/-- Whether a text has a control character that only an escape can stand for. -/
def needsEscape (cs : List Char) : Bool :=
  cs.any fun c => c ≠ '\n' && !isPlain c

/-- A capital hexadecimal digit. -/
def hexDigit (n : Nat) : Char :=
  if n < 10 then Char.ofNat (n + 48) else Char.ofNat (n + 55)

/-- A character between quotes. -/
def escape (multi : Bool) (c : Char) : List Char :=
  if c.toNat = 8 then ['\\', 'b']
  else if c = '\t' then ['\\', 't']
  else if c = '\n' then (if multi then ['\n'] else ['\\', 'n'])
  else if c.toNat = 12 then ['\\', 'f']
  else if c = '\r' then ['\\', 'r']
  else if c = '\\' then ['\\', '\\']
  else if c.toNat < 32 ∨ c.toNat = 127 then
    ['\\', 'u', '0', '0', hexDigit (c.toNat / 16), hexDigit (c.toNat % 16)]
  else [c]

/-- Characters between quotes, where up to `room` quotes in a row stand for
themselves and `seen` have just been written. -/
def escapeAll (multi : Bool) (room : Nat) : Nat → List Char → List Char
  | _, [] => []
  | seen, c :: rest =>
      if c = '\"' then
        if seen < room then '\"' :: escapeAll multi room (seen + 1) rest
        else '\\' :: '\"' :: escapeAll multi room 0 rest
      else escape multi c ++ escapeAll multi room 0 rest

/-- A string in the plainest form that holds it: between quotes as it is, between
apostrophes, over several lines in either, and with escapes if nothing else will do. -/
def write (s : String) : List Char :=
  let cs := s.toList
  let lines := cs.contains '\n'
  let codes := needsEscape cs
  let slashes := cs.contains '\\'
  let opening := if lines then ['\n'] else []
  if !codes ∧ !slashes ∧ longestRun '\"' cs = 0 ∧ !lines then
    '\"' :: escapeAll false 0 0 cs ++ ['\"']
  else if !codes ∧ longestRun '\'' cs = 0 ∧ !lines then
    '\'' :: cs ++ ['\'']
  else if !codes ∧ !slashes ∧ longestRun '\"' cs ≤ 2 then
    List.replicate 3 '\"' ++ opening ++ escapeAll true 2 0 cs ++ List.replicate 3 '\"'
  else if !codes ∧ longestRun '\'' cs ≤ 2 then
    List.replicate 3 '\'' ++ opening ++ cs ++ List.replicate 3 '\''
  else if lines then
    List.replicate 3 '\"' ++ opening ++ escapeAll true 2 0 cs ++ List.replicate 3 '\"'
  else
    '\"' :: escapeAll false 0 0 cs ++ ['\"']

end Tether.Toml.Text
