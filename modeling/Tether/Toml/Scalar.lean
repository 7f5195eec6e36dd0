import Tether.Binary64.Basic

/-!
# Numbers and dates in TOML

Each taker takes one kind of scalar off the start of a text. Underscores may stand
between two digits. Integers have sixty-four bits, floats have to be finite unless
they are written as an infinity, and a date has to exist.
-/

namespace Tether.Toml.Scalar

/-- Digits of a class, with single underscores between them, after the first digit
has been taken. -/
def moreDigits (isDigit : Char → Bool) : List Char → List Char × List Char
  | '_' :: c :: rest =>
      if isDigit c then
        let (ds, rest) := moreDigits isDigit rest
        (c :: ds, rest)
      else ([], '_' :: c :: rest)
  | c :: rest =>
      if isDigit c then
        let (ds, rest) := moreDigits isDigit rest
        (c :: ds, rest)
      else ([], c :: rest)
  | [] => ([], [])

/-- One digit or more of a class. -/
def digits? (isDigit : Char → Bool) : List Char → Option (List Char × List Char)
  | c :: rest =>
      if isDigit c then
        let (ds, rest) := moreDigits isDigit rest
        some (c :: ds, rest)
      else none
  | [] => none

/-- Decimal digits that do not start with a zero, or a zero. -/
def decimal? : List Char → Option (List Char × List Char)
  | '0' :: rest => some (['0'], rest)
  | cs => digits? Char.isDigit cs

/-- The sign that a text starts with, if any. -/
def sign : List Char → Bool × List Char
  | '-' :: rest => (true, rest)
  | '+' :: rest => (false, rest)
  | cs => (false, cs)

/-- The value of a digit. -/
def digitValue (c : Char) : Nat :=
  if c.isDigit then c.toNat - 48
  else if 'a' ≤ c ∧ c ≤ 'f' then c.toNat - 87
  else c.toNat - 55

/-- The number that digits of a base stand for. -/
def natOf (base : Nat) (ds : List Char) : Nat :=
  ds.foldl (fun n c => n * base + digitValue c) 0

/-- The integer with a sign and a magnitude, if sixty-four bits hold it. -/
def word? (negative : Bool) (n : Nat) : Option Int :=
  if negative then if n ≤ 9223372036854775808 then some (-(n : Int)) else none
  else if n < 9223372036854775808 then some n else none

/-- Whether a character is a hexadecimal digit. -/
def isHex (c : Char) : Bool :=
  c.isDigit || ('a' ≤ c && c ≤ 'f') || ('A' ≤ c && c ≤ 'F')

/-- Whether a character is an octal digit. -/
def isOctal (c : Char) : Bool :=
  '0' ≤ c && c ≤ '7'

/-- Whether a character is a binary digit. -/
def isBinary (c : Char) : Bool :=
  c = '0' || c = '1'

/-- The integer that a text starts with. -/
def integer? : List Char → Option (Int × List Char)
  | '0' :: 'x' :: rest => do
      let (ds, rest) ← digits? isHex rest
      let n ← word? false (natOf 16 ds)
      some (n, rest)
  | '0' :: 'o' :: rest => do
      let (ds, rest) ← digits? isOctal rest
      let n ← word? false (natOf 8 ds)
      some (n, rest)
  | '0' :: 'b' :: rest => do
      let (ds, rest) ← digits? isBinary rest
      let n ← word? false (natOf 2 ds)
      some (n, rest)
  | cs => do
      let (negative, rest) := sign cs
      let (ds, rest) ← decimal? rest
      let n ← word? negative (natOf 10 ds)
      some (n, rest)

/-- Whether `digits · 10^e` is finite as a float. -/
def isFinite (digits : List Char) (e : Int) : Bool :=
  let ds := digits.dropWhile (· = '0')
  let size : Int := ds.length + e
  if ds.isEmpty || size < 300 then true
  else if 400 < size then false
  else
    let n := natOf 10 ds
    (Binary64.nearest? (if 0 ≤ e then ⟨n * Nat.pow 10 e.toNat, 1⟩ else ⟨n, Nat.pow 10 (-e).toNat⟩)).isSome

/-- The exponent of a float, after its mark. -/
def exponent? (cs : List Char) : Option (Int × List Char) := do
  let (negative, rest) := sign cs
  let (ds, rest) ← digits? Char.isDigit rest
  let n : Int := natOf 10 ds
  some (if negative then -n else n, rest)

/-- The exponent of a float with its mark, if there is one. -/
def optionalExponent? : List Char → Option (Int × List Char)
  | 'e' :: rest => exponent? rest
  | 'E' :: rest => exponent? rest
  | cs => some (0, cs)

/-- An infinity or what is no number, after its sign. -/
def special? : List Char → Option (List Char)
  | 'i' :: 'n' :: 'f' :: rest => some rest
  | 'n' :: 'a' :: 'n' :: rest => some rest
  | _ => none

/-- A float that is written in digits, after its sign. -/
def digitFloat? (negative : Bool) (cs : List Char) : Option (List Char) := do
  let (whole, rest) ← decimal? cs
  match rest with
  | '.' :: rest =>
      let (fraction, rest) ← digits? Char.isDigit rest
      let (e, rest) ← optionalExponent? rest
      if negative || isFinite (whole ++ fraction) (e - fraction.length) then some rest else none
  | 'e' :: _ | 'E' :: _ =>
      let (e, rest) ← optionalExponent? rest
      if negative || isFinite whole e then some rest else none
  | _ => none

/-- The text after the float that it starts with. -/
def float? (cs : List Char) : Option (List Char) :=
  let (negative, rest) := sign cs
  match special? rest with
  | some rest => some rest
  | none => digitFloat? negative rest

/-- A number of exactly so many digits, within a range. -/
def field? (width low high : Nat) (cs : List Char) : Option (Nat × List Char) :=
  let ds := cs.take width
  let n := natOf 10 ds
  if ds.length = width ∧ ds.all Char.isDigit ∧ low ≤ n ∧ n ≤ high then some (n, cs.drop width)
  else none

/-- The text after a character. -/
def mark? (c : Char) : List Char → Option (List Char)
  | d :: rest => if d = c then some rest else none
  | [] => none

/-- The days of a month. -/
def monthDays (year month : Nat) : Nat :=
  if month = 2 then
    if year % 4 = 0 ∧ (year % 100 ≠ 0 ∨ year % 400 = 0) then 29 else 28
  else if month = 4 ∨ month = 6 ∨ month = 9 ∨ month = 11 then 30
  else 31

/-- The text after a date. -/
def date? (cs : List Char) : Option (List Char) := do
  let (year, rest) ← field? 4 0 9999 cs
  let rest ← mark? '-' rest
  let (month, rest) ← field? 2 1 12 rest
  let rest ← mark? '-' rest
  let (_, rest) ← field? 2 1 (monthDays year month) rest
  some rest

/-- The text after the fraction of a second, if there is one. -/
def secondFraction : List Char → List Char
  | '.' :: c :: rest => if c.isDigit then rest.dropWhile Char.isDigit else '.' :: c :: rest
  | cs => cs

/-- The text after a time of day. -/
def time? (cs : List Char) : Option (List Char) := do
  let (_, rest) ← field? 2 0 23 cs
  let rest ← mark? ':' rest
  let (_, rest) ← field? 2 0 59 rest
  let rest ← mark? ':' rest
  let (_, rest) ← field? 2 0 60 rest
  some (secondFraction rest)

/-- The text after an offset from universal time, if there is one. -/
def offset : List Char → List Char
  | 'Z' :: rest => rest
  | 'z' :: rest => rest
  | c :: rest =>
      if c = '+' ∨ c = '-' then
        let tail := do
          let (_, rest) ← field? 2 0 23 rest
          let rest ← mark? ':' rest
          let (_, rest) ← field? 2 0 59 rest
          some rest
        tail.getD (c :: rest)
      else c :: rest
  | [] => []

/-- The text after the mark between a date and a time. -/
def dateMark? : List Char → Option (List Char)
  | 'T' :: rest => some rest
  | 't' :: rest => some rest
  | ' ' :: rest => some rest
  | _ => none

/-- The text after the date, the time, or both, that it starts with. -/
def datetime? (cs : List Char) : Option (List Char) :=
  match date? cs with
  | some rest =>
      match (dateMark? rest).bind time? with
      | some rest => some (offset rest)
      | none => some rest
  | none => time? cs

end Tether.Toml.Scalar
