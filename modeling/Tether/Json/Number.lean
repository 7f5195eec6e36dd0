import Tether.Binary64.Shortest
import Tether.Json.Basic

/-!
# Numbers in JSON texts

Reading goes in two steps. A number is first taken off the text as a `Literal`,
which keeps its digits; then the literal is given a value.

The digits are gathered into a word of sixty-four bits for as long as they fit.
Digits of the whole part that do not fit count as powers of ten, digits of the
fraction are dropped. The value of a float is the gathered word times or divided
by a power of ten, each step rounded, and not the float nearest to the text.
Most short decimals get the nearest float all the same; a few long ones do not,
and that is the format's rule.

Writing uses the fewest digits that read back under exact rounding.
-/

namespace Tether.Json

/-- A number as it is written. -/
structure Literal where
  negative : Bool
  whole : List Nat
  fraction : Option (List Nat)
  /-- Whether the exponent is positive, and its digits. -/
  exponent : Option (Bool × List Nat)
deriving DecidableEq, Repr

/-- The value of a decimal digit. -/
def digitValue (c : Char) : Nat :=
  c.toNat - 48

/-- The digits at the start of a text, and the rest. -/
def takeDigits (cs : List Char) : List Nat × List Char :=
  ((cs.takeWhile Char.isDigit).map digitValue, cs.dropWhile Char.isDigit)

/-- The digits at the start of a text, which has to start with one. -/
def someDigits? (cs : List Char) : Option (List Nat × List Char) :=
  match takeDigits cs with
  | ([], _) => none
  | (ds, rest) => some (ds, rest)

namespace Literal

/-- The whole part: a zero on its own, or digits that do not start with one. -/
def takeWhole? (cs : List Char) : Option (List Nat × List Char) :=
  match takeDigits cs with
  | ([], _) => none
  | (0 :: _ :: _, _) => none
  | (ds, rest) => some (ds, rest)

/-- The fraction, if a point follows. -/
def takeFraction? : List Char → Option (Option (List Nat) × List Char)
  | '.' :: rest => (someDigits? rest).map fun (ds, rest) => (some ds, rest)
  | cs => some (none, cs)

/-- The digits of an exponent after its sign. -/
def takeSigned? : List Char → Option ((Bool × List Nat) × List Char)
  | '+' :: rest => (someDigits? rest).map fun (ds, rest) => ((true, ds), rest)
  | '-' :: rest => (someDigits? rest).map fun (ds, rest) => ((false, ds), rest)
  | cs => (someDigits? cs).map fun (ds, rest) => ((true, ds), rest)

/-- The exponent, if its mark follows. -/
def takeExponent? : List Char → Option (Option (Bool × List Nat) × List Char)
  | 'e' :: rest => (takeSigned? rest).map fun (e, rest) => (some e, rest)
  | 'E' :: rest => (takeSigned? rest).map fun (e, rest) => (some e, rest)
  | cs => some (none, cs)

/-- The number that a text starts with, after its sign. -/
def takeUnsigned? (negative : Bool) (cs : List Char) : Option (Literal × List Char) := do
  let (whole, rest) ← takeWhole? cs
  let (fraction, rest) ← takeFraction? rest
  let (exponent, rest) ← takeExponent? rest
  some (⟨negative, whole, fraction, exponent⟩, rest)

/-- The number that a text starts with. -/
def take? : List Char → Option (Literal × List Char)
  | '-' :: rest => takeUnsigned? true rest
  | cs => takeUnsigned? false cs

/-- Whether a gathered word has room for another digit. -/
def fits (word digit : Nat) : Bool :=
  word * 10 + digit < 18446744073709551616

/-- Gather whole digits; the number of those left over. -/
def gatherWhole : Nat → List Nat → Nat × Nat
  | word, [] => (word, 0)
  | word, d :: ds =>
      if fits word d then gatherWhole (word * 10 + d) ds else (word, ds.length + 1)

/-- Gather digits of a fraction; the number of those gathered. -/
def gatherFraction : Nat → List Nat → Nat × Nat
  | word, [] => (word, 0)
  | word, d :: ds =>
      if fits word d then
        let (word, n) := gatherFraction (word * 10 + d) ds
        (word, n + 1)
      else (word, 0)

/-- The number that digits stand for. -/
def natOf (ds : List Nat) : Nat :=
  ds.foldl (fun n d => n * 10 + d) 0

/-- The magnitude of `10^n`, for `n` up to 308. -/
def powerOfTen (n : Nat) : Nat :=
  (Binary64.ofNat? (Nat.pow 10 n)).getD Binary64.infinity

/-- A magnitude times `10^e`, in steps of at most `10^308`; `none` if that is not
finite. Three steps bring every magnitude below the least positive one. -/
def scaled? : Nat → Nat → Int → Option Nat
  | 0, mag, _ => some mag
  | fuel + 1, mag, e =>
      if e.natAbs ≤ 308 then
        if 0 ≤ e then Binary64.mul? mag (powerOfTen e.natAbs)
        else Binary64.div? mag (powerOfTen e.natAbs)
      else if mag = 0 then some 0
      else if 0 ≤ e then none
      else do
        let mag ← Binary64.div? mag (powerOfTen 308)
        scaled? fuel mag (e + 308)

/-- The float `±word · 10^e`. -/
def floatOf? (negative : Bool) (word : Nat) (e : Int) : Option Number := do
  let mag ← Binary64.ofNat? word
  let mag ← scaled? 4 mag e
  some (.float (Binary64.ofMagnitude negative mag))

/-- The number without fraction and exponent whose digits all fitted. Negative
zero and what no signed word holds are floats. -/
def integerOf? (negative : Bool) (word : Nat) : Option Number :=
  if negative then
    if word = 0 ∨ 9223372036854775808 < word then floatOf? true word 0 else some (.int (-word))
  else some (.int word)

/-- The value of a literal; `none` if it is out of range. An exponent that a
signed word of thirty-two bits does not hold takes every number to zero or out of
range. -/
def value? (l : Literal) : Option Number :=
  let (word, left) := gatherWhole 0 l.whole
  let (word, gathered) := gatherFraction word (l.fraction.getD [])
  let e : Int := (left : Int) - gathered
  match l.exponent with
  | some (up, ds) =>
      let n := natOf ds
      if n < 2147483648 then floatOf? l.negative word (if up then e + n else e - n)
      else if word ≠ 0 ∧ up then none
      else some (.float (Binary64.ofMagnitude l.negative 0))
  | none =>
      if l.fraction.isNone ∧ left = 0 then integerOf? l.negative word
      else floatOf? l.negative word e

end Literal

namespace Number

/-- The number that a text starts with. -/
def take? (cs : List Char) : Option (Number × List Char) := do
  let (literal, rest) ← Literal.take? cs
  let n ← literal.value?
  some (n, rest)

/-- The decimal digits of a natural number. -/
def natChars (n : Nat) : List Char :=
  Nat.toDigits 10 n

/-- Digits with the first one before the point, or without a point if there is
but one. -/
def pointed : List Char → List Char
  | [] => []
  | [d] => [d]
  | d :: ds => d :: '.' :: ds

/-- A positive decimal. First digits from `10^(-5)` to `10^15` are written in
place, with at least one digit after the point; all others with an exponent. -/
def decimalChars (d : Binary64.Decimal) : List Char :=
  let ds := natChars d.digits
  let first : Int := d.exponent + ds.length - 1
  if -5 ≤ first ∧ first ≤ 15 then
    if 0 ≤ d.exponent then ds ++ List.replicate d.exponent.toNat '0' ++ ".0".toList
    else if 0 ≤ first then
      ds.take (first.toNat + 1) ++ '.' :: ds.drop (first.toNat + 1)
    else "0.".toList ++ List.replicate (-first - 1).toNat '0' ++ ds
  else
    pointed ds ++ 'e' :: (if first < 0 then '-' else '+') :: natChars first.natAbs

/-- A float. -/
def floatChars (bits : UInt64) : List Char :=
  let body :=
    if Binary64.magnitude bits = 0 then "0.0".toList
    else decimalChars (Binary64.shortest (Binary64.magnitude bits))
  if Binary64.negative bits then '-' :: body else body

/-- An integer. -/
def intChars (n : Int) : List Char :=
  if n < 0 then '-' :: natChars n.natAbs else natChars n.natAbs

/-- A number as it is written. -/
def chars : Number → List Char
  | int n => intChars n
  | float bits => floatChars bits

end Number

end Tether.Json
