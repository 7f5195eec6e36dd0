/-!
# Binary floating point of sixty-four bits

A finite number is held as the word of its bits and read as `m · 2^q`, in exact
arithmetic on natural numbers. Nothing here uses the machine's own floating
point, so that every function can be evaluated inside a proof.

The sign is the top bit and takes no part in rounding: the functions on
magnitudes work on words without it.
-/

namespace Tether.Binary64

/-- The top bit of a word. -/
def signBit : Nat := 9223372036854775808

/-- The weight of the bit before the fraction, which is not stored: 2^52. -/
def hiddenBit : Nat := 4503599627370496

/-- The word of the least magnitude that is not finite. -/
def infinity : Nat := 2047 * hiddenBit

/-- Whether a word stands for a negative number or for negative zero. -/
def negative (bits : UInt64) : Bool :=
  signBit ≤ bits.toNat

/-- The word without its sign. -/
def magnitude (bits : UInt64) : Nat :=
  bits.toNat % signBit

/-- The word of a magnitude with a sign. -/
def ofMagnitude (neg : Bool) (mag : Nat) : UInt64 :=
  UInt64.ofNat (if neg then mag + signBit else mag)

/-- A non-negative rational number as a numerator and a denominator. -/
structure Ratio where
  num : Nat
  den : Nat
deriving DecidableEq, Repr

/-- `m · 2^q`. -/
def Ratio.scale (m : Nat) (q : Int) : Ratio :=
  if 0 ≤ q then ⟨m * Nat.pow 2 q.toNat, 1⟩ else ⟨m, Nat.pow 2 (-q).toNat⟩

/-- The significand and the exponent of a magnitude. -/
def split (mag : Nat) : Nat × Int :=
  if mag / hiddenBit = 0 then (mag, -1074)
  else (mag % hiddenBit + hiddenBit, (mag / hiddenBit : Nat) - 1075)

/-- The exact value of a magnitude. -/
def value (mag : Nat) : Ratio :=
  let (m, q) := split mag
  .scale m q

/-- The quotient rounded to the nearest integer, a tie to the even one. -/
def roundQuotient (num den : Nat) : Nat :=
  let low := num / den
  let twice := 2 * (num % den)
  if twice < den then low
  else if den < twice then low + 1
  else low + low % 2

/-- The magnitude nearest to a ratio, a tie to the even one; `none` if it is not
finite.

With the exponent chosen so that the quotient has fifty-three binary places, or
the least exponent where it would have fewer, the word is the quotient offset by
the exponent. A quotient that rounds up to the next power of two carries into
the exponent, as it should. -/
def nearest? (r : Ratio) : Option Nat :=
  if r.num = 0 then some 0
  else
    let guess : Int := (r.num.log2 : Int) - r.den.log2
    let low : Bool :=
      if 0 ≤ guess then r.num < r.den * Nat.pow 2 guess.toNat
      else r.num * Nat.pow 2 (-guess).toNat < r.den
    let q : Int := max (-1074) ((if low then guess - 1 else guess) - 52)
    let m :=
      if 0 ≤ q then roundQuotient r.num (r.den * Nat.pow 2 q.toNat)
      else roundQuotient (r.num * Nat.pow 2 (-q).toNat) r.den
    let mag := (q + 1074).toNat * hiddenBit + m
    if mag < infinity then some mag else none

/-- The magnitude nearest to a natural number. -/
def ofNat? (n : Nat) : Option Nat :=
  nearest? ⟨n, 1⟩

/-- The rounded product of two magnitudes. -/
def mul? (a b : Nat) : Option Nat :=
  let x := value a
  let y := value b
  nearest? ⟨x.num * y.num, x.den * y.den⟩

/-- The rounded quotient of two magnitudes, the second of which is not zero. -/
def div? (a b : Nat) : Option Nat :=
  let x := value a
  let y := value b
  nearest? ⟨x.num * y.den, x.den * y.num⟩

/-- The word nearest to an integer of at most sixty-four bits. -/
def ofInt (n : Int) : UInt64 :=
  ofMagnitude (n < 0) ((ofNat? n.natAbs).getD infinity)

/-- Whether two words stand for equal numbers: zero has two words. -/
def same (a b : UInt64) : Bool :=
  a == b || (magnitude a = 0 && magnitude b = 0)

end Tether.Binary64
