import Tether.Binary64.Basic

/-!
# The fewest digits that read back

Every decimal in the interval of reals that round to a number reads back as that
number, and the interval is known exactly: it ends half way to either neighbour,
its ends included if the significand is even. For one digit, two digits and so
on, the only candidates are the two points of that decimal grid around the
number. The first grid with a candidate inside the interval wins, and of two
candidates the nearer.
-/

namespace Tether.Binary64

/-- `digits · 10^exponent`. -/
structure Decimal where
  digits : Nat
  exponent : Int
deriving DecidableEq, Repr

/-- The reals that round to a positive magnitude, as numerators over one
denominator. -/
structure Interval where
  low : Nat
  mid : Nat
  high : Nat
  den : Nat
  closed : Bool
deriving DecidableEq, Repr

/-- The interval of a positive magnitude. Below a power of two the neighbour is
twice as near, except at the least exponent. -/
def Interval.around (mag : Nat) : Interval :=
  let (m, q) := split mag
  let below := if m = hiddenBit ∧ q ≠ -1074 then 1 else 2
  let unit := Ratio.scale 1 (q - 2)
  ⟨(4 * m - below) * unit.num, 4 * m * unit.num, (4 * m + 2) * unit.num, unit.den, m % 2 = 0⟩

/-- Whether `n · 10^p` lies in the interval. -/
def Interval.holds (i : Interval) (n : Nat) (p : Int) : Bool :=
  let (x, d) := if 0 ≤ p then (n * Nat.pow 10 p.toNat * i.den, 1) else (n * i.den, Nat.pow 10 (-p).toNat)
  if i.closed then i.low * d ≤ x ∧ x ≤ i.high * d
  else i.low * d < x ∧ x < i.high * d

/-- The greatest `e` with `10^e` not above the ratio, searched upwards. -/
def ascend (num den : Nat) : Nat → Nat → Nat
  | 0, e => e
  | fuel + 1, e => if den * Nat.pow 10 (e + 1) ≤ num then ascend num den fuel (e + 1) else e

/-- The least `e` with the ratio not below `10^(-e)`, searched upwards. -/
def descend (num den : Nat) : Nat → Nat → Nat
  | 0, e => e
  | fuel + 1, e => if den ≤ num * Nat.pow 10 e then e else descend num den fuel (e + 1)

/-- The exponent of the first decimal digit of a positive ratio. A finite number
lies between `10^(-324)` and `10^309`. -/
def firstExponent (num den : Nat) : Int :=
  if den ≤ num then ascend num den 310 0 else -(descend num den 325 1 : Int)

/-- The better of the two points around the number on the grid of `10^p`, if
either reads back. -/
def Interval.onGrid? (i : Interval) (p : Int) : Option Nat :=
  let (x, d) := if 0 ≤ p then (i.mid, i.den * Nat.pow 10 p.toNat) else (i.mid * Nat.pow 10 (-p).toNat, i.den)
  let n := x / d
  match i.holds n p, i.holds (n + 1) p with
  | true, true =>
      let twice := 2 * (x % d)
      some (if twice < d then n else if d < twice then n + 1 else n + n % 2)
  | true, false => some n
  | false, true => some (n + 1)
  | false, false => none

/-- The first grid with a point, from the coarsest. -/
def Interval.search (i : Interval) (e : Int) : List Nat → Decimal
  | [] => ⟨i.mid / i.den, 0⟩
  | k :: ks =>
      match i.onGrid? (e - k) with
      | some n => ⟨n, e - k⟩
      | none => i.search e ks

/-- The same decimal without zeros at the end of its digits. -/
def Decimal.trim (d : Decimal) : Nat → Decimal
  | 0 => d
  | fuel + 1 =>
      if d.digits ≠ 0 ∧ d.digits % 10 = 0 then
        Decimal.trim ⟨d.digits / 10, d.exponent + 1⟩ fuel
      else d

/-- The shortest decimal that reads back as a positive magnitude. Seventeen
digits always do. A point that rounds up to the next power of ten ends in zeros,
which are not written. -/
def shortest (mag : Nat) : Decimal :=
  let i := Interval.around mag
  (i.search (firstExponent i.mid i.den) (List.range 17)).trim 20

end Tether.Binary64
