import Tether.Text.Hex

/-!
# Fresh ids

A device that is set up for the first time makes an id for itself from random bytes. Six
of the bits say how it was made, so that ids made otherwise are never equal to it. The
id is written as hexadecimal digits in five groups.
-/

namespace Tether.LocalIdentity

/-- Sixteen random bytes with the bits that say so. -/
def marked : List UInt8 → List UInt8
  | [a, b, c, d, e, f, g, h, i, j, k, l, m, n, o, p] =>
      [a, b, c, d, e, f, (g &&& 0x0f) ||| 0x40, h, (i &&& 0x3f) ||| 0x80, j, k, l, m, n, o, p]
  | bytes => bytes

/-- The groups that digits are written in. -/
def groups : List Nat := [8, 4, 4, 4, 12]

/-- Cut digits into groups. -/
def cut : List Nat → List Char → List String
  | [], _ => []
  | n :: rest, cs => String.ofList (cs.take n) :: cut rest (cs.drop n)

/-- The id made from sixteen random bytes. -/
def freshId (bytes : List UInt8) : String :=
  "_".intercalate (cut groups (Text.Hex.encode (marked bytes)).toList)

end Tether.LocalIdentity
