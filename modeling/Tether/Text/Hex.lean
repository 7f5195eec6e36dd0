/-!
# Bytes as hexadecimal digits

Two digits a byte, the high half first. Certificates are written this way when
they are shown, and fingerprints in capitals.
-/

namespace Tether.Text.Hex

/-- The digit of a number below sixteen. -/
def digit (n : Nat) : Char :=
  if n < 10 then Char.ofNat (n + 48) else Char.ofNat (n + 87)

/-- The capital digit of a number below sixteen. -/
def capital (n : Nat) : Char :=
  if n < 10 then Char.ofNat (n + 48) else Char.ofNat (n + 55)

/-- The number a digit stands for, in either case. -/
def value? (c : Char) : Option Nat :=
  if '0' ≤ c ∧ c ≤ '9' then some (c.toNat - 48)
  else if 'a' ≤ c ∧ c ≤ 'f' then some (c.toNat - 87)
  else if 'A' ≤ c ∧ c ≤ 'F' then some (c.toNat - 55)
  else none

/-- Bytes as lower-case digits. -/
def encode (bytes : List UInt8) : String :=
  String.ofList (bytes.flatMap fun b => [digit (b.toNat / 16), digit (b.toNat % 16)])

/-- Bytes as pairs of capitals with a colon between each two. -/
def colons (bytes : List UInt8) : String :=
  ":".intercalate
    (bytes.map fun b => String.ofList [capital (b.toNat / 16), capital (b.toNat % 16)])

/-- The bytes that pairs of digits stand for. -/
def decodeChars? : List Char → Option (List UInt8)
  | [] => some []
  | [_] => none
  | a :: b :: rest => do
      let high ← value? a
      let low ← value? b
      let tail ← decodeChars? rest
      some (UInt8.ofNat (high * 16 + low) :: tail)

@[inherit_doc decodeChars?]
def decode? (s : String) : Option (List UInt8) :=
  decodeChars? s.toList

end Tether.Text.Hex
