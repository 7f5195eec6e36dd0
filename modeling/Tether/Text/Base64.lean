/-!
# Bytes in base 64

The standard alphabet with padding. Writing is canonical, and reading accepts
only what writing produces: the padding has to be there, and the bits that the
last digit of a short group leaves over have to be zero.
-/

namespace Tether.Text.Base64

/-- The digit of a number below sixty-four. -/
def digit (n : Nat) : Char :=
  if n < 26 then Char.ofNat (n + 65)
  else if n < 52 then Char.ofNat (n + 71)
  else if n < 62 then Char.ofNat (n - 4)
  else if n = 62 then '+'
  else '/'

/-- The number a digit stands for. -/
def value? (c : Char) : Option Nat :=
  if 'A' ≤ c ∧ c ≤ 'Z' then some (c.toNat - 65)
  else if 'a' ≤ c ∧ c ≤ 'z' then some (c.toNat - 71)
  else if '0' ≤ c ∧ c ≤ '9' then some (c.toNat + 4)
  else if c = '+' then some 62
  else if c = '/' then some 63
  else none

/-- Three bytes make four digits; a shorter last group is padded to four. -/
def encodeChars : List UInt8 → List Char
  | [] => []
  | [a] =>
      let n := a.toNat
      [digit (n / 4), digit (n % 4 * 16), '=', '=']
  | [a, b] =>
      let n := a.toNat * 256 + b.toNat
      [digit (n / 1024), digit (n / 16 % 64), digit (n % 16 * 4), '=']
  | a :: b :: c :: rest =>
      let n := (a.toNat * 256 + b.toNat) * 256 + c.toNat
      digit (n / 262144) :: digit (n / 4096 % 64) :: digit (n / 64 % 64) :: digit (n % 64)
        :: encodeChars rest

@[inherit_doc encodeChars]
def encode (bytes : List UInt8) : String :=
  String.ofList (encodeChars bytes)

/-- The bytes of a text in groups of four, only the last of which is padded. -/
def decodeChars? : List Char → Option (List UInt8)
  | [] => some []
  | [a, b, '=', '='] => do
      let p ← value? a
      let q ← value? b
      if q % 16 = 0 then some [UInt8.ofNat (p * 4 + q / 16)] else none
  | [a, b, c, '='] => do
      let p ← value? a
      let q ← value? b
      let r ← value? c
      if r % 4 = 0 then
        let n := (p * 64 + q) * 16 + r / 4
        some [UInt8.ofNat (n / 256), UInt8.ofNat (n % 256)]
      else none
  | a :: b :: c :: d :: rest => do
      let p ← value? a
      let q ← value? b
      let r ← value? c
      let s ← value? d
      let n := ((p * 64 + q) * 64 + r) * 64 + s
      let tail ← decodeChars? rest
      some (UInt8.ofNat (n / 65536) :: UInt8.ofNat (n / 256 % 256) :: UInt8.ofNat (n % 256)
        :: tail)
  | _ => none

@[inherit_doc decodeChars?]
def decode? (s : String) : Option (List UInt8) :=
  decodeChars? s.toList

end Tether.Text.Base64
