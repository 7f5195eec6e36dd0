/-!
# Bytes as text

UTF-8, read from the front. A sequence that is cut short, longer than it needs to be,
a surrogate or out of range ends the text; the characters before it are kept.
-/

namespace Tether.Text.Utf8

/-- The six bits that a continuation byte carries. -/
def tail? (b : UInt8) : Option Nat :=
  if 0x80 ≤ b.toNat ∧ b.toNat < 0xC0 then some (b.toNat - 0x80) else none

/-- The character of a code point that takes no fewer bytes and is no surrogate. -/
def char? (least n : Nat) : Option Char :=
  if least ≤ n ∧ n.isValidChar then some (Char.ofNat n) else none

/-- The character at the start of bytes, and the bytes after it. -/
def next? : List UInt8 → Option (Char × List UInt8)
  | [] => none
  | a :: rest =>
      if a.toNat < 0x80 then some (Char.ofNat a.toNat, rest)
      else if a.toNat < 0xC0 then none
      else if a.toNat < 0xE0 then
        match rest with
        | b :: rest => do
            let b ← tail? b
            let c ← char? 0x80 ((a.toNat - 0xC0) * 0x40 + b)
            some (c, rest)
        | _ => none
      else if a.toNat < 0xF0 then
        match rest with
        | b :: c :: rest => do
            let b ← tail? b
            let c ← tail? c
            let c ← char? 0x800 (((a.toNat - 0xE0) * 0x40 + b) * 0x40 + c)
            some (c, rest)
        | _ => none
      else if a.toNat < 0xF8 then
        match rest with
        | b :: c :: d :: rest => do
            let b ← tail? b
            let c ← tail? c
            let d ← tail? d
            let c ← char? 0x10000
              ((((a.toNat - 0xF0) * 0x40 + b) * 0x40 + c) * 0x40 + d)
            some (c, rest)
        | _ => none
      else none

/-- The characters at the start of bytes, at most `fuel`, and whether they are all. -/
def decodeUpTo : Nat → List UInt8 → List Char × Bool
  | _, [] => ([], true)
  | 0, _ :: _ => ([], false)
  | fuel + 1, bytes =>
      match next? bytes with
      | some (c, rest) =>
          let (cs, whole) := decodeUpTo fuel rest
          (c :: cs, whole)
      | none => ([], false)

/-- The characters at the start of bytes, and whether they are all. -/
def decode (bytes : List UInt8) : List Char × Bool :=
  decodeUpTo bytes.length bytes

/-- The text that bytes are. -/
def decode? (bytes : List UInt8) : Option String :=
  match decode bytes with
  | (cs, true) => some (String.ofList cs)
  | _ => none

/-- The bytes of a text. -/
def encode (s : String) : List UInt8 :=
  s.toUTF8.toList

end Tether.Text.Utf8
