import Tether.Text.Base64

/-!
# Base 64 there and back

Bytes are read back from the digits they are written with. The alphabet is a matter of
sixty-four cases (`value?_digit`). The rest is an induction over groups of three bytes, and in each
group it is arithmetic: the digits are the places of one number, and so are the bytes.

The one thing to see to is the padding. Only the last group may be padded, and a group whose digits
are all digits is never taken for a padded one, because the mark of padding is no digit.
-/

namespace Tether.Text.Base64

theorem value?_digit : ∀ n < 64, value? (digit n) = some n := by
  decide

theorem digit_ne_padding : ∀ n < 64, digit n ≠ '=' := by
  decide

/-- A group of four digits is three bytes, whatever follows. -/
theorem decodeChars?_group {p q r s : Nat} (hp : p < 64) (hq : q < 64) (hr : r < 64) (hs : s < 64)
    (rest : List Char) :
    decodeChars? (digit p :: digit q :: digit r :: digit s :: rest) =
      (decodeChars? rest).map fun tail =>
        UInt8.ofNat ((((p * 64 + q) * 64 + r) * 64 + s) / 65536) ::
          UInt8.ofNat ((((p * 64 + q) * 64 + r) * 64 + s) / 256 % 256) ::
            UInt8.ofNat ((((p * 64 + q) * 64 + r) * 64 + s) % 256) :: tail := by
  have hpad := digit_ne_padding s hs
  rw [decodeChars?.eq_4 _ _ _ _ _ (by simp_all) (by simp_all)]
  simp only [value?_digit p hp, value?_digit q hq, value?_digit r hr, value?_digit s hs]
  cases decodeChars? rest <;> rfl

theorem ofNat_toNat (a : UInt8) {n : Nat} (h : n = a.toNat) : UInt8.ofNat n = a := by
  rw [h, UInt8.ofNat_toNat]

theorem decodeChars?_encodeChars (bytes : List UInt8) :
    decodeChars? (encodeChars bytes) = some bytes := by
  induction bytes using encodeChars.induct with
  | case1 => rfl
  | case2 a =>
      have ha := a.toNat_lt
      rw [encodeChars, decodeChars?, value?_digit _ (by omega), value?_digit _ (by omega)]
      simp only [Option.bind_eq_bind, Option.bind_some]
      rw [if_pos (by omega), ofNat_toNat a (by omega)]
  | case3 a b =>
      have ha := a.toNat_lt
      have hb := b.toNat_lt
      rw [encodeChars, decodeChars?, value?_digit _ (by omega), value?_digit _ (by omega),
        value?_digit _ (by omega)]
      · simp only [Option.bind_eq_bind, Option.bind_some]
        rw [if_pos (by omega), ofNat_toNat a (by omega), ofNat_toNat b (by omega)]
      · intro h
        exact absurd h (digit_ne_padding _ (by omega))
  | case4 a b c rest ih =>
      have ha := a.toNat_lt
      have hb := b.toNat_lt
      have hc := c.toNat_lt
      rw [encodeChars, decodeChars?_group (by omega) (by omega) (by omega) (by omega), ih,
        Option.map_some, ofNat_toNat a (by omega), ofNat_toNat b (by omega),
        ofNat_toNat c (by omega)]

/-- Bytes are read back from the text they are written as. -/
theorem decode?_encode (bytes : List UInt8) : decode? (encode bytes) = some bytes := by
  rw [decode?, encode, String.toList_ofList, decodeChars?_encodeChars]

end Tether.Text.Base64
