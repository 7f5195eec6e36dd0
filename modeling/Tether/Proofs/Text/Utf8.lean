import Mathlib.Tactic.SplitIfs
import Tether.Text.Utf8

/-!
# Text as bytes and back

The bytes of a text are the bytes of its characters, one after the other (`encode_eq`), and
the decoder takes off exactly those of the first (`next?_encodeChar`). So it reads the bytes
of a text to the end and finds the text (`decode_encode`).

Bytes below 128 stand for themselves and occur in no other character's bytes. A byte of the
kind that ends a line is therefore the end of a line, and never a part of something else.
-/

namespace Tether.Text.Utf8

/-! ## The bytes of a text -/

theorem toList_loop (bytes : ByteArray) (i : Nat) (r : List UInt8) :
    ByteArray.toList.loop bytes i r = r.reverse ++ bytes.data.toList.drop i := by
  fun_induction ByteArray.toList.loop bytes i r with
  | case1 i r hlt ih =>
      have hlength : i < bytes.data.toList.length := hlt
      have hget : bytes.get! i = bytes.data.toList[i] := by
        simp [ByteArray.get!, hlt]
      rw [ih, List.drop_eq_getElem_cons hlength, hget]
      simp
  | case2 i r hge =>
      rw [List.drop_eq_nil_of_le (Nat.le_of_not_lt hge), List.append_nil]

/-- The bytes of a text are those of its characters. -/
theorem encode_eq (s : String) : encode s = s.toList.flatMap String.utf8EncodeChar := by
  have hbytes : s.toByteArray.data.toList = s.toList.flatMap String.utf8EncodeChar := by
    rw [← String.utf8Encode_toList, List.utf8Encode, List.toList_data_toByteArray]
  rw [encode, String.toUTF8_eq_toByteArray, ByteArray.toList, toList_loop, hbytes]
  rfl

/-! ## Characters -/

theorem toNat_ofNat {n : Nat} (h : n < 256) : (UInt8.ofNat n).toNat = n := by
  rw [UInt8.toNat_ofNat', Nat.mod_eq_of_lt h]

theorem tail?_ofNat (n : Nat) : tail? (UInt8.ofNat (n % 64 + 128)) = some (n % 64) := by
  have hbyte : (UInt8.ofNat (n % 64 + 128)).toNat = n % 64 + 128 := toNat_ofNat (by omega)
  have hrange : 128 ≤ n % 64 + 128 ∧ n % 64 + 128 < 192 := by omega
  rw [tail?, hbyte, if_pos hrange, Nat.add_sub_cancel]

theorem char?_toNat {least : Nat} {c : Char} (h : least ≤ c.toNat) :
    char? least c.toNat = some c := by
  rw [char?, if_pos ⟨h, c.valid⟩, Char.ofNat_toNat]

theorem next?_one {a : UInt8} (h : a.toNat < 0x80) (bytes : List UInt8) :
    next? (a :: bytes) = some (Char.ofNat a.toNat, bytes) := by
  rw [next?.eq_def]
  exact if_pos h

variable {a b c d : UInt8} {w x y z : Nat}

theorem next?_two (ha : a.toNat = w + 0xC0) (hw : w < 0x20) (hb : tail? b = some x)
    (bytes : List UInt8) :
    next? (a :: b :: bytes) = (char? 0x80 (w * 0x40 + x)).map (·, bytes) := by
  rw [next?, if_neg (by omega), if_neg (by omega), if_pos (by omega)]
  simp only [ha, hb, Nat.add_sub_cancel, Option.bind_eq_bind, Option.bind_some]
  cases char? 0x80 (w * 0x40 + x) <;> rfl

theorem next?_three (ha : a.toNat = w + 0xE0) (hw : w < 0x10) (hb : tail? b = some x)
    (hc : tail? c = some y) (bytes : List UInt8) :
    next? (a :: b :: c :: bytes) =
      (char? 0x800 ((w * 0x40 + x) * 0x40 + y)).map (·, bytes) := by
  rw [next?, if_neg (by omega), if_neg (by omega), if_neg (by omega), if_pos (by omega)]
  simp only [ha, hb, hc, Nat.add_sub_cancel, Option.bind_eq_bind, Option.bind_some]
  cases char? 0x800 ((w * 0x40 + x) * 0x40 + y) <;> rfl

theorem next?_four (ha : a.toNat = w + 0xF0) (hw : w < 0x08) (hb : tail? b = some x)
    (hc : tail? c = some y) (hd : tail? d = some z) (bytes : List UInt8) :
    next? (a :: b :: c :: d :: bytes) =
      (char? 0x10000 (((w * 0x40 + x) * 0x40 + y) * 0x40 + z)).map (·, bytes) := by
  rw [next?, if_neg (by omega), if_neg (by omega), if_neg (by omega), if_neg (by omega),
    if_pos (by omega)]
  simp only [ha, hb, hc, hd, Nat.add_sub_cancel, Option.bind_eq_bind, Option.bind_some]
  cases char? 0x10000 (((w * 0x40 + x) * 0x40 + y) * 0x40 + z) <;> rfl

/-- One byte carries seven bits, and two to four carry eleven, sixteen or twenty-one. -/
theorem encodeChar_eq (c : Char) :
    String.utf8EncodeChar c =
      if c.toNat ≤ 0x7F then [UInt8.ofNat c.toNat]
      else if c.toNat ≤ 0x7FF then
        [UInt8.ofNat (c.toNat / 64 % 0x20 + 0xC0), UInt8.ofNat (c.toNat % 64 + 128)]
      else if c.toNat ≤ 0xFFFF then
        [UInt8.ofNat (c.toNat / 4096 % 0x10 + 0xE0), UInt8.ofNat (c.toNat / 64 % 64 + 128),
          UInt8.ofNat (c.toNat % 64 + 128)]
      else
        [UInt8.ofNat (c.toNat / 262144 % 0x08 + 0xF0), UInt8.ofNat (c.toNat / 4096 % 64 + 128),
          UInt8.ofNat (c.toNat / 64 % 64 + 128), UInt8.ofNat (c.toNat % 64 + 128)] :=
  rfl

/-- The bytes of the first character are taken off, and the rest is left. -/
theorem next?_encodeChar (c : Char) (bytes : List UInt8) :
    next? (String.utf8EncodeChar c ++ bytes) = some (c, bytes) := by
  have hbound : c.toNat < 0x110000 := by
    rcases c.valid with h | h
    · exact Nat.lt_trans h (by decide)
    · exact h.2
  rw [encodeChar_eq]
  split_ifs with hone htwo hthree
  · have hlead : (UInt8.ofNat c.toNat).toNat = c.toNat := toNat_ofNat (by omega)
    have hread := next?_one (a := UInt8.ofNat c.toNat) (by omega) bytes
    rwa [hlead, Char.ofNat_toNat] at hread
  · have hread := next?_two (toNat_ofNat (n := c.toNat / 64 % 0x20 + 0xC0) (by omega))
      (by omega) (tail?_ofNat c.toNat) bytes
    have hsum : c.toNat / 64 % 0x20 * 0x40 + c.toNat % 64 = c.toNat := by omega
    rwa [hsum, char?_toNat (by omega)] at hread
  · have hread := next?_three (toNat_ofNat (n := c.toNat / 4096 % 0x10 + 0xE0) (by omega))
      (by omega) (tail?_ofNat (c.toNat / 64)) (tail?_ofNat c.toNat) bytes
    have hsum : (c.toNat / 4096 % 0x10 * 0x40 + c.toNat / 64 % 64) * 0x40 + c.toNat % 64 =
        c.toNat := by omega
    rwa [hsum, char?_toNat (by omega)] at hread
  · have hread := next?_four (toNat_ofNat (n := c.toNat / 262144 % 0x08 + 0xF0) (by omega))
      (by omega) (tail?_ofNat (c.toNat / 4096)) (tail?_ofNat (c.toNat / 64))
      (tail?_ofNat c.toNat) bytes
    have hsum : ((c.toNat / 262144 % 0x08 * 0x40 + c.toNat / 4096 % 64) * 0x40 +
        c.toNat / 64 % 64) * 0x40 + c.toNat % 64 = c.toNat := by omega
    rwa [hsum, char?_toNat (by omega)] at hread

/-- A byte below 128 is the byte of a character of its own. -/
theorem toNat_of_mem_encodeChar {c : Char} {b : UInt8} (h : b ∈ String.utf8EncodeChar c)
    (hb : b.toNat < 128) : c.toNat = b.toNat := by
  have hhigh : ∀ n, 128 ≤ n → n < 256 → b ≠ UInt8.ofNat n := by
    rintro n hlow hn rfl
    rw [toNat_ofNat hn] at hb
    omega
  rw [encodeChar_eq] at h
  split_ifs at h with hone htwo hthree
  · rw [List.mem_singleton.mp h, toNat_ofNat (by omega)]
  -- The bytes of every other character are 128 or more.
  all_goals
    simp only [List.mem_cons, List.not_mem_nil, or_false] at h
    exfalso
  · rcases h with h | h <;> exact hhigh _ (by omega) (by omega) h
  · rcases h with h | h | h <;> exact hhigh _ (by omega) (by omega) h
  · rcases h with h | h | h | h <;> exact hhigh _ (by omega) (by omega) h

/-! ## Texts -/

theorem decodeUpTo_encoded (cs : List Char) {fuel : Nat}
    (hfuel : (cs.flatMap String.utf8EncodeChar).length ≤ fuel) :
    decodeUpTo fuel (cs.flatMap String.utf8EncodeChar) = (cs, true) := by
  induction cs generalizing fuel with
  | nil => rw [List.flatMap_nil, decodeUpTo]
  | cons c cs ih =>
      have hread := next?_encodeChar c (cs.flatMap String.utf8EncodeChar)
      rw [List.flatMap_cons] at hfuel ⊢
      have hpos : 0 < (String.utf8EncodeChar c).length := by
        rw [String.length_utf8EncodeChar]
        exact c.utf8Size_pos
      rw [List.length_append] at hfuel
      obtain ⟨fuel, rfl⟩ : ∃ n, fuel = n + 1 := Nat.exists_eq_succ_of_ne_zero (by omega)
      generalize String.utf8EncodeChar c ++ cs.flatMap String.utf8EncodeChar = bytes at hread ⊢
      cases bytes with
      | nil => cases hread
      | cons b bytes =>
          have hlater := ih (show (cs.flatMap String.utf8EncodeChar).length ≤ fuel by omega)
          simp only [decodeUpTo, hread, hlater]

/-- The bytes of a text are read as that text. -/
theorem decode_encode (s : String) : decode (encode s) = (s.toList, true) := by
  rw [decode, encode_eq]
  exact decodeUpTo_encoded s.toList (Nat.le_refl _)

end Tether.Text.Utf8
