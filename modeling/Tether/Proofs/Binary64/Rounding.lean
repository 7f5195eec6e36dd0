import Mathlib.Algebra.Order.Field.Power
import Mathlib.Data.Rat.Cast.Order
import Mathlib.Tactic.FieldSimp
import Mathlib.Tactic.Linarith
import Mathlib.Tactic.NormNum
import Mathlib.Tactic.Positivity
import Mathlib.Tactic.Ring
import Tether.Binary64.Basic

/-!
# How far rounding goes

Numbers are compared here as rationals. What rounding does to a ratio is said by the exponent
that it chooses: the quotient by that power of two has fifty-three binary places, or fewer at the
least exponent, and the significand is the quotient to the nearest integer (`nearest?_eq`). Two
things follow. A ratio below the middle between the greatest finite number and the next power of
two is rounded to a finite number (`nearest?_isSome`). And an integer is rounded by no more than
one part in `2^53` (`ofNat?_bounds`).

So a quotient stays finite if the divisor is not less than one (`div?_isSome`), and a product does
if the exact one is below that middle (`mul?_isSome`).
-/

namespace Tether.Binary64

/-- The rational number that a ratio is. -/
def Ratio.rat (r : Ratio) : ℚ :=
  r.num / r.den

/-- The first rational number that is not rounded to a finite one: half way between the greatest
finite number and the next power of two. -/
def limit : ℚ := (2 ^ 54 - 1) * 2 ^ (970 : Int)

theorem limit_eq : limit = ((2 ^ 54 - 1) * 2 ^ 970 : Nat) := by
  have hfirst : ((2 ^ 54 - 1 : Nat) : ℚ) = 2 ^ 54 - 1 := by norm_num
  rw [limit, Nat.cast_mul, hfirst, Nat.cast_pow, Nat.cast_ofNat]
  rfl

theorem ten_pow_eq (n : Nat) : (10 : ℚ) ^ n = (10 ^ n : Nat) :=
  (Nat.cast_pow 10 n).symm

/-- A power with any exponent is a quotient of two with exponents that are natural numbers, and
one of the two is one. -/
theorem zpow_eq_div (b : ℚ) (e : Int) : b ^ e = b ^ e.toNat / b ^ (-e).toNat := by
  rcases Int.le_total 0 e with he | he
  · obtain ⟨n, rfl⟩ := Int.eq_ofNat_of_zero_le he
    simp
  · obtain ⟨n, hn⟩ := Int.eq_ofNat_of_zero_le (show 0 ≤ -e by omega)
    obtain rfl : e = -n := by omega
    simp [div_eq_mul_inv]

/-- The exponent of the greatest finite numbers, and the one below it. -/
theorem zpow_last : (2 : ℚ) ^ (971 : Int) = 2 * 2 ^ (970 : Int) := by
  rw [← zpow_one_add₀ two_ne_zero]
  rfl

theorem scale_eq (m : Nat) (q : Int) :
    Ratio.scale m q = ⟨m * 2 ^ q.toNat, 2 ^ (-q).toNat⟩ := by
  rw [Ratio.scale]
  split
  · next hq => simp [show (-q).toNat = 0 by omega]
  · next hq => simp [show q.toNat = 0 by omega]

theorem scale_den_pos (m : Nat) (q : Int) : 0 < (Ratio.scale m q).den := by
  rw [scale_eq]
  exact Nat.two_pow_pos _

theorem scale_rat (m : Nat) (q : Int) : (Ratio.scale m q).rat = m * 2 ^ q := by
  rw [scale_eq, zpow_eq_div 2, Ratio.rat]
  push_cast
  rw [mul_div_assoc]

/-! ## Quotients -/

theorem two_mul_roundQuotient_le (num den : Nat) :
    2 * (roundQuotient num den * den) ≤ 2 * num + den := by
  have hdiv := Nat.div_add_mod num den
  have hmul : den * (num / den) = num / den * den := Nat.mul_comm _ _
  simp only [roundQuotient]
  split
  · omega
  · split
    · rw [Nat.add_mul]
      omega
    · have hodd : num / den % 2 = 0 ∨ num / den % 2 = 1 := Nat.mod_two_eq_zero_or_one _
      rcases hodd with h | h <;> rw [h, Nat.add_mul] <;> omega

theorem le_roundQuotient {num den k : Nat} (hden : 0 < den) (h : k * den ≤ num) :
    k ≤ roundQuotient num den := by
  have hlow : k ≤ num / den := (Nat.le_div_iff_mul_le hden).mpr h
  simp only [roundQuotient]
  split
  · exact hlow
  · split <;> omega

/-! ## Ratios -/

/-- The quotient of a ratio and a power of two, to the nearest integer. -/
def scaledQuotient (r : Ratio) (q : Int) : Nat :=
  if 0 ≤ q then roundQuotient r.num (r.den * Nat.pow 2 q.toNat)
  else roundQuotient (r.num * Nat.pow 2 (-q).toNat) r.den

theorem scaledQuotient_eq (r : Ratio) (q : Int) :
    scaledQuotient r q = roundQuotient (r.num * 2 ^ (-q).toNat) (r.den * 2 ^ q.toNat) := by
  rw [scaledQuotient]
  split
  · next hq => simp [show (-q).toNat = 0 by omega]
  · next hq => simp [show q.toNat = 0 by omega]

section

variable {r : Ratio} (hden : 0 < r.den) (q : Int)
include hden

theorem scaledQuotient_le : (scaledQuotient r q : ℚ) * 2 ^ q ≤ r.rat + 2 ^ q / 2 := by
  have hden' : (0 : ℚ) < r.den := by exact_mod_cast hden
  have hround := two_mul_roundQuotient_le (r.num * 2 ^ (-q).toNat) (r.den * 2 ^ q.toNat)
  rw [← scaledQuotient_eq] at hround
  have hround' : (2 : ℚ) * (scaledQuotient r q * (r.den * 2 ^ q.toNat)) ≤
      2 * (r.num * 2 ^ (-q).toNat) + r.den * 2 ^ q.toNat := by
    exact_mod_cast hround
  rw [zpow_eq_div 2, Ratio.rat]
  have hpos : (0 : ℚ) < 2 * r.den * 2 ^ (-q).toNat := by positivity
  rw [← mul_le_mul_iff_of_pos_right hpos]
  field_simp
  linarith

variable {q} in
theorem le_scaledQuotient {k : Nat} (h : (k : ℚ) * 2 ^ q ≤ r.rat) : k ≤ scaledQuotient r q := by
  have hden' : (0 : ℚ) < r.den := by exact_mod_cast hden
  rw [scaledQuotient_eq]
  refine le_roundQuotient (Nat.mul_pos hden (Nat.two_pow_pos _)) ?_
  rw [zpow_eq_div 2, Ratio.rat, ← mul_div_assoc,
    div_le_div_iff₀ (by positivity) hden'] at h
  have hle : (k : ℚ) * (r.den * 2 ^ q.toNat) ≤ r.num * 2 ^ (-q).toNat := by linarith
  exact_mod_cast hle

variable {q} in
/-- A quotient of fifty-three binary places is rounded to as many, or carries. -/
theorem scaledQuotient_le_carry (h : r.rat < 2 ^ (q + 53)) :
    scaledQuotient r q ≤ 2 * hiddenBit := by
  have hpos : (0 : ℚ) < 2 ^ q := by positivity
  have hquotient := scaledQuotient_le hden q
  rw [zpow_add₀ two_ne_zero] at h
  have hlt : (scaledQuotient r q : ℚ) < 2 ^ 53 + 1 := by
    rw [← mul_lt_mul_iff_of_pos_right hpos]
    have hsum : (2 ^ 53 + 1 : ℚ) * 2 ^ q = 2 ^ q * 2 ^ (53 : Int) + 2 ^ q := by
      norm_num
      ring
    linarith
  have hnat : scaledQuotient r q < 2 ^ 53 + 1 := by exact_mod_cast hlt
  exact Nat.le_of_lt_succ hnat

variable {q} in
/-- A ratio that is not less than one is not rounded to less than one, unless to zero. -/
theorem one_le_scaledQuotient (h : 1 ≤ r.rat) (hquotient : 0 < scaledQuotient r q) :
    1 ≤ (scaledQuotient r q : ℚ) * 2 ^ q := by
  rcases le_total q 0 with hq | hq
  · have hunit : ((2 ^ (-q).toNat : Nat) : ℚ) * 2 ^ q = 1 := by
      rw [zpow_eq_div 2 q, show q.toNat = 0 by omega]
      push_cast
      field_simp
    have hle := le_scaledQuotient hden (hunit.le.trans h)
    rw [← hunit]
    exact mul_le_mul_of_nonneg_right (by exact_mod_cast hle) (by positivity)
  · have hone : (1 : ℚ) ≤ scaledQuotient r q := by exact_mod_cast hquotient
    exact one_le_mul_of_one_le_of_one_le hone (one_le_zpow₀ one_le_two hq)

end

theorem rat_lt_zpow_iff {r : Ratio} (hden : 0 < r.den) (g : Int) :
    r.rat < 2 ^ g ↔ r.num * 2 ^ (-g).toNat < r.den * 2 ^ g.toNat := by
  have hden' : (0 : ℚ) < r.den := by exact_mod_cast hden
  rw [zpow_eq_div 2, Ratio.rat, div_lt_div_iff₀ hden' (by positivity), mul_comm ((2 : ℚ) ^ g.toNat)]
  exact_mod_cast Iff.rfl

/-- The lengths of numerator and denominator tell a ratio up to a factor of two. -/
theorem rat_between {r : Ratio} (hnum : 0 < r.num) (hden : 0 < r.den) :
    (2 : ℚ) ^ ((r.num.log2 : Int) - r.den.log2 - 1) ≤ r.rat ∧
      r.rat < 2 ^ ((r.num.log2 : Int) - r.den.log2 + 1) := by
  have hnumLow : (2 : ℚ) ^ r.num.log2 ≤ r.num := by
    exact_mod_cast Nat.log2_self_le hnum.ne'
  have hnumHigh : (r.num : ℚ) < 2 ^ (r.num.log2 + 1) := by
    exact_mod_cast Nat.lt_log2_self
  have hdenLow : (2 : ℚ) ^ r.den.log2 ≤ r.den := by
    exact_mod_cast Nat.log2_self_le hden.ne'
  have hdenHigh : (r.den : ℚ) < 2 ^ (r.den.log2 + 1) := by
    exact_mod_cast Nat.lt_log2_self
  have hlow : (2 : ℚ) ^ ((r.num.log2 : Int) - r.den.log2 - 1) =
      2 ^ r.num.log2 / 2 ^ (r.den.log2 + 1) := by
    rw [sub_sub, zpow_sub₀ two_ne_zero, zpow_natCast]
    norm_cast
  have hhigh : (2 : ℚ) ^ ((r.num.log2 : Int) - r.den.log2 + 1) =
      2 ^ (r.num.log2 + 1) / 2 ^ r.den.log2 := by
    rw [sub_add_eq_add_sub, zpow_sub₀ two_ne_zero, zpow_natCast]
    norm_cast
  rw [hlow, hhigh, Ratio.rat]
  exact ⟨div_le_div₀ (by positivity) hnumLow (by positivity) hdenHigh.le,
    div_lt_div₀ hnumHigh hdenLow (by positivity) (by positivity)⟩

/-- A ratio is rounded to fifty-three binary places, or to fewer at the least exponent. -/
theorem nearest?_eq {r : Ratio} (hnum : 0 < r.num) (hden : 0 < r.den) :
    ∃ q : Int, -1074 ≤ q ∧ r.rat < 2 ^ (q + 53) ∧ (q = -1074 ∨ 2 ^ (q + 52) ≤ r.rat) ∧
      nearest? r =
        if (q + 1074).toNat * hiddenBit + scaledQuotient r q < infinity then
          some ((q + 1074).toNat * hiddenBit + scaledQuotient r q) else none := by
  obtain ⟨hlow, hhigh⟩ := rat_between hnum hden
  generalize hguess : (r.num.log2 : Int) - r.den.log2 = guess at hlow hhigh
  obtain ⟨low, hlowIff, hround⟩ : ∃ low : Bool, (low = true ↔ r.rat < 2 ^ guess) ∧
      nearest? r =
        let q : Int := max (-1074) ((if low then guess - 1 else guess) - 52)
        if (q + 1074).toNat * hiddenBit + scaledQuotient r q < infinity then
          some ((q + 1074).toNat * hiddenBit + scaledQuotient r q) else none := by
    refine ⟨if 0 ≤ guess then r.num < r.den * Nat.pow 2 guess.toNat
      else r.num * Nat.pow 2 (-guess).toNat < r.den, ?_, ?_⟩
    · rw [rat_lt_zpow_iff hden]
      split
      · next h => simp [show (-guess).toNat = 0 by omega]
      · next h => simp [show guess.toNat = 0 by omega]
    · subst hguess
      rw [nearest?, if_neg hnum.ne']
      rfl
  -- The exponent of the first binary digit.
  obtain ⟨e, he, hfirst, hnext⟩ : ∃ e : Int, (if low then guess - 1 else guess) = e ∧
      (2 : ℚ) ^ e ≤ r.rat ∧ r.rat < 2 ^ (e + 1) := by
    cases low with
    | true => exact ⟨guess - 1, rfl, hlow, by simpa using hlowIff.mp rfl⟩
    | false => exact ⟨guess, rfl, not_lt.mp fun h => by simpa using hlowIff.mpr h, hhigh⟩
  rw [he] at hround
  refine ⟨max (-1074) (e - 52), le_max_left _ _, ?_, ?_, hround⟩
  · exact hnext.trans_le (zpow_le_zpow_right₀ one_le_two (by omega))
  · rcases le_total (e - 52) (-1074) with h | h
    · exact .inl (max_eq_left h)
    · rw [max_eq_right h]
      exact .inr (by simpa using hfirst)

theorem nearest?_lt {r : Ratio} {mag : Nat} (h : nearest? r = some mag) : mag < infinity := by
  rw [nearest?] at h
  split at h
  · cases h
    decide
  · obtain ⟨hlt, heq⟩ := Option.ite_none_right_eq_some.mp h
    cases heq
    exact hlt

/-- A ratio below the limit is rounded to a finite number. -/
theorem nearest?_isSome {r : Ratio} (hden : 0 < r.den) (h : r.rat < limit) :
    ∃ mag, nearest? r = some mag := by
  rcases Nat.eq_zero_or_pos r.num with hzero | hnum
  · exact ⟨0, by rw [nearest?, if_pos hzero]⟩
  obtain ⟨q, hleast, hhigh, hlow, hround⟩ := nearest?_eq hnum hden
  have hquotient := scaledQuotient_le hden q
  have hpos : (0 : ℚ) < 2 ^ q := by positivity
  rw [hround]
  refine ⟨_, if_pos ?_⟩
  have hhidden : hiddenBit = 2 ^ 52 := rfl
  have hinfinity : infinity = 2047 * 2 ^ 52 := rfl
  rw [hhidden, hinfinity]
  have hq : q ≤ 971 := by
    rcases hlow with rfl | hlow
    · decide
    · by_contra hgt
      have hpow : (2 : ℚ) ^ (1024 : Int) ≤ 2 ^ (q + 52) :=
        zpow_le_zpow_right₀ one_le_two (by omega)
      have hlimit : limit < 2 ^ (1024 : Int) := by
        have hsplit : (2 : ℚ) ^ (1024 : Int) = 2 ^ 54 * 2 ^ (970 : Int) := by
          rw [← zpow_natCast, ← zpow_add₀ two_ne_zero]
          rfl
        rw [hsplit, limit]
        exact mul_lt_mul_of_pos_right (by norm_num) (by positivity)
      linarith
  rcases Int.lt_or_eq_of_le hq with hlt | rfl
  · -- Below the last exponent there is room for a carry.
    have hcarry := scaledQuotient_le_carry hden hhigh
    rw [hhidden] at hcarry
    omega
  · have hle : (scaledQuotient r 971 : ℚ) < 2 ^ 53 := by
      rw [← mul_lt_mul_iff_of_pos_right hpos]
      have hsum : (2 ^ 53 : ℚ) * 2 ^ (971 : Int) = limit + 2 ^ (971 : Int) / 2 := by
        rw [zpow_last, limit]
        ring
      linarith
    have hnat : scaledQuotient r 971 < 2 ^ 53 := by exact_mod_cast hle
    omega

/-! ## Magnitudes -/

/-- A sign does not change a finite magnitude. -/
theorem magnitude_ofMagnitude (neg : Bool) {mag : Nat} (h : mag < infinity) :
    magnitude (ofMagnitude neg mag) = mag := by
  simp only [infinity, hiddenBit] at h
  rw [magnitude, ofMagnitude, UInt64.toNat_ofNat', signBit]
  split <;> omega

theorem value_den_pos (mag : Nat) : 0 < (value mag).den :=
  scale_den_pos _ _

theorem rat_nonneg (r : Ratio) : 0 ≤ r.rat := by
  rw [Ratio.rat]
  positivity

/-- A significand of fifty-three places, or one that carries, is the value of its word. -/
theorem value_packed {m : Nat} (t : Nat) (hlow : hiddenBit ≤ m) (hhigh : m ≤ 2 * hiddenBit) :
    (value (t * hiddenBit + m)).rat = m * 2 ^ ((t : Int) - 1074) := by
  have hhidden : 0 < hiddenBit := by decide
  rcases Nat.lt_or_eq_of_le hhigh with hlt | rfl
  · have hsplit : split (t * hiddenBit + m) = (m, (t : Int) - 1074) := by
      have hdiv : (t * hiddenBit + m) / hiddenBit = t + 1 := by
        simp only [hiddenBit] at hlow hlt ⊢
        omega
      have hmod : (t * hiddenBit + m) % hiddenBit = m - hiddenBit := by
        rw [Nat.mul_add_mod', Nat.mod_eq_sub_mod hlow, Nat.mod_eq_of_lt (by omega)]
      rw [split, hdiv, hmod, if_neg (Nat.succ_ne_zero t)]
      simp only [Prod.mk.injEq]
      exact ⟨by omega, by push_cast; ring⟩
    rw [value, hsplit]
    exact scale_rat _ _
  · have hsplit : split (t * hiddenBit + 2 * hiddenBit) = (hiddenBit, (t : Int) - 1073) := by
      have hdiv : (t * hiddenBit + 2 * hiddenBit) / hiddenBit = t + 2 := by
        rw [← Nat.add_mul, Nat.mul_div_cancel _ hhidden]
      have hmod : (t * hiddenBit + 2 * hiddenBit) % hiddenBit = 0 := by
        rw [← Nat.add_mul, Nat.mul_mod_left]
      rw [split, hdiv, hmod, if_neg (Nat.succ_ne_zero _)]
      simp only [Prod.mk.injEq]
      exact ⟨by omega, by push_cast; ring⟩
    rw [value, hsplit]
    have hpow : (2 : ℚ) ^ ((t : Int) - 1073) = 2 * 2 ^ ((t : Int) - 1074) := by
      rw [← zpow_one_add₀ two_ne_zero]
      congr 1
      ring
    show (Ratio.scale hiddenBit ((t : Int) - 1073)).rat = _
    rw [scale_rat, hpow]
    push_cast
    ring

/-- A finite magnitude is the less, the further its word is from that of infinity. -/
theorem value_le {mag j : Nat} (hj : j ≤ hiddenBit) (h : mag + j ≤ infinity) (hfinite : 0 < j) :
    (value mag).rat ≤ (2 ^ 53 - j) * 2 ^ (971 : Int) := by
  have hfar : (2 : ℚ) ^ 52 ≤ 2 ^ 53 - j := by
    have hj' : (j : ℚ) ≤ 2 ^ 52 := by exact_mod_cast hj
    linarith
  have hpow : ∀ q : Int, q ≤ 971 → (2 : ℚ) ^ q ≤ 2 ^ (971 : Int) := fun q hq =>
    zpow_le_zpow_right₀ one_le_two hq
  simp only [infinity, hiddenBit] at hj h
  by_cases hzero : mag / hiddenBit = 0
  · have hmag : (mag : ℚ) ≤ 2 ^ 52 := by
      have hnat : mag ≤ 2 ^ 52 := by
        simp only [hiddenBit] at hzero
        omega
      exact_mod_cast hnat
    have hsplit : split mag = (mag, -1074) := if_pos hzero
    rw [value, hsplit]
    refine (scale_rat mag (-1074)).trans_le ?_
    exact mul_le_mul (hmag.trans hfar) (hpow _ (by decide)) (by positivity) (by linarith)
  · have hsplit : split mag =
        (mag % hiddenBit + hiddenBit, ((mag / hiddenBit : Nat) : Int) - 1075) := if_neg hzero
    rw [value, hsplit]
    refine (scale_rat _ _).trans_le ?_
    rcases Nat.lt_or_ge (mag / hiddenBit) 2046 with hlt | hge
    · -- A significand of one place more and an exponent of one less.
      have hsplit : (2 : ℚ) ^ 52 * 2 ^ (971 : Int) = 2 ^ 53 * 2 ^ (970 : Int) := by
        rw [zpow_last]
        ring
      have hm : ((mag % hiddenBit + hiddenBit : Nat) : ℚ) ≤ 2 ^ 53 := by
        have hnat : mag % hiddenBit + hiddenBit ≤ 2 ^ 53 := by
          simp only [hiddenBit]
          omega
        exact_mod_cast hnat
      have hq : (2 : ℚ) ^ ((mag / hiddenBit : Nat) - 1075 : Int) ≤ 2 ^ (970 : Int) :=
        zpow_le_zpow_right₀ one_le_two (by omega)
      calc ((mag % hiddenBit + hiddenBit : Nat) : ℚ) * 2 ^ ((mag / hiddenBit : Nat) - 1075 : Int)
          ≤ 2 ^ 53 * 2 ^ (970 : Int) := mul_le_mul hm hq (by positivity) (by positivity)
        _ = 2 ^ 52 * 2 ^ (971 : Int) := hsplit.symm
        _ ≤ (2 ^ 53 - j) * 2 ^ (971 : Int) := mul_le_mul_of_nonneg_right hfar (by positivity)
    · have hm : ((mag % hiddenBit + hiddenBit : Nat) : ℚ) ≤ 2 ^ 53 - j := by
        have hnat : mag % hiddenBit + hiddenBit + j ≤ 2 ^ 53 := by
          simp only [hiddenBit] at hge ⊢
          omega
        have hcast : ((mag % hiddenBit + hiddenBit : Nat) : ℚ) + j ≤ 2 ^ 53 := by
          exact_mod_cast hnat
        linarith
      refine mul_le_mul hm (hpow _ ?_) (by positivity) (by linarith)
      simp only [hiddenBit]
      omega

theorem value_lt_limit {mag : Nat} (h : mag < infinity) : (value mag).rat < limit := by
  have hle := value_le (by decide) h Nat.one_pos
  rw [zpow_last] at hle
  refine hle.trans_lt ?_
  rw [limit, ← mul_assoc]
  exact mul_lt_mul_of_pos_right (by norm_num) (by positivity)

/-- An integer is rounded by one part in `2^53` at most, and not to less than one. -/
theorem ofNat?_bounds {n mag : Nat} (hn : 0 < n) (h : ofNat? n = some mag) :
    1 ≤ (value mag).rat ∧ (value mag).rat ≤ n * (1 + 1 / 2 ^ 53) := by
  have hden : 0 < (Ratio.mk n 1).den := Nat.one_pos
  have hrat : (Ratio.mk n 1).rat = n := by simp [Ratio.rat]
  have hone : 1 ≤ (Ratio.mk n 1).rat := by
    rw [hrat]
    exact_mod_cast hn
  obtain ⟨q, hleast, hhigh, hlow, hround⟩ := nearest?_eq (r := ⟨n, 1⟩) hn hden
  rw [ofNat?, hround] at h
  obtain ⟨-, heq⟩ := Option.ite_none_right_eq_some.mp h
  cases heq
  -- An integer has its first binary digit before the point, so no place is missing.
  replace hlow : 2 ^ 52 * 2 ^ q ≤ (Ratio.mk n 1).rat := by
    have hsignificand : (2 : ℚ) ^ (q + 52) = 2 ^ 52 * 2 ^ q := by
      rw [add_comm, zpow_add₀ two_ne_zero]
      rfl
    rw [← hsignificand]
    rcases hlow with rfl | hlow
    · exact (zpow_le_one_of_nonpos₀ one_le_two (by decide)).trans hone
    · exact hlow
  have hplaces : hiddenBit ≤ scaledQuotient ⟨n, 1⟩ q := by
    refine le_scaledQuotient hden ?_
    have hhidden : (hiddenBit : ℚ) = 2 ^ 52 := by norm_num [hiddenBit]
    rwa [hhidden]
  have hvalue := value_packed (q + 1074).toNat hplaces (scaledQuotient_le_carry hden hhigh)
  rw [show ((q + 1074).toNat : Int) - 1074 = q by omega] at hvalue
  rw [hvalue]
  refine ⟨one_le_scaledQuotient hden hone (hplaces.trans_lt' (by decide)), ?_⟩
  have hquotient := scaledQuotient_le hden q
  rw [hrat] at hlow hquotient
  have hhalf : (2 : ℚ) ^ q / 2 ≤ n / 2 ^ 53 := by
    rw [div_le_div_iff₀ two_pos (by positivity)]
    linarith
  have hexpand : (n : ℚ) * (1 + 1 / 2 ^ 53) = n + n / 2 ^ 53 := by ring
  linarith

/-! ## Products and quotients -/

theorem mul?_isSome {a b : Nat} (h : (value a).rat * (value b).rat < limit) :
    ∃ c, mul? a b = some c := by
  refine nearest?_isSome (Nat.mul_pos (value_den_pos a) (value_den_pos b)) ?_
  refine lt_of_eq_of_lt ?_ h
  simp only [Ratio.rat]
  push_cast
  rw [div_mul_div_comm]

/-- A finite number stays finite if it is divided by one that is not less than one. -/
theorem div?_isSome {a b : Nat} (ha : a < infinity) (hb : 1 ≤ (value b).rat) :
    ∃ c < infinity, div? a b = some c := by
  have hb' : 0 < (value b).num := by
    rw [Nat.pos_iff_ne_zero]
    intro hzero
    rw [Ratio.rat, hzero] at hb
    norm_num at hb
  have hrat : (Ratio.mk ((value a).num * (value b).den) ((value a).den * (value b).num)).rat =
      (value a).rat / (value b).rat := by
    simp only [Ratio.rat]
    push_cast
    rw [div_div_div_eq]
  obtain ⟨c, hc⟩ := nearest?_isSome (r := ⟨(value a).num * (value b).den,
    (value a).den * (value b).num⟩) (Nat.mul_pos (value_den_pos a) hb') (by
      rw [hrat]
      exact (div_le_self (rat_nonneg _) hb).trans_lt (value_lt_limit ha))
  exact ⟨c, nearest?_lt hc, hc⟩

end Tether.Binary64
