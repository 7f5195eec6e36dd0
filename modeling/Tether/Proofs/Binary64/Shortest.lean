import Tether.Binary64.Shortest
import Tether.Proofs.Binary64.Rounding

/-!
# What the shortest decimal is like

The shortest decimal of a number is a point of a decimal grid within the interval of reals that
round to the number. That there is one with seventeen digits is a matter of widths: the interval
is wider than the grid is (`exists_onGrid?`). So the digits fit a word, and the decimal is no
further from the number than the end of the interval (`shortest_spec`). How the search finds the
first grid, and which of two candidates it takes, makes no difference to that.
-/

namespace Tether.Binary64

/-! ## The interval -/

/-- The numbers that the word of a finite magnitude stands for. -/
structure Parts (mag m : Nat) (q : Int) : Prop where
  split : split mag = (m, q)
  pos : 0 < m
  lt : m < 2 ^ 53
  least : -1074 ≤ q
  greatest : q ≤ 971

theorem exists_parts {mag : Nat} (hpos : 0 < mag) (h : mag < infinity) :
    ∃ m q, Parts mag m q := by
  simp only [infinity, hiddenBit] at h
  by_cases hzero : mag / hiddenBit = 0
  · refine ⟨mag, -1074, if_pos hzero, hpos, ?_, by decide, by decide⟩
    simp only [hiddenBit] at hzero
    omega
  · refine ⟨_, _, if_neg hzero, ?_, ?_, ?_, ?_⟩
    all_goals
      simp only [hiddenBit] at hzero ⊢
      omega

theorem Parts.value_rat {mag m : Nat} {q : Int} (h : Parts mag m q) :
    (value mag).rat = m * 2 ^ q := by
  rw [value, h.split]
  exact scale_rat m q

namespace Interval

variable {mag m : Nat} {q : Int}

/-- The lower end of an interval, as a rational number. -/
def lowRat (i : Interval) : ℚ := i.low / i.den

/-- The number that an interval is around. -/
def midRat (i : Interval) : ℚ := i.mid / i.den

/-- The upper end of an interval. -/
def highRat (i : Interval) : ℚ := i.high / i.den

/-- An interval around a number that reaches up some way, does not reach down to zero, and is
wider than a grid of seventeen digits. -/
structure Spans (i : Interval) (x half : ℚ) : Prop where
  den : 0 < i.den
  mid : i.midRat = x
  high : i.highRat = x + half
  pos : 0 < i.lowRat
  low : i.lowRat ≤ x
  wide : x / 10 ^ 16 < i.highRat - i.lowRat

/-- The interval of a number reaches half a unit up. -/
theorem around_spans (h : Parts mag m q) : Spans (around mag) (m * 2 ^ q) (2 ^ q / 2) := by
  obtain ⟨below, hbelow, haround⟩ : ∃ below : Nat,
      (below = 1 ∧ m = hiddenBit ∨ below = 2) ∧ around mag =
        ⟨(4 * m - below) * (Ratio.scale 1 (q - 2)).num, 4 * m * (Ratio.scale 1 (q - 2)).num,
          (4 * m + 2) * (Ratio.scale 1 (q - 2)).num, (Ratio.scale 1 (q - 2)).den, m % 2 = 0⟩ := by
    refine ⟨if m = hiddenBit ∧ q ≠ -1074 then 1 else 2, ?_, ?_⟩
    · split
      · next hm => exact .inl ⟨rfl, hm.1⟩
      · exact .inr rfl
    · rw [around, h.split]
  have hunit : (Ratio.scale 1 (q - 2)).rat = 2 ^ q / 4 := by
    rw [scale_rat, zpow_sub₀ two_ne_zero]
    norm_num
  have hpow : (0 : ℚ) < 2 ^ q := by positivity
  have hscaled : ∀ k : Nat, ((k * (Ratio.scale 1 (q - 2)).num : Nat) : ℚ) /
      (Ratio.scale 1 (q - 2)).den = k * (2 ^ q / 4) := by
    intro k
    rw [← hunit, Ratio.rat]
    push_cast
    rw [mul_div_assoc]
  have hm : 0 < m := h.pos
  have hle : below ≤ 4 * m := by omega
  have hmax : (m : ℚ) < 2 ^ 53 := by exact_mod_cast h.lt
  rw [haround]
  refine ⟨scale_den_pos _ _, ?_, ?_, ?_, ?_, ?_⟩ <;> simp only [lowRat, midRat, highRat, hscaled]
  · push_cast
    ring
  · push_cast
    ring
  · have hlow : (0 : ℚ) < (4 * m - below : Nat) := by
      exact_mod_cast (show 0 < 4 * m - below by omega)
    positivity
  · push_cast [Nat.cast_sub hle]
    have hbelow' : (0 : ℚ) ≤ below := Nat.cast_nonneg below
    nlinarith
  · have hwidth : ((4 * m + 2 : Nat) : ℚ) * (2 ^ q / 4) - (4 * m - below : Nat) * (2 ^ q / 4) =
        (2 + below) / 4 * 2 ^ q := by
      push_cast [Nat.cast_sub hle]
      ring
    rw [hwidth, mul_div_right_comm]
    refine mul_lt_mul_of_pos_right ?_ hpow
    rcases hbelow with ⟨rfl, rfl⟩ | rfl
    · norm_num [hiddenBit]
    · norm_num
      linarith

end Interval

/-! ## The first digit -/

theorem ascend_spec {num den fuel e : Nat} (hlow : den * 10 ^ e ≤ num)
    (hhigh : num < den * 10 ^ (e + fuel)) :
    den * 10 ^ ascend num den fuel e ≤ num ∧
      num < den * 10 ^ (ascend num den fuel e + 1) := by
  induction fuel generalizing e with
  | zero => exact absurd hhigh (Nat.not_lt.mpr hlow)
  | succ fuel ih =>
      rw [ascend]
      split
      · next h => exact ih h (by rwa [show e + 1 + fuel = e + (fuel + 1) by omega])
      · next h => exact ⟨hlow, Nat.not_le.mp h⟩

theorem descend_spec {num den fuel e : Nat} (hhigh : num * 10 ^ e < den)
    (hlow : den ≤ num * 10 ^ (e + 1 + fuel)) :
    ∃ r, descend num den fuel (e + 1) = r + 1 ∧ num * 10 ^ r < den ∧
      den ≤ num * 10 ^ (r + 1) ∧ r ≤ e + fuel := by
  induction fuel generalizing e with
  | zero => exact ⟨e, rfl, hhigh, hlow, Nat.le_refl _⟩
  | succ fuel ih =>
      rw [descend]
      split
      · next h => exact ⟨e, rfl, hhigh, h, by omega⟩
      · next h =>
          obtain ⟨r, hr, hhigh, hlow, hle⟩ := ih (Nat.not_le.mp h)
            (by rwa [show e + 1 + 1 + fuel = e + 1 + (fuel + 1) by omega])
          exact ⟨r, hr, hhigh, hlow, by omega⟩

/-- The first digit of a number is where it should be. -/
theorem firstExponent_spec {num den : Nat} (hden : 0 < den)
    (hhigh : num < den * 10 ^ (0 + 310)) (hlow : den ≤ num * 10 ^ (0 + 1 + 325)) :
    (10 : ℚ) ^ firstExponent num den ≤ (num : ℚ) / den ∧
      (num : ℚ) / den < 10 ^ (firstExponent num den + 1) ∧ -326 ≤ firstExponent num den := by
  have hden' : (0 : ℚ) < den := by exact_mod_cast hden
  rw [firstExponent]
  split
  · next h =>
      obtain ⟨hlow, hnext⟩ := ascend_spec (show den * 10 ^ 0 ≤ num by simpa using h) hhigh
      generalize ascend num den 310 0 = e at hlow hnext
      refine ⟨?_, ?_, by omega⟩
      · rw [le_div_iff₀ hden', zpow_natCast, mul_comm]
        exact_mod_cast hlow
      · rw [div_lt_iff₀ hden', mul_comm]
        exact_mod_cast hnext
  · next h =>
      obtain ⟨r, hr, hhigh, hlow, hle⟩ :=
        descend_spec (show num * 10 ^ 0 < den by simpa using h) hlow
      rw [show descend num den 325 1 = r + 1 from hr]
      have hhigh' : (num : ℚ) * 10 ^ r < den := by exact_mod_cast hhigh
      have hlow' : (den : ℚ) ≤ num * 10 ^ (r + 1) := by exact_mod_cast hlow
      refine ⟨?_, ?_, by push_cast; omega⟩
      · rw [le_div_iff₀ hden', zpow_neg, zpow_natCast, inv_mul_le_iff₀ (by positivity)]
        linarith
      · rw [div_lt_iff₀ hden', show (-((r + 1 : Nat) : Int) + 1) = -(r : Int) by push_cast; ring,
          zpow_neg, zpow_natCast, lt_inv_mul_iff₀ (by positivity)]
        linarith

/-! ## Grids -/

namespace Interval

variable {i : Interval} (hden : 0 < i.den) (p : Int)

/-- The last point of a grid not above the number. -/
def floor (i : Interval) (p : Int) : Nat :=
  i.mid * 10 ^ (-p).toNat / (i.den * 10 ^ p.toNat)

theorem holds_eq (i : Interval) (n : Nat) (p : Int) :
    i.holds n p =
      if i.closed then
        decide (i.low * 10 ^ (-p).toNat ≤ n * 10 ^ p.toNat * i.den ∧
          n * 10 ^ p.toNat * i.den ≤ i.high * 10 ^ (-p).toNat)
      else decide (i.low * 10 ^ (-p).toNat < n * 10 ^ p.toNat * i.den ∧
        n * 10 ^ p.toNat * i.den < i.high * 10 ^ (-p).toNat) := by
  by_cases hp : 0 ≤ p
  · simp [holds, hp, show (-p).toNat = 0 by omega]
  · simp [holds, hp, show p.toNat = 0 by omega]

include hden

theorem point_le_iff {n x : Nat} :
    (n : ℚ) * 10 ^ p ≤ x / i.den ↔ n * 10 ^ p.toNat * i.den ≤ x * 10 ^ (-p).toNat := by
  have hden' : (0 : ℚ) < i.den := by exact_mod_cast hden
  rw [zpow_eq_div 10, ← mul_div_assoc, div_le_div_iff₀ (by positivity) hden']
  exact_mod_cast Iff.rfl

theorem le_point_iff {n x : Nat} :
    (x : ℚ) / i.den ≤ n * 10 ^ p ↔ x * 10 ^ (-p).toNat ≤ n * 10 ^ p.toNat * i.den := by
  have hden' : (0 : ℚ) < i.den := by exact_mod_cast hden
  rw [zpow_eq_div 10, ← mul_div_assoc, div_le_div_iff₀ hden' (by positivity)]
  exact_mod_cast Iff.rfl

theorem of_holds {n : Nat} (h : i.holds n p = true) :
    i.lowRat ≤ n * 10 ^ p ∧ (n : ℚ) * 10 ^ p ≤ i.highRat := by
  rw [holds_eq] at h
  rw [lowRat, highRat, point_le_iff hden, le_point_iff hden]
  split at h
  · exact of_decide_eq_true h
  · exact (of_decide_eq_true h).imp Nat.le_of_lt Nat.le_of_lt

theorem of_not_holds {n : Nat} (h : i.holds n p = false) :
    (n : ℚ) * 10 ^ p ≤ i.lowRat ∨ i.highRat ≤ n * 10 ^ p := by
  rw [holds_eq] at h
  rw [lowRat, highRat, point_le_iff hden, le_point_iff hden]
  split at h
  · have hout := of_decide_eq_false h
    omega
  · have hout := of_decide_eq_false h
    omega

theorem floor_spec :
    (i.floor p : ℚ) * 10 ^ p ≤ i.midRat ∧ i.midRat < (i.floor p + 1 : Nat) * 10 ^ p := by
  have hpos : 0 < i.den * 10 ^ p.toNat := Nat.mul_pos hden (Nat.pow_pos (by decide))
  have hdiv := Nat.div_mul_le_self (i.mid * 10 ^ (-p).toNat) (i.den * 10 ^ p.toNat)
  have hnext := Nat.lt_mul_div_succ (i.mid * 10 ^ (-p).toNat) hpos
  constructor
  · rw [midRat, point_le_iff hden, floor]
    linarith
  · rw [midRat, ← not_le, point_le_iff hden, floor]
    rw [not_le]
    linarith

omit hden in
/-- On the grid of some places behind the first digit a number has one place more. -/
theorem floor_lt {x half : ℚ} {e : Int} (h : i.Spans x half) (k : Nat) (hx : x < 10 ^ (e + 1)) :
    i.floor (e - k) < 10 ^ (k + 1) := by
  have hstep : (0 : ℚ) < 10 ^ (e - k) := by positivity
  have hle := (floor_spec h.den (e - k)).1
  rw [h.mid] at hle
  have hlt : (i.floor (e - k) : ℚ) < 10 ^ (k + 1) := by
    rw [← mul_lt_mul_iff_of_pos_right hstep]
    have hsplit : (10 : ℚ) ^ (e + 1) = 10 ^ (k + 1) * 10 ^ (e - k) := by
      rw [← zpow_natCast, ← zpow_add₀ (by norm_num)]
      congr 1
      push_cast
      ring
    linarith
  exact_mod_cast hlt

omit hden in
/-- One of the two points around the number is taken, if one is in the interval. -/
theorem onGrid?_eq (i : Interval) (p : Int) :
    ((i.holds (i.floor p) p = true ∨ i.holds (i.floor p + 1) p = true) → (i.onGrid? p).isSome) ∧
      ∀ n, i.onGrid? p = some n → i.holds n p = true ∧ n ≤ i.floor p + 1 := by
  have hpair : (if 0 ≤ p then (i.mid, i.den * Nat.pow 10 p.toNat)
      else (i.mid * Nat.pow 10 (-p).toNat, i.den)) =
        (i.mid * 10 ^ (-p).toNat, i.den * 10 ^ p.toNat) := by
    split
    · next hp => simp [show (-p).toNat = 0 by omega]
    · next hp => simp [show p.toNat = 0 by omega]
  have hfloor : i.mid * 10 ^ (-p).toNat / (i.den * 10 ^ p.toNat) = i.floor p := rfl
  rw [onGrid?, hpair]
  dsimp only
  rw [hfloor]
  cases hlow : i.holds (i.floor p) p <;> cases hhigh : i.holds (i.floor p + 1) p
  · simp
  · simp [hhigh]
  · simp [hlow]
  · simp only [Option.isSome_some, implies_true, Option.some.injEq, true_and]
    rintro n rfl
    have hodd : i.floor p % 2 = 0 ∨ i.floor p % 2 = 1 := Nat.mod_two_eq_zero_or_one _
    split
    · exact ⟨hlow, by omega⟩
    · split
      · exact ⟨hhigh, by omega⟩
      · rcases hodd with h | h <;> rw [h]
        · exact ⟨hlow, by omega⟩
        · exact ⟨hhigh, by omega⟩

omit hden in
/-- On a grid that is finer than the interval is wide, a point is in the interval. -/
theorem onGrid?_isSome {x half : ℚ} (h : i.Spans x half) (hhalf : 0 < half)
    (hp : (10 : ℚ) ^ p < i.highRat - i.lowRat) : (i.onGrid? p).isSome := by
  refine (onGrid?_eq i p).1 ?_
  by_contra hnone
  simp only [not_or, Bool.not_eq_true] at hnone
  obtain ⟨hfloor, hnext⟩ := floor_spec h.den p
  have hstep : ((i.floor p + 1 : Nat) : ℚ) * 10 ^ p = i.floor p * 10 ^ p + 10 ^ p := by
    push_cast
    ring
  have hlow := h.low
  have hhigh := h.high
  rw [h.mid] at hfloor hnext
  rcases of_not_holds h.den p hnone.1 with hout | hout
  · rcases of_not_holds h.den p hnone.2 with hout' | hout' <;> linarith
  · linarith

end Interval

/-! ## The search -/

/-- The search ends at one of the grids, if any has a point. -/
theorem search_spec (i : Interval) (e : Int) {ks : List Nat}
    (h : ∃ k ∈ ks, (i.onGrid? (e - k)).isSome) :
    ∃ k ∈ ks, ∃ n, i.onGrid? (e - k) = some n ∧ i.search e ks = ⟨n, e - k⟩ := by
  induction ks with
  | nil => exact absurd h (by simp)
  | cons k ks ih =>
      rw [Interval.search]
      split
      · next n hn => exact ⟨k, List.mem_cons_self, n, hn, rfl⟩
      · next hnone =>
          obtain ⟨l, hl, hsome⟩ := h
          have hlater : l ∈ ks := by
            rcases List.mem_cons.mp hl with rfl | hl
            · rw [hnone] at hsome
              cases hsome
            · exact hl
          obtain ⟨k, hk, n, hn, heq⟩ := ih ⟨l, hlater, hsome⟩
          exact ⟨k, List.mem_cons_of_mem _ hk, n, hn, heq⟩

/-- The rational number that a decimal is. -/
def Decimal.rat (d : Decimal) : ℚ :=
  d.digits * 10 ^ d.exponent

/-- Zeros at the end of digits do not matter. -/
theorem trim_spec (d : Decimal) (fuel : Nat) :
    (d.trim fuel).rat = d.rat ∧ (d.trim fuel).digits ≤ d.digits ∧
      d.exponent ≤ (d.trim fuel).exponent ∧ (0 < d.digits → 0 < (d.trim fuel).digits) := by
  induction fuel generalizing d with
  | zero => exact ⟨rfl, Nat.le_refl _, Int.le_refl _, id⟩
  | succ fuel ih =>
      rw [Decimal.trim]
      split
      · next h =>
          obtain ⟨hrat, hle, hexponent, hpos⟩ := ih ⟨d.digits / 10, d.exponent + 1⟩
          dsimp only at hle hexponent hpos
          refine ⟨?_, by omega, by omega, fun _ => hpos (by omega)⟩
          have hdigits : (d.digits : ℚ) = (d.digits / 10 : Nat) * 10 := by
            exact_mod_cast (Nat.div_mul_cancel (Nat.dvd_of_mod_eq_zero h.2)).symm
          rw [hrat, Decimal.rat, Decimal.rat, hdigits, zpow_add_one₀ (by norm_num)]
          ring
      · exact ⟨rfl, Nat.le_refl _, Int.le_refl _, id⟩

theorem limit_lt : limit < 10 ^ 309 := by
  have hnat : (2 ^ 54 - 1) * 2 ^ 970 < 10 ^ 309 := by decide +kernel
  rw [limit_eq, ten_pow_eq]
  exact Nat.cast_lt.mpr hnat

theorem zpow_least : (1 : ℚ) / 10 ^ 326 ≤ 2 ^ (-1074 : Int) := by
  have hnat : 2 ^ 1074 ≤ 10 ^ 326 := by decide +kernel
  have hcast : ((2 ^ 1074 : Nat) : ℚ) ≤ (10 ^ 326 : Nat) := Nat.cast_le.mpr hnat
  rw [Nat.cast_pow, Nat.cast_pow] at hcast
  rw [zpow_neg, ← one_div]
  exact one_div_le_one_div_of_le (by positivity) hcast

/-- The numbers of a finite magnitude are within the powers that the first digit is sought in. -/
theorem firstExponent_around {mag m : Nat} {q : Int} (h : Parts mag m q)
    (hfinite : mag < infinity) :
    let i := Interval.around mag
    (10 : ℚ) ^ firstExponent i.mid i.den ≤ m * 2 ^ q ∧
      (m : ℚ) * 2 ^ q < 10 ^ (firstExponent i.mid i.den + 1) ∧
        -326 ≤ firstExponent i.mid i.den := by
  intro i
  have hspans := Interval.around_spans h
  have hden : (0 : ℚ) < i.den := by exact_mod_cast hspans.den
  have hmid : (i.mid : ℚ) = m * 2 ^ q * i.den := by
    rw [← hspans.mid, Interval.midRat, div_mul_cancel₀ _ hden.ne']
  have hvalue : (m : ℚ) * 2 ^ q < limit := by
    have hlimit := value_lt_limit hfinite
    rwa [h.value_rat] at hlimit
  have hhigh : i.mid < i.den * 10 ^ (0 + 310) := by
    have hcast : (i.mid : ℚ) < (i.den * 10 ^ (0 + 310) : Nat) := by
      rw [hmid, mul_comm, Nat.cast_mul, Nat.cast_pow]
      refine mul_lt_mul_of_pos_left ?_ hden
      exact (hvalue.trans limit_lt).trans (pow_lt_pow_right₀ (by norm_num) (by norm_num))
    exact Nat.cast_lt.mp hcast
  have hlow : i.den ≤ i.mid * 10 ^ (0 + 1 + 325) := by
    have hone : (1 : ℚ) ≤ m := by exact_mod_cast h.pos
    have hunit : (1 : ℚ) / 10 ^ 326 ≤ m * 2 ^ q := by
      refine zpow_least.trans ((zpow_le_zpow_right₀ one_le_two h.least).trans ?_)
      exact le_mul_of_one_le_left (by positivity) hone
    have hcast : (i.den : ℚ) ≤ (i.mid * 10 ^ (0 + 1 + 325) : Nat) := by
      rw [div_le_iff₀ (by positivity)] at hunit
      rw [Nat.cast_mul, Nat.cast_pow, hmid, mul_right_comm]
      exact le_mul_of_one_le_left hden.le hunit
    exact Nat.cast_le.mp hcast
  have hfirst := firstExponent_spec hspans.den hhigh hlow
  rwa [show (i.mid : ℚ) / i.den = m * 2 ^ q from hspans.mid] at hfirst

/-- The shortest decimal has few enough digits for a word, and is no more than half a unit
above the number. -/
theorem shortest_spec {mag : Nat} (hpos : 0 < mag) (h : mag < infinity) :
    0 < (shortest mag).digits ∧ (shortest mag).digits ≤ 10 ^ 17 ∧
      -342 ≤ (shortest mag).exponent ∧
        (shortest mag).rat ≤ (value mag).rat + 2 ^ (970 : Int) := by
  obtain ⟨m, q, hparts⟩ := exists_parts hpos h
  have hspans := Interval.around_spans hparts
  have hhalf : (0 : ℚ) < 2 ^ q / 2 := by positivity
  obtain ⟨hfirst, hnext, hleast⟩ := firstExponent_around hparts h
  generalize he : firstExponent (Interval.around mag).mid (Interval.around mag).den = e
    at hfirst hnext hleast
  have hgrid : ((Interval.around mag).onGrid? (e - (16 : Nat))).isSome := by
    refine Interval.onGrid?_isSome _ hspans hhalf (lt_of_le_of_lt ?_ hspans.wide)
    rw [zpow_sub₀ (by norm_num), zpow_natCast]
    exact div_le_div_of_nonneg_right hfirst (by positivity)
  have hlast : 16 ∈ List.range 17 := List.mem_range.mpr (by decide)
  obtain ⟨k, hk, n, hn, hsearch⟩ := search_spec _ e ⟨16, hlast, hgrid⟩
  obtain ⟨hrat, hdigits, hexponent, hpositive⟩ := trim_spec ⟨n, e - k⟩ 20
  have hshortest : shortest mag = Decimal.trim ⟨n, e - k⟩ 20 := by
    rw [shortest, he, hsearch]
  rw [← hshortest] at hrat hdigits hexponent hpositive
  obtain ⟨hholds, hfloor⟩ := (Interval.onGrid?_eq _ _).2 n hn
  obtain ⟨hlow, hhigh⟩ := Interval.of_holds hspans.den _ hholds
  have hn : 0 < n := by
    rw [Nat.pos_iff_ne_zero]
    rintro rfl
    have hzero := hspans.pos
    simp only [Nat.cast_zero, zero_mul] at hlow
    linarith
  refine ⟨hpositive hn, hdigits.trans ?_, ?_, ?_⟩
  · have hlt := Interval.floor_lt hspans k hnext
    have hle : 10 ^ (k + 1) ≤ 10 ^ 17 :=
      Nat.pow_le_pow_right (by decide) (by have := List.mem_range.mp hk; omega)
    exact hfloor.trans (hlt.trans_le hle)
  · have hlt := List.mem_range.mp hk
    dsimp only at hexponent
    omega
  · have hunit : (2 : ℚ) ^ q / 2 ≤ 2 ^ (970 : Int) := by
      rw [div_le_iff₀ two_pos, ← zpow_add_one₀ two_ne_zero]
      exact zpow_le_zpow_right₀ one_le_two hparts.greatest
    rw [hrat, hparts.value_rat]
    refine (hhigh.trans_eq hspans.high).trans ?_
    linarith

/-- A decimal that is not above the limit has no exponent above 308. -/
theorem Decimal.exponent_le {d : Decimal} (hpos : 0 < d.digits) (h : d.rat ≤ limit) :
    d.exponent ≤ 308 := by
  have hone : (1 : ℚ) ≤ d.digits := by exact_mod_cast hpos
  have hlt : (10 : ℚ) ^ d.exponent < 10 ^ (309 : Int) := calc
    (10 : ℚ) ^ d.exponent ≤ d.digits * 10 ^ d.exponent :=
      le_mul_of_one_le_left (by positivity) hone
    _ ≤ limit := h
    _ < 10 ^ (309 : Int) := limit_lt
  exact Int.le_of_lt_add_one ((zpow_lt_zpow_iff_right₀ (by norm_num)).mp hlt)

theorem shortest_le_limit {mag : Nat} (hpos : 0 < mag) (h : mag < infinity) :
    (shortest mag).rat ≤ limit := by
  have hle := value_le (by decide) h Nat.one_pos
  rw [Nat.cast_one, zpow_last] at hle
  refine (shortest_spec hpos h).2.2.2.trans ?_
  rw [limit]
  linarith

end Tether.Binary64
