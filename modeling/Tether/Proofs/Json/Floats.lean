import Tether.Proofs.Binary64.Shortest
import Tether.Proofs.Json.Layout

/-!
# Floats written and read back

A float is written in one of four forms, and all four are digits, a point with digits behind it or
none, and an exponent or none (`Numeral`). A reader takes such a text off as it is, and gives it
the value of its digits at the place that point and exponent say (`Numeral.value?_literal`). In
each form these are the digits of the decimal at their place, but for a zero that may be added
behind the point (`exists_writes`).

Reading does not give the float back. It rounds three times where exact reading would round once,
so what is read may be the next float. The one thing that could go wrong is that it is no float at
all: the product of the digits and a power of ten may round to infinity. There is room for that
error below all but the three greatest floats, and for those it is computed
(`Literal.shortest_floatOf?`). So whatever number was read can be written and read again
(`Number.legible_of_take?`).
-/

namespace Tether.Json

open Binary64 (limit value infinity shortest)

/-! ## Numerals -/

/-- What a number is written as, its sign apart. -/
structure Numeral where
  whole : List Char
  fraction : Option (List Char) := none
  /-- Whether the exponent is positive, and its digits. -/
  exponent : Option (Bool × List Char) := none

namespace Numeral

/-- The text of an exponent. -/
def exponentChars : Option (Bool × List Char) → List Char
  | none => []
  | some (up, ds) => 'e' :: (if up then '+' else '-') :: ds

/-- The text of a fraction. -/
def fractionChars : Option (List Char) → List Char
  | none => []
  | some ds => '.' :: ds

/-- The text of a numeral. -/
def chars (w : Numeral) : List Char :=
  w.whole ++ (fractionChars w.fraction ++ exponentChars w.exponent)

/-- The literal that a numeral is taken for. -/
def literal (negative : Bool) (w : Numeral) : Literal :=
  ⟨negative, w.whole.map digitValue, w.fraction.map (List.map digitValue),
    w.exponent.map fun e => (e.1, e.2.map digitValue)⟩

/-- The number that the digits before and behind the point stand for. -/
def word (w : Numeral) : Nat :=
  Literal.natOf ((w.whole ++ w.fraction.getD []).map digitValue)

/-- The power of ten of the last digit. -/
def place (w : Numeral) : Int :=
  (match w.exponent with
    | none => 0
    | some (up, ds) =>
        if up then (Literal.natOf (ds.map digitValue) : Int)
        else -(Literal.natOf (ds.map digitValue) : Int)) - (w.fraction.getD []).length

/-- The parts of a numeral are digits. -/
structure Sound (w : Numeral) : Prop where
  whole : Literal.IsWhole w.whole
  fraction : ∀ ds, w.fraction = some ds → ds ≠ [] ∧ ∀ c ∈ ds, c.isDigit = true
  exponent : ∀ e, w.exponent = some e → e.2 ≠ [] ∧ ∀ c ∈ e.2, c.isDigit = true

theorem takeExponent?_append {e : Option (Bool × List Char)} {rest : List Char}
    (h : ∀ x, e = some x → x.2 ≠ [] ∧ ∀ c ∈ x.2, c.isDigit = true) (hrest : Stops rest) :
    Literal.takeExponent? (exponentChars e ++ rest) =
      some (e.map fun x => (x.1, x.2.map digitValue), rest) := by
  cases e with
  | none => exact Literal.takeExponent?_stops hrest
  | some x =>
      obtain ⟨up, ds⟩ := x
      obtain ⟨hne, hdigits⟩ := h _ rfl
      have hread := someDigits?_append hdigits hne hrest.digitless
      cases up <;>
        simp [exponentChars, Literal.takeExponent?, Literal.takeSigned?, hread]

theorem takeFraction?_append {f : Option (List Char)} {rest : List Char}
    (h : ∀ ds, f = some ds → ds ≠ [] ∧ ∀ c ∈ ds, c.isDigit = true) (hrest : Digitless rest)
    (hpoint : ∀ tail, rest ≠ '.' :: tail) :
    Literal.takeFraction? (fractionChars f ++ rest) =
      some (f.map (List.map digitValue), rest) := by
  cases f with
  | none =>
      rw [fractionChars, List.nil_append, Literal.takeFraction?.eq_def]
      split
      · next tail => exact absurd rfl (hpoint tail)
      · rfl
  | some ds =>
      obtain ⟨hne, hdigits⟩ := h _ rfl
      have hread := someDigits?_append hdigits hne hrest
      simp [fractionChars, Literal.takeFraction?, hread]

/-- A numeral is taken off a text up to its end. -/
theorem takeUnsigned?_append {w : Numeral} (h : w.Sound) (negative : Bool) {rest : List Char}
    (hrest : Stops rest) :
    Literal.takeUnsigned? negative (w.chars ++ rest) = some (w.literal negative, rest) := by
  have hexponent : Digitless (exponentChars w.exponent ++ rest) ∧
      ∀ tail, exponentChars w.exponent ++ rest ≠ '.' :: tail := by
    cases w.exponent with
    | none =>
        refine ⟨hrest.digitless, ?_⟩
        rintro tail rfl
        exact hrest.2.1 rfl
    | some e => exact ⟨rfl, by simp [exponentChars]⟩
  have hfraction : Digitless (fractionChars w.fraction ++ (exponentChars w.exponent ++ rest)) := by
    cases w.fraction with
    | none => exact hexponent.1
    | some ds => rfl
  rw [Literal.takeUnsigned?, chars, List.append_assoc, List.append_assoc,
    Literal.takeWhole?_append h.whole hfraction]
  simp only [Option.bind_eq_bind, Option.bind_some,
    takeFraction?_append h.fraction hexponent.1 hexponent.2, takeExponent?_append h.exponent hrest]
  rfl

/-- The value of a numeral that is no integer is that of its digits at their place. -/
theorem value?_literal {w : Numeral} (negative : Bool) (hword : w.word < 18446744073709551616)
    (hexponent : ∀ e, w.exponent = some e → Literal.natOf (e.2.map digitValue) < 2147483648)
    (hfloat : w.fraction.isSome ∨ w.exponent.isSome) :
    (w.literal negative).value? = Literal.floatOf? negative w.word w.place := by
  have hsplit : w.word = ((w.fraction.getD []).map digitValue).foldl (fun n d => n * 10 + d)
      (Literal.natOf (w.whole.map digitValue)) := by
    rw [word, List.map_append, Literal.natOf, List.foldl_append, Literal.natOf]
  have hwhole : Literal.gatherWhole 0 (w.whole.map digitValue) =
      (Literal.natOf (w.whole.map digitValue), 0) := by
    refine Literal.gatherWhole_eq 0 _ (lt_of_le_of_lt ?_ hword)
    rw [hsplit]
    exact Literal.le_foldl_digits _ _
  have hfraction := Literal.gatherFraction_eq (Literal.natOf (w.whole.map digitValue))
    ((w.fraction.getD []).map digitValue) (hsplit ▸ hword)
  rw [← hsplit, List.length_map] at hfraction
  have hgetD : (w.fraction.map (List.map digitValue)).getD [] =
      (w.fraction.getD []).map digitValue := by
    cases w.fraction <;> rfl
  simp only [Literal.value?, literal, hwhole, hgetD, hfraction]
  cases hexp : w.exponent with
  | none =>
      have hsome : w.fraction.isNone = false := by
        rw [hexp] at hfloat
        simpa using hfloat
      simp [place, hexp, hsome]
  | some e =>
      obtain ⟨up, ds⟩ := e
      have hlt : Literal.natOf (ds.map digitValue) < 2147483648 := hexponent _ hexp
      cases up <;> simp [place, hexp, hlt] <;> congr 1 <;> ring

end Numeral

/-! ## Decimals -/

theorem natOf_append (xs ys : List Nat) :
    Literal.natOf (xs ++ ys) = Literal.natOf xs * 10 ^ ys.length + Literal.natOf ys := by
  induction ys using List.reverseRecOn with
  | nil => simp [Literal.natOf]
  | append_singleton ys y ih =>
      have hlast : ∀ zs : List Nat, Literal.natOf (zs ++ [y]) = Literal.natOf zs * 10 + y := by
        intro zs
        rw [Literal.natOf, List.foldl_append]
        rfl
      rw [← List.append_assoc, hlast, hlast, ih, List.length_append, List.length_singleton,
        Nat.pow_succ]
      ring

theorem natOf_zeros (n : Nat) : Literal.natOf ((List.replicate n '0').map digitValue) = 0 := by
  induction n with
  | zero => rfl
  | succ n ih =>
      rw [List.replicate_succ', List.map_append, natOf_append, ih]
      rfl

theorem isDigit_of_mem_zeros {n : Nat} {c : Char} (h : c ∈ List.replicate n '0') :
    c.isDigit = true := by
  rw [List.eq_of_mem_replicate h]
  rfl

/-- A decimal is written as a numeral that has its digits at their place, or behind them a zero
that is needed for the point. -/
structure Writes (d : Binary64.Decimal) (w : Numeral) : Prop where
  chars : w.chars = Number.decimalChars d
  sound : w.Sound
  float : w.fraction.isSome ∨ w.exponent.isSome
  exponent : ∀ e, w.exponent = some e → Literal.natOf (e.2.map digitValue) < 2147483648
  value : w.word = d.digits ∧ w.place = d.exponent ∨
    0 < w.word ∧ w.word ≤ 10 ^ 17 ∧ w.place = -1

section Decimals

variable {d : Binary64.Decimal} (hpos : 0 < d.digits)

/-- The digits of a decimal. -/
def digitsOf (d : Binary64.Decimal) : List Char :=
  Number.natChars d.digits

theorem digitsOf_length_pos (d : Binary64.Decimal) : 0 < (digitsOf d).length :=
  Nat.length_toDigits_pos

theorem isDigit_of_mem_digitsOf {c : Char} (h : c ∈ digitsOf d) : c.isDigit = true :=
  Number.isDigit_of_mem_natChars h

theorem natOf_digitsOf (d : Binary64.Decimal) :
    Literal.natOf ((digitsOf d).map digitValue) = d.digits :=
  Number.natOf_natChars d.digits

include hpos

/-- Any number of the first digits is a whole part. -/
theorem isWhole_take {n : Nat} (hn : 0 < n) (more : List Char)
    (hmore : ∀ c ∈ more, c.isDigit = true) :
    Literal.IsWhole ((digitsOf d).take n ++ more) := by
  obtain ⟨c, rest, hcons, hc⟩ := Number.natChars_eq_cons d.digits hpos
  refine ⟨fun c hmem => ?_, .inr ?_⟩
  · rcases List.mem_append.mp hmem with htake | hmem
    · exact isDigit_of_mem_digitsOf (List.mem_of_mem_take htake)
    · exact hmore c hmem
  · obtain ⟨n, rfl⟩ := Nat.exists_eq_succ_of_ne_zero hn.ne'
    exact ⟨c, rest.take n ++ more, by rw [digitsOf, hcons]; rfl, hc⟩

/-- Digits and zeros in front of the point, and one zero behind it. -/
theorem writes_padded {n : Nat} (hlength : (digitsOf d).length + n ≤ 16)
    (hchars : Number.decimalChars d =
      digitsOf d ++ (List.replicate n '0' ++ ['.', '0'])) :
    ∃ w, Writes d w := by
  have hword : Literal.natOf ((digitsOf d ++ List.replicate n '0' ++ ['0']).map digitValue) =
      d.digits * 10 ^ n * 10 := by
    rw [List.map_append, List.map_append, natOf_append, natOf_append, natOf_zeros, natOf_digitsOf]
    simp [Literal.natOf, digitValue]
  have hdigits : d.digits < 10 ^ (16 - n) :=
    (Nat.length_toDigits_le_iff (by decide) (by have := digitsOf_length_pos d; omega)).mp
      (show (digitsOf d).length ≤ 16 - n by omega)
  have hpad : d.digits * 10 ^ n < 10 ^ 16 := by
    have hmul : d.digits * 10 ^ n < 10 ^ (16 - n) * 10 ^ n :=
      Nat.mul_lt_mul_of_pos_right hdigits (Nat.pow_pos (by decide))
    rwa [← Nat.pow_add, show 16 - n + n = 16 by omega] at hmul
  refine ⟨⟨digitsOf d ++ List.replicate n '0', some ['0'], none⟩, ?_,
    ⟨?_, ?_, by rintro e ⟨⟩⟩, .inl rfl, by rintro e ⟨⟩, .inr ⟨?_, ?_, rfl⟩⟩
  · rw [hchars]
    simp [Numeral.chars, Numeral.fractionChars, Numeral.exponentChars]
  · have hwhole := isWhole_take hpos (digitsOf_length_pos d) (List.replicate n '0')
      fun c => isDigit_of_mem_zeros
    rwa [List.take_length] at hwhole
  · rintro ds ⟨⟩
    exact ⟨List.cons_ne_nil _ _, List.forall_mem_singleton.mpr rfl⟩
  · show 0 < Literal.natOf ((digitsOf d ++ List.replicate n '0' ++ ['0']).map digitValue)
    rw [hword]
    positivity
  · show Literal.natOf ((digitsOf d ++ List.replicate n '0' ++ ['0']).map digitValue) ≤ 10 ^ 17
    rw [hword]
    omega

/-- Digits with a point among them. -/
theorem writes_pointed {n : Nat} (hn : 0 < n) (hlt : n < (digitsOf d).length)
    (hplace : d.exponent = n - (digitsOf d).length)
    (hchars : Number.decimalChars d = (digitsOf d).take n ++ '.' :: (digitsOf d).drop n) :
    ∃ w, Writes d w := by
  refine ⟨⟨(digitsOf d).take n, some ((digitsOf d).drop n), none⟩, ?_,
    ⟨?_, ?_, by rintro e ⟨⟩⟩, .inl rfl, by rintro e ⟨⟩, .inl ⟨?_, ?_⟩⟩
  · rw [hchars]
    simp [Numeral.chars, Numeral.fractionChars, Numeral.exponentChars]
  · have hwhole := isWhole_take hpos hn [] (List.forall_mem_nil _)
    rwa [List.append_nil] at hwhole
  · rintro ds ⟨⟩
    exact ⟨by simpa using hlt, fun c hc => isDigit_of_mem_digitsOf (List.mem_of_mem_drop hc)⟩
  · rw [Numeral.word, Option.getD_some, List.take_append_drop, natOf_digitsOf]
  · simp only [Numeral.place, Option.getD_some, List.length_drop]
    omega

omit hpos in
/-- Zeros behind the point, and the digits behind them. -/
theorem writes_small {n : Nat} (hplace : d.exponent = -(n + (digitsOf d).length : Nat))
    (hchars : Number.decimalChars d = '0' :: '.' :: (List.replicate n '0' ++ digitsOf d)) :
    ∃ w, Writes d w := by
  refine ⟨⟨['0'], some (List.replicate n '0' ++ digitsOf d), none⟩, ?_,
    ⟨?_, ?_, by rintro e ⟨⟩⟩, .inl rfl, by rintro e ⟨⟩, .inl ⟨?_, ?_⟩⟩
  · rw [hchars]
    simp [Numeral.chars, Numeral.fractionChars, Numeral.exponentChars]
  · exact ⟨List.forall_mem_singleton.mpr rfl, .inl rfl⟩
  · rintro ds ⟨⟩
    have hlength := digitsOf_length_pos d
    refine ⟨fun hnil => ?_, fun c hc => ?_⟩
    · rw [List.append_eq_nil_iff.mp hnil |>.2] at hlength
      cases hlength
    · exact (List.mem_append.mp hc).elim isDigit_of_mem_zeros isDigit_of_mem_digitsOf
  · rw [Numeral.word, Option.getD_some, ← List.append_assoc,
      show ['0'] ++ List.replicate n '0' = List.replicate (n + 1) '0' from rfl, List.map_append,
      natOf_append, natOf_zeros, natOf_digitsOf]
    omega
  · simp only [Numeral.place, Option.getD_some, List.length_append, List.length_replicate]
    omega

/-- The first digit, a point if there are more, and an exponent. -/
theorem writes_scaled {first : Int} (hplace : first = d.exponent + (digitsOf d).length - 1)
    (hsmall : first.natAbs < 2147483648)
    (hchars : Number.decimalChars d =
      Number.pointed (digitsOf d) ++
        'e' :: (if first < 0 then '-' else '+') :: Number.natChars first.natAbs) :
    ∃ w, Writes d w := by
  have hexponent : Literal.natOf ((Number.natChars first.natAbs).map digitValue) = first.natAbs :=
    Number.natOf_natChars _
  obtain ⟨c, rest, hcons, hc⟩ := Number.natChars_eq_cons d.digits hpos
  have hdigits : digitsOf d = c :: rest := hcons
  have hmem : ∀ c ∈ digitsOf d, c.isDigit = true := fun c => isDigit_of_mem_digitsOf
  have hnat : ∀ c ∈ Number.natChars first.natAbs, c.isDigit = true := fun c =>
    Number.isDigit_of_mem_natChars
  have hsome : Number.natChars first.natAbs ≠ [] := (Literal.isWhole_natChars _).ne_nil
  have hword := natOf_digitsOf d
  rw [hdigits] at hplace hchars hmem hword
  have hwhole : Literal.IsWhole [c] :=
    ⟨List.forall_mem_singleton.mpr (hmem c List.mem_cons_self), .inr ⟨c, [], rfl, hc⟩⟩
  refine ⟨⟨[c], if rest = [] then none else some rest,
    some (decide (0 ≤ first), Number.natChars first.natAbs)⟩, ?_, ⟨hwhole, ?_, ?_⟩, .inr rfl, ?_,
    .inl ⟨?_, ?_⟩⟩
  · rw [hchars]
    by_cases hneg : first < 0
    · cases rest <;> simp [Numeral.chars, Numeral.fractionChars, Numeral.exponentChars,
        Number.pointed, hneg]
    · cases rest <;> simp [Numeral.chars, Numeral.fractionChars, Numeral.exponentChars,
        Number.pointed, hneg, Int.not_lt.mp hneg]
  · intro ds hds
    obtain ⟨hne, rfl⟩ : rest ≠ [] ∧ rest = ds := by
      cases rest with
      | nil => cases hds
      | cons c rest => exact ⟨List.cons_ne_nil _ _, Option.some.inj hds⟩
    exact ⟨hne, fun c hc => hmem c (List.mem_cons_of_mem _ hc)⟩
  · rintro e ⟨⟩
    exact ⟨hsome, hnat⟩
  · rintro e ⟨⟩
    exact hexponent.trans_lt hsmall
  · rw [← hword, Numeral.word]
    cases rest <;> rfl
  · have hlength : ((if rest = [] then none else some rest).getD [] : List Char).length =
        rest.length := by
      cases rest <;> rfl
    simp only [Numeral.place, hlength, hexponent]
    rw [List.length_cons] at hplace
    by_cases hneg : 0 ≤ first
    · simp only [hneg, decide_true, if_true]
      omega
    · simp only [hneg, decide_false, Bool.false_eq_true, if_false]
      omega

end Decimals

/-- Every decimal that a float may have is written as a numeral. -/
theorem exists_writes {d : Binary64.Decimal} (hpos : 0 < d.digits) (hlow : -342 ≤ d.exponent)
    (hhigh : d.exponent ≤ 400) (hword : d.digits ≤ 10 ^ 17) : ∃ w, Writes d w := by
  have hlength : (digitsOf d).length ≤ 18 :=
    (Nat.length_toDigits_le_iff (by decide) (by decide)).mpr (by omega)
  have hlength' := digitsOf_length_pos d
  obtain ⟨first, hfirst⟩ : ∃ first : Int, first = d.exponent + (digitsOf d).length - 1 := ⟨_, rfl⟩
  have hchars : Number.decimalChars d =
      if -5 ≤ first ∧ first ≤ 15 then
        if 0 ≤ d.exponent then
          digitsOf d ++ List.replicate d.exponent.toNat '0' ++ ['.', '0']
        else if 0 ≤ first then
          (digitsOf d).take (first.toNat + 1) ++ '.' :: (digitsOf d).drop (first.toNat + 1)
        else ['0', '.'] ++ List.replicate (-first - 1).toNat '0' ++ digitsOf d
      else Number.pointed (digitsOf d) ++
        'e' :: (if first < 0 then '-' else '+') :: Number.natChars first.natAbs := by
    rw [hfirst]
    rfl
  by_cases hplain : -5 ≤ first ∧ first ≤ 15
  · rw [if_pos hplain] at hchars
    by_cases hexponent : 0 ≤ d.exponent
    · rw [if_pos hexponent, List.append_assoc] at hchars
      exact writes_padded hpos (by omega) hchars
    · rw [if_neg hexponent] at hchars
      by_cases hone : 0 ≤ first
      · rw [if_pos hone] at hchars
        exact writes_pointed hpos (Nat.succ_pos _) (by omega) (by omega) hchars
      · rw [if_neg hone] at hchars
        exact writes_small (by omega) hchars
  · rw [if_neg hplain] at hchars
    exact writes_scaled hpos hfirst (by omega) hchars

/-! ## Values -/

theorem pow_lt_limit {n : Nat} (h : n ≤ 308) : (10 : ℚ) ^ n < limit := by
  have hnat : 10 ^ 308 < (2 ^ 54 - 1) * 2 ^ 970 := by decide +kernel
  refine (pow_le_pow_right₀ (by norm_num) h).trans_lt ?_
  rw [Binary64.limit_eq, Binary64.ten_pow_eq]
  exact Nat.cast_lt.mpr hnat

/-- A natural number that is small enough is rounded to a finite one. -/
theorem ofNat?_isSome {n : Nat} (h : (n : ℚ) < limit) : ∃ mag, Binary64.ofNat? n = some mag := by
  refine Binary64.nearest?_isSome (r := ⟨n, 1⟩) Nat.one_pos ?_
  rwa [Binary64.Ratio.rat, Nat.cast_one, div_one]

/-- A power of ten is rounded by one part in `2^53` at most. -/
theorem powerOfTen_bounds {n : Nat} (h : n ≤ 308) :
    1 ≤ (value (Literal.powerOfTen n)).rat ∧
      (value (Literal.powerOfTen n)).rat ≤ 10 ^ n * (1 + 1 / 2 ^ 53) := by
  have hcast : ((10 ^ n : Nat) : ℚ) = 10 ^ n := Nat.cast_pow 10 n
  obtain ⟨mag, hmag⟩ := ofNat?_isSome (hcast.trans_lt (pow_lt_limit h))
  have hpower : Literal.powerOfTen n = mag := by
    rw [Literal.powerOfTen, Nat.pow_eq, hmag]
    rfl
  have hbounds := Binary64.ofNat?_bounds (Nat.pow_pos (by decide)) hmag
  rwa [hcast, ← hpower] at hbounds

namespace Literal

/-- Scaling ends at a finite number, if it ends at one at all. -/
theorem scaled?_lt {fuel mag mag' : Nat} {e : Int} (hmag : mag < infinity)
    (h : scaled? fuel mag e = some mag') : mag' < infinity := by
  induction fuel generalizing mag e with
  | zero =>
      cases h
      exact hmag
  | succ fuel ih =>
      rw [scaled?] at h
      split at h
      · split at h <;> exact Binary64.nearest?_lt h
      · split at h
        · cases h
          decide
        · split at h
          · cases h
          · obtain ⟨quotient, hquotient, h⟩ := Option.bind_eq_some_iff.mp h
            exact ih (Binary64.nearest?_lt hquotient) h

/-- Scaling down always ends. -/
theorem scaled?_isSome_of_neg {fuel mag : Nat} {e : Int} (hmag : mag < infinity) (he : e < 0) :
    ∃ mag', scaled? fuel mag e = some mag' := by
  induction fuel generalizing mag e with
  | zero => exact ⟨mag, rfl⟩
  | succ fuel ih =>
      rw [scaled?, if_neg (Int.not_le.mpr he), if_neg (Int.not_le.mpr he)]
      split
      · next hsmall =>
          obtain ⟨quotient, -, hquotient⟩ :=
            Binary64.div?_isSome hmag (powerOfTen_bounds hsmall).1
          exact ⟨quotient, hquotient⟩
      · next hlarge =>
          split
          · exact ⟨0, rfl⟩
          · obtain ⟨quotient, hfinite, hquotient⟩ :=
              Binary64.div?_isSome hmag (powerOfTen_bounds (n := 308) le_rfl).1
            obtain ⟨mag', hmag'⟩ := ih (e := e + 308) hfinite (by omega)
            exact ⟨mag', by rw [hquotient]; exact hmag'⟩

/-- The digits at their place are within range, if there is room above them for what the three
roundings may add. -/
theorem floatOf?_isSome (negative : Bool) {word : Nat} {e : Int} (hpos : 0 < word)
    (hword : word ≤ 10 ^ 17) (hroom : (word : ℚ) * 10 ^ e ≤ (2 ^ 54 - 7) * 2 ^ (970 : Int)) :
    (floatOf? negative word e).isSome := by
  have hsmall : (word : ℚ) ≤ 10 ^ 17 := by exact_mod_cast hword
  obtain ⟨mag, hmag⟩ := ofNat?_isSome (hsmall.trans_lt (pow_lt_limit (by decide)))
  have hfinite : mag < infinity := Binary64.nearest?_lt hmag
  suffices h : ∃ mag', scaled? 4 mag e = some mag' by
    obtain ⟨mag', hmag'⟩ := h
    simp [floatOf?, hmag, hmag']
  rcases Int.lt_or_le e 0 with he | he
  · exact scaled?_isSome_of_neg hfinite he
  have hunit : (0 : ℚ) < 2 ^ (970 : Int) := by positivity
  have hlimit : (2 ^ 54 - 7 : ℚ) * 2 ^ (970 : Int) < limit :=
    mul_lt_mul_of_pos_right (by norm_num) hunit
  have hn : e ≤ 308 := Binary64.Decimal.exponent_le (d := ⟨word, e⟩) hpos (hroom.trans hlimit.le)
  obtain ⟨n, rfl⟩ := Int.eq_ofNat_of_zero_le he
  rw [zpow_natCast] at hroom
  obtain ⟨hleast, hle⟩ := Binary64.ofNat?_bounds hpos hmag
  obtain ⟨hleast', hle'⟩ := powerOfTen_bounds (Int.ofNat_le.mp hn)
  obtain ⟨product, hproduct⟩ := Binary64.mul?_isSome (a := mag) (b := powerOfTen n) <| calc
      (value mag).rat * (value (powerOfTen n)).rat
        ≤ word * (1 + 1 / 2 ^ 53) * (10 ^ n * (1 + 1 / 2 ^ 53)) :=
        mul_le_mul hle hle' (by linarith) (by positivity)
      _ = word * 10 ^ n * (1 + 1 / 2 ^ 53) ^ 2 := by ring
      _ ≤ (2 ^ 54 - 7) * 2 ^ (970 : Int) * (1 + 1 / 2 ^ 53) ^ 2 :=
        mul_le_mul_of_nonneg_right hroom (by positivity)
      _ = (2 ^ 54 - 7) * (1 + 1 / 2 ^ 53) ^ 2 * 2 ^ (970 : Int) := by ring
      _ < limit := mul_lt_mul_of_pos_right (by norm_num) hunit
  refine ⟨product, ?_⟩
  rw [scaled?, if_pos (show (n : Int).natAbs ≤ 308 by omega), if_pos he]
  exact hproduct

/-- A float that is read is finite. -/
theorem finite_of_floatOf? {negative : Bool} {word : Nat} {e : Int} {bits : UInt64}
    (h : floatOf? negative word e = some (.float bits)) : Binary64.magnitude bits < infinity := by
  simp only [floatOf?, Option.bind_eq_bind, Option.bind_eq_some_iff] at h
  obtain ⟨mag, hmag, mag', hmag', heq⟩ := h
  cases heq
  have hfinite := scaled?_lt (Binary64.nearest?_lt hmag) hmag'
  rwa [Binary64.magnitude_ofMagnitude negative hfinite]

theorem finite_of_integerOf? {negative : Bool} {word : Nat} {bits : UInt64}
    (h : integerOf? negative word = some (.float bits)) : Binary64.magnitude bits < infinity := by
  rw [integerOf?] at h
  split at h
  · split at h
    · exact finite_of_floatOf? h
    · cases h
  · cases h

theorem finite_of_value? {l : Literal} {bits : UInt64} (h : l.value? = some (.float bits)) :
    Binary64.magnitude bits < infinity := by
  simp only [value?] at h
  split at h
  · split at h
    · exact finite_of_floatOf? h
    · split at h
      · cases h
      · cases h
        rw [Binary64.magnitude_ofMagnitude _ (by decide)]
        decide
  · split at h
    · exact finite_of_integerOf? h
    · exact finite_of_floatOf? h

/-- The digits of a finite float are within range. -/
theorem shortest_floatOf? (negative : Bool) {mag : Nat} (hpos : 0 < mag) (h : mag < infinity) :
    (floatOf? negative (shortest mag).digits (shortest mag).exponent).isSome := by
  have htop : ∀ mag ∈ [infinity - 1, infinity - 2, infinity - 3], ∀ negative,
      (floatOf? negative (shortest mag).digits (shortest mag).exponent).isSome = true := by
    decide +kernel
  by_cases hroom : mag + 4 ≤ infinity
  · obtain ⟨hdigits, hword, -, hrat⟩ := Binary64.shortest_spec hpos h
    refine floatOf?_isSome negative hdigits hword (hrat.trans ?_)
    have hle := Binary64.value_le (by decide) hroom (by decide)
    rw [Nat.cast_ofNat, show (971 : Int) = 1 + 970 from rfl, zpow_one_add₀ two_ne_zero] at hle
    linarith
  · exact htop mag (by simp; omega) negative

end Literal

namespace Number

/-- The digits of a float, without its sign, are a numeral with a value. -/
theorem exists_numeral {bits : UInt64} (h : Binary64.magnitude bits < infinity) :
    ∃ w : Numeral, w.Sound ∧ (∀ negative, ∃ n, (w.literal negative).value? = some n) ∧
      floatChars bits = if Binary64.negative bits then '-' :: w.chars else w.chars := by
  rcases Nat.eq_zero_or_pos (Binary64.magnitude bits) with hzero | hpos
  · have hdigit : ∀ c ∈ ['0'], c.isDigit = true := List.forall_mem_singleton.mpr rfl
    refine ⟨⟨['0'], some ['0'], none⟩, ⟨⟨hdigit, .inl rfl⟩, ?_, by rintro e ⟨⟩⟩, ?_, ?_⟩
    · rintro ds ⟨⟩
      exact ⟨List.cons_ne_nil _ _, hdigit⟩
    · have hvalue : ∀ negative,
          (Numeral.literal negative ⟨['0'], some ['0'], none⟩).value?.isSome := by
        decide +kernel
      exact fun negative => Option.isSome_iff_exists.mp (hvalue negative)
    · simp [floatChars, hzero, Numeral.chars, Numeral.fractionChars, Numeral.exponentChars]
  · obtain ⟨hdigits, hword, hlow, hrat⟩ := Binary64.shortest_spec hpos h
    have hfloat := fun negative => Literal.shortest_floatOf? negative hpos h
    have hhigh := Binary64.Decimal.exponent_le hdigits (Binary64.shortest_le_limit hpos h)
    obtain ⟨w, hw⟩ := exists_writes hdigits hlow (hhigh.trans (by decide)) hword
    refine ⟨w, hw.sound, fun negative => ?_, ?_⟩
    · rw [← Option.isSome_iff_exists]
      rcases hw.value with ⟨hvalue, hplace⟩ | ⟨hpositive, hsmall, hplace⟩
      · rw [Numeral.value?_literal negative (by omega) hw.exponent hw.float, hvalue, hplace]
        exact hfloat negative
      · rw [Numeral.value?_literal negative (by omega) hw.exponent hw.float, hplace]
        refine Literal.floatOf?_isSome negative hpositive hsmall ?_
        have hword : (w.word : ℚ) ≤ 10 ^ 17 := by exact_mod_cast hsmall
        calc (w.word : ℚ) * 10 ^ (-1 : Int)
            ≤ 10 ^ 17 * 10 ^ (-1 : Int) := mul_le_mul_of_nonneg_right hword (by positivity)
          _ ≤ (2 ^ 54 - 7) * 1 := by norm_num
          _ ≤ (2 ^ 54 - 7) * 2 ^ (970 : Int) :=
            mul_le_mul_of_nonneg_left (one_le_zpow₀ one_le_two (by decide)) (by norm_num)
    · rw [floatChars, if_neg hpos.ne', hw.chars]

/-- The text of a finite float is read as a number. -/
theorem legible_float {bits : UInt64} (h : Binary64.magnitude bits < infinity) :
    (float bits).Legible := by
  obtain ⟨w, hsound, hvalue, hchars⟩ := exists_numeral h
  obtain ⟨n, hn⟩ := hvalue (Binary64.negative bits)
  obtain ⟨c, cs, hcons, hdigit⟩ : ∃ c cs, w.chars = c :: cs ∧ c.isDigit = true := by
    obtain ⟨c, cs, hwhole⟩ := List.exists_cons_of_ne_nil hsound.whole.ne_nil
    exact ⟨c, _, by rw [Numeral.chars, hwhole]; rfl, hsound.whole.1 c (hwhole ▸ List.mem_cons_self)⟩
  have htake : ∀ rest, Stops rest → take? ((float bits).chars ++ rest) = some (n, rest) := by
    intro rest hrest
    have hliteral : Literal.take? ((float bits).chars ++ rest) =
        some (w.literal (Binary64.negative bits), rest) := by
      rw [chars, hchars, ← Numeral.takeUnsigned?_append hsound _ hrest]
      cases Binary64.negative bits with
      | true => rfl
      | false =>
          rw [if_neg Bool.false_ne_true, hcons, Literal.take?.eq_def]
          split
          · next heq =>
              cases heq
              cases hdigit
          · rfl
    rw [take?, hliteral]
    simp [hn]
  have hsettled : (float bits).settled = n := by
    have hall := htake [] trivial
    rw [List.append_nil] at hall
    rw [settled, hall]
    rfl
  refine ⟨?_, fun rest hrest => hsettled.symm ▸ htake rest hrest⟩
  rw [chars, hchars, hcons]
  cases Binary64.negative bits with
  | true => exact ⟨'-', _, rfl, .inl rfl⟩
  | false => exact ⟨c, cs, rfl, .inr hdigit⟩

/-- Every number that was read can be written and read again. -/
theorem legible_of_take? {cs rest : List Char} {n : Number} (h : take? cs = some (n, rest)) :
    n.Legible := by
  cases n with
  | int n => exact legible_int (held_of_take? h)
  | float bits =>
      simp only [take?, Option.bind_eq_bind, Option.bind_eq_some_iff] at h
      obtain ⟨⟨l, rest'⟩, -, m, hm, heq⟩ := h
      cases heq
      exact legible_float (Literal.finite_of_value? hm)

end Number

theorem Found.legible {d : Nat} {j : Json} (h : Found d j) : j.Legible := by
  induction h with
  | null d => exact .null
  | bool d b => exact .bool b
  | num d h => exact .num (Number.legible_of_take? h)
  | str d s => exact .str s
  | arr _ ih => exact .arr ih
  | obj _ _ ih => exact .obj ih

end Tether.Json
