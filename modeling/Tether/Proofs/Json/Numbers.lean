import Tether.Proofs.Json.Reading

/-!
# Integers written and read back

The digits of a number are taken off a text as far as they go, and they go no further than
the number, because what follows is no digit (`takeDigits_append`). They are gathered into
a word, which they fit as long as the number itself does (`gatherWhole_eq`).

`Held` are the integers that a word of sixty-four bits can hold, signed or not. Each of them
is read from the digits it is written with (`take?_intChars`), and no others are ever read
(`held_of_take?`).

A number of any kind is `Legible` if its text is read as a number, and as far as it goes. For an
integer that is the integer itself; for a float it may be another float (`settled`).
-/

namespace Tether.Json

namespace Number

/-- An integer that a word of sixty-four bits can hold, signed or not. -/
def Held (n : Int) : Prop :=
  -9223372036854775808 ≤ n ∧ n < 18446744073709551616

instance (n : Int) : Decidable (Held n) :=
  inferInstanceAs (Decidable (_ ∧ _))

/-! ## Digits -/

theorem isDigit_of_mem_natChars {n : Nat} {c : Char} (h : c ∈ natChars n) : c.isDigit = true :=
  Nat.isDigit_of_mem_toDigits (by decide) (by decide) h

/-- A number starts with a digit. -/
theorem natChars_digit (n : Nat) : ∃ c cs, natChars n = c :: cs ∧ c.isDigit = true := by
  cases heq : natChars n with
  | nil => exact absurd heq Nat.toDigits_ne_nil
  | cons c cs =>
      have hmem : c ∈ natChars n := heq ▸ List.mem_cons_self
      exact ⟨c, cs, rfl, isDigit_of_mem_natChars hmem⟩

theorem natOf_natChars (n : Nat) : Literal.natOf ((natChars n).map digitValue) = n := by
  calc Literal.natOf ((natChars n).map digitValue)
      = (natChars n).foldl (fun m c => m * 10 + digitValue c) 0 := by
        rw [Literal.natOf, List.foldl_map]
    _ = Nat.ofDigitChars 10 (natChars n) 0 := by
        simp only [Nat.ofDigitChars, digitValue, Nat.mul_comm 10]
        rfl
    _ = n := Nat.ofDigitChars_ten_toDigits

theorem digitValue_digitChar : ∀ n < 10, digitValue (Nat.digitChar n) = n := by
  decide

/-- Only zero starts with a zero. -/
theorem natChars_eq_cons (n : Nat) (h : 0 < n) :
    ∃ c cs, natChars n = c :: cs ∧ digitValue c ≠ 0 := by
  induction n using Nat.strongRecOn with
  | ind n ih =>
      rw [natChars, Nat.toDigits_eq_if (by decide)]
      split
      · next hlt =>
          refine ⟨_, [], rfl, ?_⟩
          rw [digitValue_digitChar n hlt]
          omega
      · next hge =>
          obtain ⟨c, cs, heq, hc⟩ := ih (n / 10) (by omega) (by omega)
          rw [natChars] at heq
          exact ⟨c, cs ++ [Nat.digitChar (n % 10)], by rw [heq, List.cons_append], hc⟩

end Number

/-- The text does not go on with a digit. -/
def Digitless : List Char → Prop
  | [] => True
  | c :: _ => c.isDigit = false

theorem Stops.digitless {rest : List Char} (h : Stops rest) : Digitless rest := by
  cases rest with
  | nil => trivial
  | cons c rest => exact h.1

theorem takeDigits_append {cs rest : List Char} (h : ∀ c ∈ cs, c.isDigit = true)
    (hrest : Digitless rest) : takeDigits (cs ++ rest) = (cs.map digitValue, rest) := by
  have hends : rest.takeWhile Char.isDigit = [] ∧ rest.dropWhile Char.isDigit = rest := by
    cases rest with
    | nil => exact ⟨rfl, rfl⟩
    | cons c rest => exact ⟨List.takeWhile_cons_of_neg (by simp [show c.isDigit = false from hrest]),
        List.dropWhile_cons_of_neg (by simp [show c.isDigit = false from hrest])⟩
  rw [takeDigits, List.takeWhile_append_of_pos h, List.dropWhile_append_of_pos h,
    hends.1, hends.2, List.append_nil]

theorem someDigits?_append {cs rest : List Char} (h : ∀ c ∈ cs, c.isDigit = true) (hne : cs ≠ [])
    (hrest : Digitless rest) : someDigits? (cs ++ rest) = some (cs.map digitValue, rest) := by
  rw [someDigits?, takeDigits_append h hrest]
  cases cs with
  | nil => exact absurd rfl hne
  | cons c cs => rfl

namespace Literal

/-- Digits that a whole part consists of: a zero on its own, or any that do not start with one. -/
structure IsWhole (cs : List Char) : Prop where
  digits : ∀ c ∈ cs, c.isDigit = true
  first : cs = ['0'] ∨ ∃ c rest, cs = c :: rest ∧ digitValue c ≠ 0

theorem IsWhole.ne_nil {cs : List Char} (h : IsWhole cs) : cs ≠ [] := by
  rcases h.first with rfl | ⟨c, rest, rfl, -⟩ <;> exact List.cons_ne_nil _ _

theorem isWhole_natChars (n : Nat) : IsWhole (Number.natChars n) := by
  refine ⟨fun c => Number.isDigit_of_mem_natChars, ?_⟩
  rcases Nat.eq_zero_or_pos n with rfl | hpos
  · exact .inl rfl
  · exact .inr (Number.natChars_eq_cons n hpos)

theorem takeWhole?_append {cs rest : List Char} (h : IsWhole cs) (hrest : Digitless rest) :
    takeWhole? (cs ++ rest) = some (cs.map digitValue, rest) := by
  rw [takeWhole?, takeDigits_append h.digits hrest]
  rcases h.first with rfl | ⟨c, cs, rfl, hc⟩
  · rfl
  · rw [List.map_cons]
    split
    · next heq => cases heq
    · next heq =>
        simp only [Prod.mk.injEq, List.cons.injEq] at heq
        exact absurd heq.1.1 hc
    · next heq =>
        cases heq
        rfl

/-- Nothing of a number is left once its digits are read. -/
theorem takeFraction?_stops {rest : List Char} (h : Stops rest) :
    takeFraction? rest = some (none, rest) := by
  cases rest with
  | nil => rfl
  | cons c rest =>
      have hpoint : c ≠ '.' := h.2.1
      simp [takeFraction?, hpoint]

theorem takeExponent?_stops {rest : List Char} (h : Stops rest) :
    takeExponent? rest = some (none, rest) := by
  cases rest with
  | nil => rfl
  | cons c rest =>
      have hmarks : c ≠ 'e' ∧ c ≠ 'E' := h.2.2
      simp [takeExponent?, hmarks]

theorem take?_intChars (n : Int) {rest : List Char} (h : Stops rest) :
    take? (Number.intChars n ++ rest) =
      some (⟨decide (n < 0), (Number.natChars n.natAbs).map digitValue, none, none⟩, rest) := by
  have hunsigned : ∀ negative, takeUnsigned? negative (Number.natChars n.natAbs ++ rest) =
      some (⟨negative, (Number.natChars n.natAbs).map digitValue, none, none⟩, rest) := by
    intro negative
    rw [takeUnsigned?, takeWhole?_append (isWhole_natChars _) h.digitless]
    simp [takeFraction?_stops h, takeExponent?_stops h]
  rw [Number.intChars]
  split
  · next hneg =>
      rw [List.cons_append, take?, hunsigned, decide_eq_true hneg]
  · next hpos =>
      rw [take?]
      · rw [hunsigned, decide_eq_false hpos]
      · intro rest' heq
        obtain ⟨c, cs, hcs, hc⟩ := Number.natChars_digit n.natAbs
        rw [hcs] at heq
        cases heq
        exact absurd hc (by decide)

theorem le_foldl_digits (ds : List Nat) (word : Nat) :
    word ≤ ds.foldl (fun n d => n * 10 + d) word := by
  induction ds generalizing word with
  | nil => exact Nat.le_refl word
  | cons d ds ih =>
      have hnext := ih (word * 10 + d)
      rw [List.foldl_cons]
      omega

/-- Digits are gathered to the last if the number they stand for fits. -/
theorem gatherWhole_eq (word : Nat) (ds : List Nat)
    (h : ds.foldl (fun n d => n * 10 + d) word < 18446744073709551616) :
    gatherWhole word ds = (ds.foldl (fun n d => n * 10 + d) word, 0) := by
  induction ds generalizing word with
  | nil => rfl
  | cons d ds ih =>
      have hfits : fits word d = true := by
        have hle := le_foldl_digits ds (word * 10 + d)
        rw [List.foldl_cons] at h
        rw [fits, decide_eq_true_eq]
        omega
      rw [gatherWhole, if_pos hfits, List.foldl_cons]
      exact ih _ h

/-- What is gathered fits a word. -/
theorem gatherWhole_lt {word : Nat} (ds : List Nat) (h : word < 18446744073709551616) :
    (gatherWhole word ds).1 < 18446744073709551616 := by
  induction ds generalizing word with
  | nil => exact h
  | cons d ds ih =>
      rw [gatherWhole]
      split
      · next hfits =>
          rw [fits, decide_eq_true_eq] at hfits
          exact ih hfits
      · exact h

theorem gatherFraction_lt {word : Nat} (ds : List Nat) (h : word < 18446744073709551616) :
    (gatherFraction word ds).1 < 18446744073709551616 := by
  induction ds generalizing word with
  | nil => exact h
  | cons d ds ih =>
      rw [gatherFraction]
      split
      · next hfits =>
          rw [fits, decide_eq_true_eq] at hfits
          exact ih hfits
      · exact h

/-- The digits of a fraction are gathered to the last if all of them fit. -/
theorem gatherFraction_eq (word : Nat) (ds : List Nat)
    (h : ds.foldl (fun n d => n * 10 + d) word < 18446744073709551616) :
    gatherFraction word ds = (ds.foldl (fun n d => n * 10 + d) word, ds.length) := by
  induction ds generalizing word with
  | nil => rfl
  | cons d ds ih =>
      have hfits : fits word d = true := by
        have hle := le_foldl_digits ds (word * 10 + d)
        rw [List.foldl_cons] at h
        rw [fits, decide_eq_true_eq]
        omega
      rw [gatherFraction, if_pos hfits, List.foldl_cons, ih _ h, List.length_cons]

/-- An integer that a word can hold is the value of its digits. -/
theorem value?_digits {n : Int} (h : Number.Held n) :
    value? ⟨decide (n < 0), (Number.natChars n.natAbs).map digitValue, none, none⟩ =
      some (.int n) := by
  obtain ⟨hlow, hhigh⟩ := h
  have hgathered : gatherWhole 0 ((Number.natChars n.natAbs).map digitValue) =
      (n.natAbs, 0) := by
    have hnat := Number.natOf_natChars n.natAbs
    rw [natOf] at hnat
    have hword := gatherWhole_eq 0 ((Number.natChars n.natAbs).map digitValue) (by omega)
    rwa [hnat] at hword
  have hfraction : gatherFraction n.natAbs [] = (n.natAbs, 0) := rfl
  have hinteger : integerOf? (decide (n < 0)) n.natAbs = some (.int n) := by
    rw [integerOf?]
    by_cases hneg : n < 0
    · have hnonzero : ¬ (n.natAbs = 0 ∨ 9223372036854775808 < n.natAbs) := by omega
      have hvalue : -(n.natAbs : Int) = n := by omega
      rw [if_pos (decide_eq_true hneg), if_neg hnonzero, hvalue]
    · have hvalue : (n.natAbs : Int) = n := by omega
      rw [if_neg (by simp [hneg]), hvalue]
  simp only [value?, hgathered, Option.getD_none, hfraction, Option.isNone_none, and_self,
    if_true, hinteger]

theorem floatOf?_ne_int {negative : Bool} {word : Nat} {e n : Int} :
    floatOf? negative word e ≠ some (.int n) := by
  intro h
  simp only [floatOf?, Option.bind_eq_bind, Option.bind_eq_some_iff] at h
  obtain ⟨mag, -, mag', -, heq⟩ := h
  cases heq

theorem held_of_integerOf? {negative : Bool} {word : Nat} {n : Int}
    (hword : word < 18446744073709551616) (h : integerOf? negative word = some (.int n)) :
    Number.Held n := by
  rw [integerOf?] at h
  split at h
  · split at h
    · exact absurd h floatOf?_ne_int
    · cases h
      constructor <;> omega
  · cases h
    constructor <;> omega

/-- A literal stands for an integer that a word can hold, or for a float. -/
theorem held_of_value? {l : Literal} {n : Int} (h : l.value? = some (.int n)) :
    Number.Held n := by
  have hword := gatherFraction_lt (l.fraction.getD [])
    (gatherWhole_lt l.whole (show 0 < 18446744073709551616 by decide))
  simp only [value?] at h
  split at h
  · split at h
    · exact absurd h floatOf?_ne_int
    · split at h <;> cases h
  · split at h
    · exact held_of_integerOf? hword h
    · exact absurd h floatOf?_ne_int

end Literal

namespace Number

/-- An integer is read from the digits it is written with. -/
theorem take?_intChars {n : Int} (h : Held n) {rest : List Char} (hrest : Stops rest) :
    take? (intChars n ++ rest) = some (.int n, rest) := by
  rw [take?, Literal.take?_intChars n hrest]
  simp [Literal.value?_digits h]

theorem held_of_take? {cs rest : List Char} {n : Int} (h : take? cs = some (.int n, rest)) :
    Held n := by
  simp only [take?, Option.bind_eq_bind, Option.bind_eq_some_iff] at h
  obtain ⟨⟨l, rest'⟩, -, m, hm, heq⟩ := h
  cases heq
  exact Literal.held_of_value? hm

/-- An integer is written in digits, after a sign if it is negative. -/
theorem mem_intChars {n : Int} {c : Char} (h : c ∈ intChars n) :
    c = '-' ∨ c.isDigit = true := by
  rw [intChars] at h
  split at h
  · exact (List.mem_cons.mp h).imp_right isDigit_of_mem_natChars
  · exact .inr (isDigit_of_mem_natChars h)

theorem intChars_cons (n : Int) :
    ∃ c cs, intChars n = c :: cs ∧ (c = '-' ∨ c.isDigit = true) := by
  obtain ⟨c, cs, hcs, hc⟩ := natChars_digit n.natAbs
  rw [intChars]
  split
  · exact ⟨'-', _, rfl, .inl rfl⟩
  · exact ⟨c, cs, hcs, .inr hc⟩

/-- What starts an integer is no blank. -/
theorem isBlank_of_starts {c : Char} (h : c = '-' ∨ c.isDigit = true) : isBlank c = false := by
  rcases h with rfl | hdigit
  · rfl
  · exact isBlank_of_isDigit hdigit

theorem ne_of_starts {c d : Char} (h : c = '-' ∨ c.isDigit = true) (hsign : d ≠ '-')
    (hdigit : d.isDigit = false) : c ≠ d := by
  rintro rfl
  rcases h with hc | hc
  · exact hsign hc
  · exact absurd hc (by simp [hdigit])

theorem space_le_of_mem_intChars {n : Int} {c : Char} (h : c ∈ intChars n) : 32 ≤ c.toNat := by
  rcases mem_intChars h with rfl | hdigit
  · decide
  · simp [Char.isDigit, UInt32.le_iff_toNat_le] at hdigit
    omega

/-- The number that the text of a number is read as. -/
def settled (n : Number) : Number :=
  ((take? n.chars).map Prod.fst).getD n

/-- The text of a number is read as a number, and as far as it goes. -/
structure Legible (n : Number) : Prop where
  starts : ∃ c cs, n.chars = c :: cs ∧ (c = '-' ∨ c.isDigit = true)
  taken : ∀ rest, Stops rest → take? (n.chars ++ rest) = some (n.settled, rest)

theorem settled_int {n : Int} (h : Held n) : (int n).settled = int n := by
  have htake : take? (intChars n ++ []) = some (int n, []) := take?_intChars h trivial
  rw [List.append_nil] at htake
  rw [settled, chars, htake]
  rfl

theorem legible_int {n : Int} (h : Held n) : (int n).Legible where
  starts := intChars_cons n
  taken rest hrest := by
    rw [settled_int h]
    exact take?_intChars h hrest

end Number

end Tether.Json
