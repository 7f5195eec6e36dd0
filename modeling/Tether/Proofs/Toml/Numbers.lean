import Tether.Proofs.Json.Numbers
import Tether.Toml.Parser

/-!
# TOML integers written and read back

A number has no mark of its own that tells what it is going to be. Its digits may be the year of a
date, the hour of a time or the whole part of a float as well, and a reader looks for these first.
What rules them out is the end of the line: after so many digits each of them needs a character
that is neither a digit nor the end of a line (`mark?_of_field?`).

An integer of a file has a sign and sixty-four bits, and every natural number up to the greatest
of them is read back (`value?_natChars`).
-/

namespace Tether.Toml

namespace Scalar

variable {ds more : List Char}

/-! ## Digits -/

theorem ne_of_isDigit {c d : Char} (hc : c.isDigit = true) (hd : d.isDigit = false) : c ≠ d := by
  rintro rfl
  rw [hc] at hd
  cases hd

theorem moreDigits_line (h : ∀ c ∈ ds, c.isDigit = true) (more : List Char) :
    moreDigits Char.isDigit (ds ++ '\n' :: more) = (ds, '\n' :: more) := by
  induction ds with
  | nil => rfl
  | cons c ds ih =>
      obtain ⟨hc, hds⟩ := List.forall_mem_cons.mp h
      rw [List.cons_append, moreDigits, if_pos hc, ih hds]
      rintro d rest rfl
      cases hc

/-- The digits of a number are a zero, or they start with another digit. -/
theorem natChars_cases (n : Nat) :
    Json.Number.natChars n = ['0'] ∨
      ∃ c ds, Json.Number.natChars n = c :: ds ∧ c.isDigit = true ∧ c ≠ '0' ∧
        ∀ d ∈ ds, d.isDigit = true := by
  rcases Nat.eq_zero_or_pos n with rfl | hpos
  · exact .inl rfl
  · obtain ⟨c, ds, heq, hc⟩ := Json.Number.natChars_eq_cons n hpos
    have hdigits : ∀ d ∈ c :: ds, d.isDigit = true := fun d hd =>
      Json.Number.isDigit_of_mem_natChars (heq ▸ hd)
    refine .inr ⟨c, ds, heq, hdigits c List.mem_cons_self, ?_, fun d hd =>
      hdigits d (List.mem_cons_of_mem c hd)⟩
    rintro rfl
    exact hc rfl

theorem decimal?_natChars (n : Nat) (more : List Char) :
    decimal? (Json.Number.natChars n ++ '\n' :: more) =
      some (Json.Number.natChars n, '\n' :: more) := by
  rcases natChars_cases n with heq | ⟨c, ds, heq, hc, hzero, hds⟩
  · rw [heq]
    rfl
  · rw [heq, List.cons_append, decimal?]
    · rw [digits?, if_pos hc, moreDigits_line hds]
    · rintro rest ⟨⟩
      exact hzero rfl

theorem natOf_natChars (n : Nat) : natOf 10 (Json.Number.natChars n) = n := by
  have hdigits : (Json.Number.natChars n).map digitValue =
      (Json.Number.natChars n).map Json.digitValue :=
    List.map_congr_left fun c hc => if_pos (Json.Number.isDigit_of_mem_natChars hc)
  calc natOf 10 (Json.Number.natChars n)
      = ((Json.Number.natChars n).map digitValue).foldl (fun m d => m * 10 + d) 0 := by
        rw [natOf, List.foldl_map]
    _ = Json.Literal.natOf ((Json.Number.natChars n).map Json.digitValue) := by
        rw [hdigits, Json.Literal.natOf]
    _ = n := Json.Number.natOf_natChars n

theorem sign_natChars (n : Nat) (more : List Char) :
    sign (Json.Number.natChars n ++ '\n' :: more) =
      (false, Json.Number.natChars n ++ '\n' :: more) := by
  obtain ⟨c, ds, heq, hc⟩ := Json.Number.natChars_digit n
  rw [heq, List.cons_append, sign]
  · exact fun rest h => ne_of_isDigit hc (by decide) (List.cons.inj h).1
  · exact fun rest h => ne_of_isDigit hc (by decide) (List.cons.inj h).1

/-- A number is not taken for one of another base: after a zero at its start the line ends. -/
theorem natChars_ne (n : Nat) (more : List Char) {d : Char} (hd : d ≠ '\n') (rest : List Char) :
    Json.Number.natChars n ++ '\n' :: more ≠ '0' :: d :: rest := by
  intro h
  rcases natChars_cases n with heq | ⟨c, ds, heq, -, hzero, -⟩
  · rw [heq] at h
    exact hd (List.cons.inj (List.cons.inj h).2).1.symm
  · rw [heq] at h
    exact hzero (List.cons.inj h).1

theorem integer?_natChars {n : Nat} (h : n < 9223372036854775808) (more : List Char) :
    integer? (Json.Number.natChars n ++ '\n' :: more) = some ((n : Int), '\n' :: more) := by
  have hword : word? false n = some (n : Int) := if_pos h
  rw [integer?]
  · simp only [sign_natChars, decimal?_natChars, natOf_natChars, hword, Option.bind_eq_bind,
      Option.bind_some]
  · exact natChars_ne n more (by decide)
  · exact natChars_ne n more (by decide)
  · exact natChars_ne n more (by decide)

/-! ## Neither dates nor floats -/

/-- A field of a date or a time is taken off the digits, and what comes next is a digit or the
end of the line. -/
theorem mark?_of_field? {width low high n : Nat} {c : Char} {rest : List Char}
    (hds : ∀ d ∈ ds, d.isDigit = true) (hc : c.isDigit = false) (hline : c ≠ '\n')
    (h : field? width low high (ds ++ '\n' :: more) = some (n, rest)) : mark? c rest = none := by
  rw [field?] at h
  split at h
  · next htaken =>
      obtain ⟨-, hdigits, -⟩ := htaken
      have hwidth : width ≤ ds.length := Decidable.byContradiction fun hlong => by
        have hmem : '\n' ∈ (ds ++ '\n' :: more).take width := by
          rw [List.take_append, show width - ds.length = width - ds.length - 1 + 1 by omega,
            List.take_succ_cons]
          exact List.mem_append_right _ List.mem_cons_self
        have hdigit := List.all_eq_true.mp hdigits _ hmem
        revert hdigit
        decide
      cases h
      rw [List.drop_append_of_le_length hwidth]
      cases hlast : ds.drop width with
      | nil => exact if_neg hline.symm
      | cons d last =>
          have hmem : d ∈ ds := List.mem_of_mem_drop (hlast ▸ List.mem_cons_self)
          exact if_neg (ne_of_isDigit (hds d hmem) hc)
  · cases h

theorem date?_line (hds : ∀ d ∈ ds, d.isDigit = true) (more : List Char) :
    date? (ds ++ '\n' :: more) = none := by
  rw [date?]
  cases hfield : field? 4 0 9999 (ds ++ '\n' :: more) with
  | none => rfl
  | some taken =>
      have hmark : mark? '-' taken.2 = none := mark?_of_field? hds (by decide) (by decide) hfield
      simp only [Option.bind_eq_bind, Option.bind_some, hmark, Option.bind_none]

theorem time?_line (hds : ∀ d ∈ ds, d.isDigit = true) (more : List Char) :
    time? (ds ++ '\n' :: more) = none := by
  rw [time?]
  cases hfield : field? 2 0 23 (ds ++ '\n' :: more) with
  | none => rfl
  | some taken =>
      have hmark : mark? ':' taken.2 = none := mark?_of_field? hds (by decide) (by decide) hfield
      simp only [Option.bind_eq_bind, Option.bind_some, hmark, Option.bind_none]

theorem float?_natChars (n : Nat) (more : List Char) :
    float? (Json.Number.natChars n ++ '\n' :: more) = none := by
  have hspecial : special? (Json.Number.natChars n ++ '\n' :: more) = none := by
    obtain ⟨c, ds, heq, hc⟩ := Json.Number.natChars_digit n
    rw [heq, List.cons_append, special?]
    · exact fun rest h => ne_of_isDigit hc (by decide) (List.cons.inj h).1
    · exact fun rest h => ne_of_isDigit hc (by decide) (List.cons.inj h).1
  rw [float?, sign_natChars]
  simp [hspecial, digitFloat?, decimal?_natChars]

end Scalar

/-- The digits of a number on the rest of a line are read as the number, if it is no greater than
an integer of sixty-four bits with a sign. -/
theorem value?_natChars {n : Nat} (h : n < 9223372036854775808) (depth : Nat)
    (more : List Char) :
    value? depth (Json.Number.natChars n ++ '\n' :: more) = some (integer n, '\n' :: more) := by
  obtain ⟨c, ds, heq, hc⟩ := Json.Number.natChars_digit n
  have hdigits : ∀ d ∈ c :: ds, d.isDigit = true := fun d hd =>
    Json.Number.isDigit_of_mem_natChars (heq ▸ hd)
  have hnone : Scalar.datetime? (c :: ds ++ '\n' :: more) = none := by
    rw [Scalar.datetime?, Scalar.date?_line hdigits, Scalar.time?_line hdigits]
  have hfloat := Scalar.float?_natChars n more
  have hinteger := Scalar.integer?_natChars h more
  rw [heq] at hfloat hinteger ⊢
  rw [value?, scalar?]
  · simp only [hnone, hfloat, hinteger, Option.map_some]
  all_goals
    intro rest heq
    exact Scalar.ne_of_isDigit hc (by decide) (List.cons.inj heq).1

end Tether.Toml
