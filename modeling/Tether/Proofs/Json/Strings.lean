import Mathlib.Tactic.SplitIfs
import Tether.Proofs.Json.Reading

/-!
# Strings written and read back

A string is written character by character, and it is read back the same way: whatever
stands behind the escape of a character, a reader meets the character first and is then
where it would have been without it (`stringChars?_escape`). The one place where that is
not plain to see is a `\u` escape, since a reader looks past it for the other half of a
surrogate pair. No escape is the first half of one.

No character below the space is ever written, and so no string is written over two lines.
-/

namespace Tether.Json

/-! ## Hexadecimal digits -/

theorem hexValue?_hexDigit : ∀ n < 16, hexValue? (hexDigit n) = some n := by
  decide

theorem hex4?_hexDigit {n : Nat} (h : n < 32) :
    hex4? '0' '0' (hexDigit (n / 16)) (hexDigit (n % 16)) = some n := by
  have hhigh : hexValue? (hexDigit (n / 16)) = some (n / 16) :=
    hexValue?_hexDigit _ (by omega)
  have hlow : hexValue? (hexDigit (n % 16)) = some (n % 16) :=
    hexValue?_hexDigit _ (by omega)
  have hzero : hexValue? '0' = some 0 := rfl
  have hsum : (0 * 16 + 0) * 16 + n / 16 = n / 16 := by omega
  simp only [hex4?, hzero, hhigh, hlow, Option.bind_eq_bind, Option.bind_some]
  rw [hsum, Nat.div_add_mod']

/-! ## Characters -/

theorem stringChars?_plain {c : Char} (hquote : c ≠ '\"') (hslash : c ≠ '\\')
    (hspace : 32 ≤ c.toNat) (cs : List Char) :
    stringChars? (c :: cs) = (stringChars? cs).map fun (s, rest) => (c :: s, rest) := by
  have hallowed : ¬ (c.toNat < 32 ∨ c = '\\') := by
    rintro (hlow | heq)
    · omega
    · exact hslash heq
  rw [stringChars?, if_neg hallowed]
  · cases stringChars? cs <;> rfl
  · exact hquote
  all_goals
    intros
    contradiction

theorem stringChars?_short {c k : Char} (hu : k ≠ 'u') (h : unescape? k = some c)
    (cs : List Char) :
    stringChars? ('\\' :: k :: cs) = (stringChars? cs).map fun (s, rest) => (c :: s, rest) := by
  rw [stringChars?, h]
  · cases stringChars? cs <;> rfl
  all_goals
    intros
    contradiction

theorem stringChars?_unit {a b c d : Char} {m : Nat} (h : hex4? a b c d = some m)
    (hhigh : isHigh m = false) (hlow : isLow m = false) (cs : List Char) :
    stringChars? ('\\' :: 'u' :: a :: b :: c :: d :: cs) =
      (stringChars? cs).map fun (s, rest) => (Char.ofNat m :: s, rest) := by
  -- Whether another such escape comes next makes no difference, but it is another branch.
  by_cases hnext : ∃ e f g h rest, cs = '\\' :: 'u' :: e :: f :: g :: h :: rest
  · obtain ⟨e, f, g, i, rest, rfl⟩ := hnext
    rw [stringChars?, h]
    simp only [hhigh, hlow, Option.bind_eq_bind, Option.bind_some]
    cases stringChars? ('\\' :: 'u' :: e :: f :: g :: i :: rest) <;> rfl
  · rw [stringChars?, h]
    · simp only [hhigh, hlow, Option.bind_eq_bind, Option.bind_some]
      cases stringChars? cs <;> rfl
    · intro e f g i rest heq
      exact hnext ⟨e, f, g, i, rest, heq⟩

/-- A character is written as a backslash and a letter, as a unit, or as itself. -/
theorem escape_cases (c : Char) :
    (∃ k, k ≠ 'u' ∧ unescape? k = some c ∧ 32 ≤ k.toNat ∧ escape c = ['\\', k]) ∨
      (c.toNat < 32 ∧ escape c =
        ['\\', 'u', '0', '0', hexDigit (c.toNat / 16), hexDigit (c.toNat % 16)]) ∨
      (c ≠ '\"' ∧ c ≠ '\\' ∧ 32 ≤ c.toNat ∧ escape c = [c]) := by
  unfold escape
  split_ifs with hquote hslash hline hreturn htab hback hfeed hlow
  · subst hquote; exact .inl ⟨'\"', by decide, rfl, by decide, rfl⟩
  · subst hslash; exact .inl ⟨'\\', by decide, rfl, by decide, rfl⟩
  · subst hline; exact .inl ⟨'n', by decide, rfl, by decide, rfl⟩
  · subst hreturn; exact .inl ⟨'r', by decide, rfl, by decide, rfl⟩
  · subst htab; exact .inl ⟨'t', by decide, rfl, by decide, rfl⟩
  · have hc : Char.ofNat 8 = c := hback ▸ Char.ofNat_toNat c
    exact .inl ⟨'b', by decide, congrArg some hc, by decide, rfl⟩
  · have hc : Char.ofNat 12 = c := hfeed ▸ Char.ofNat_toNat c
    exact .inl ⟨'f', by decide, congrArg some hc, by decide, rfl⟩
  · exact .inr (.inl ⟨hlow, rfl⟩)
  · exact .inr (.inr ⟨hquote, hslash, Nat.not_lt.mp hlow, rfl⟩)

/-- The escape of a character is read as that character, whatever follows. -/
theorem stringChars?_escape (c : Char) (cs : List Char) :
    stringChars? (escape c ++ cs) = (stringChars? cs).map fun (s, rest) => (c :: s, rest) := by
  rcases escape_cases c with ⟨k, hu, hk, -, heq⟩ | ⟨hlow, heq⟩ | ⟨hquote, hslash, hspace, heq⟩
  · rw [heq]
    exact stringChars?_short hu hk cs
  · have hunit := stringChars?_unit (hex4?_hexDigit hlow) (m := c.toNat) ?_ ?_ cs
    · rw [heq]
      rwa [Char.ofNat_toNat] at hunit
    · simp [isHigh]; omega
    · simp [isLow]; omega
  · rw [heq]
    exact stringChars?_plain hquote hslash hspace cs

/-- No character below the space is written. -/
theorem space_le_of_mem_escape {c d : Char} (h : d ∈ escape c) : 32 ≤ d.toNat := by
  have hhex : ∀ n < 16, 32 ≤ (hexDigit n).toNat := by decide
  rcases escape_cases c with ⟨k, -, -, hk, heq⟩ | ⟨hlow, heq⟩ | ⟨-, -, hspace, heq⟩
  · rw [heq] at h
    simp only [List.mem_cons, List.not_mem_nil, or_false] at h
    rcases h with rfl | rfl
    · decide
    · exact hk
  · rw [heq] at h
    have hhigh := hhex (c.toNat / 16) (by omega)
    have hunits := hhex (c.toNat % 16) (by omega)
    simp only [List.mem_cons, List.not_mem_nil, or_false] at h
    rcases h with rfl | rfl | rfl | rfl | rfl | rfl
    any_goals decide
    · exact hhigh
    · exact hunits
  · rw [heq] at h
    exact List.mem_singleton.mp h ▸ hspace

/-! ## Strings -/

/-- The characters of a string are read up to the quote after them. -/
theorem stringChars?_escaped (cs rest : List Char) :
    stringChars? (cs.flatMap escape ++ '\"' :: rest) = some (cs, rest) := by
  induction cs with
  | nil => rw [List.flatMap_nil, List.nil_append, stringChars?]
  | cons c cs ih =>
      rw [List.flatMap_cons, List.append_assoc, stringChars?_escape, ih]
      rfl

theorem string?_escaped (s : String) (rest : List Char) :
    string? (s.toList.flatMap escape ++ '\"' :: rest) = some (s, rest) := by
  rw [string?, stringChars?_escaped]
  simp

theorem space_le_of_mem_quote {s : String} {d : Char} (h : d ∈ quote s) : 32 ≤ d.toNat := by
  simp only [quote, List.cons_append, List.mem_cons, List.mem_append, List.mem_flatMap,
    List.not_mem_nil, or_false] at h
  rcases h with rfl | ⟨c, -, hd⟩ | rfl
  · decide
  · exact space_le_of_mem_escape hd
  · decide

theorem opens_quote (s : String) : Opens (quote s) :=
  ⟨rfl, by decide, by decide⟩

end Tether.Json
