import Tether.Toml.Text

/-!
# TOML strings written and read back

A string is written in one of four forms, and it is read back from each (`take?_write`). The form
is settled by what is in the string: apostrophes around it leave no way to write an apostrophe,
and quotes around it none to write a quote unless it is escaped.

What takes thought is a form over several lines. There a quote may stand for itself, but a run of
three ends the string, and a run of four or five ends it too and belongs to it in part. So a
reader does not go by single quotes, and what it makes of one depends on what follows. It is
enough that no run in the string is longer than two: a run in the middle is passed over whole,
and the run at the end is told from the closing quotes by its length.

Readers are given fuel for the length of the text, and more makes no difference (`Takes`).
-/

namespace Tether.Toml.Text

/-- With fuel for the length of a text, a reader takes characters off it and leaves the rest. -/
def Takes (reader : Nat → List Char → Option (List Char × List Char))
    (text cs rest : List Char) : Prop :=
  ∀ fuel, text.length < fuel → reader fuel text = some (cs, rest)

variable {q c : Char} {multi escapes : Bool} {room seen : Nat} {e text cs rest : List Char}

/-! ## Escapes -/

/-- After a backslash a text stands for a character. It does not begin like a line that is
continued. -/
structure Escapes (e : List Char) (c : Char) : Prop where
  read : ∀ rest, escape? (e ++ rest) = some (c, rest)
  stays : ∀ rest, lineEnd? (skipSpace (e ++ rest)) = none

theorem lineEnd?_cons (hline : c ≠ '\n') (hreturn : c ≠ '\r') (text : List Char) :
    lineEnd? (c :: text) = none := by
  rw [lineEnd?]
  · rintro rest ⟨⟩
    exact hline rfl
  · rintro rest ⟨⟩
    exact hreturn rfl

theorem ne_of_isPlain (h : isPlain c = true) : c ≠ '\n' ∧ c ≠ '\r' := by
  constructor <;> rintro rfl <;> revert h <;> decide

theorem hexValue?_hexDigit : ∀ n < 16, hexValue? (hexDigit n) = some n := by
  decide

theorem codePoint?_hexDigits {n : Nat} (h : n < 128) :
    codePoint? ['0', '0', hexDigit (n / 16), hexDigit (n % 16)] = some (Char.ofNat n) := by
  have hhigh : hexValue? (hexDigit (n / 16)) = some (n / 16) := hexValue?_hexDigit _ (by omega)
  have hlow : hexValue? (hexDigit (n % 16)) = some (n % 16) := hexValue?_hexDigit _ (by omega)
  have hzero : hexValue? '0' = some 0 := rfl
  have hvalid : n.isValidChar := .inl (by omega)
  simp [codePoint?, hzero, hhigh, hlow, Nat.div_add_mod', hvalid]

theorem escapes_letter {k : Char} (hread : letter? k = some c) (hunit : k ≠ 'u' ∧ k ≠ 'U')
    (hstays : k ≠ ' ' ∧ k ≠ '\t' ∧ k ≠ '\n' ∧ k ≠ '\r') : Escapes [k] c where
  read rest := by
    rw [List.singleton_append, escape?, hread]
    · rfl
    · exact hunit.1
    · exact hunit.2
  stays rest := by
    rw [List.singleton_append, skipSpace, List.dropWhile_cons_of_neg (by simp [hstays])]
    exact lineEnd?_cons hstays.2.2.1 hstays.2.2.2 rest

theorem escapes_unit (h : c.toNat < 128) :
    Escapes ['u', '0', '0', hexDigit (c.toNat / 16), hexDigit (c.toNat % 16)] c where
  read rest := by
    have hlength : ¬ ('0' :: '0' :: hexDigit (c.toNat / 16) :: hexDigit (c.toNat % 16) ::
        rest).length < 4 := by simp
    show escape? ('u' :: '0' :: '0' :: hexDigit (c.toNat / 16) :: hexDigit (c.toNat % 16) ::
      rest) = some (c, rest)
    rw [escape?, if_neg hlength]
    show (codePoint? ['0', '0', hexDigit (c.toNat / 16), hexDigit (c.toNat % 16)]).map _ = _
    rw [codePoint?_hexDigits h, Char.ofNat_toNat]
    rfl
  stays rest := rfl

theorem escapes_quote : Escapes ['\"'] '\"' :=
  escapes_letter rfl (by decide) (by decide)

/-- Any character but a quote is escaped, or it stands for itself: over several lines the end of
a line, and whatever is plain. -/
theorem escape_cases (multi : Bool) (c : Char) :
    (∃ e, Escapes e c ∧ escape multi c = '\\' :: e) ∨
      (c = '\n' ∧ multi = true ∧ escape multi c = [c]) ∨
      (isPlain c = true ∧ c ≠ '\\' ∧ escape multi c = [c]) := by
  unfold escape
  split
  · next hback =>
      obtain rfl : c = Char.ofNat 8 := hback ▸ (Char.ofNat_toNat c).symm
      exact .inl ⟨['b'], escapes_letter rfl (by decide) (by decide), rfl⟩
  split
  · next htab =>
      subst htab
      exact .inl ⟨['t'], escapes_letter rfl (by decide) (by decide), rfl⟩
  split
  · next hline =>
      subst hline
      cases multi with
      | true => exact .inr (.inl ⟨rfl, rfl, rfl⟩)
      | false => exact .inl ⟨['n'], escapes_letter rfl (by decide) (by decide), rfl⟩
  split
  · next hfeed =>
      obtain rfl : c = Char.ofNat 12 := hfeed ▸ (Char.ofNat_toNat c).symm
      exact .inl ⟨['f'], escapes_letter rfl (by decide) (by decide), rfl⟩
  split
  · next hreturn =>
      subst hreturn
      exact .inl ⟨['r'], escapes_letter rfl (by decide) (by decide), rfl⟩
  split
  · next hslash =>
      subst hslash
      exact .inl ⟨['\\'], escapes_letter rfl (by decide) (by decide), rfl⟩
  split
  · exact .inl ⟨_, escapes_unit (by omega), rfl⟩
  · next hslash hcontrol =>
      refine .inr (.inr ⟨?_, hslash, rfl⟩)
      simp [isPlain]
      omega

/-! ## On one line -/

theorem takes_basic_end (rest : List Char) : Takes basic? ('\"' :: rest) [] rest := by
  rintro (_ | fuel) h
  · cases h
  · rfl

theorem Takes.basic_plain (hplain : isPlain c = true) (hquote : c ≠ '\"') (hslash : c ≠ '\\')
    (h : Takes basic? text cs rest) : Takes basic? (c :: text) (c :: cs) rest := by
  rintro (_ | fuel) hfuel
  · cases hfuel
  · rw [basic?]
    · rw [if_pos hplain, h fuel (Nat.lt_of_succ_lt_succ hfuel)]
      rfl
    · exact hquote
    · exact hslash

theorem Takes.basic_escape (he : Escapes e c) (h : Takes basic? text cs rest) :
    Takes basic? ('\\' :: (e ++ text)) (c :: cs) rest := by
  rintro (_ | fuel) hfuel
  · cases hfuel
  · have hmore : text.length < fuel := by
      rw [List.length_cons, List.length_append] at hfuel
      omega
    rw [basic?, he.read]
    simp only [Option.bind_eq_bind, Option.bind_some, h fuel hmore]

theorem takes_basic (cs rest : List Char) (seen : Nat) :
    Takes basic? (escapeAll false 0 seen cs ++ '\"' :: rest) cs rest := by
  induction cs generalizing seen with
  | nil => exact takes_basic_end rest
  | cons c cs ih =>
      rw [escapeAll]
      split
      · next hquote =>
          rw [if_neg (Nat.not_lt_zero seen), hquote]
          have hread := (ih 0).basic_escape escapes_quote
          exact hread
      · next hquote =>
          rw [List.append_assoc]
          rcases escape_cases false c with ⟨e, he, heq⟩ | ⟨-, hmulti, -⟩ | ⟨hplain, hslash, heq⟩
          · rw [heq]
            exact (ih 0).basic_escape he
          · cases hmulti
          · rw [heq]
            exact (ih 0).basic_plain hplain hquote hslash

theorem literal?_append (hplain : ∀ c ∈ cs, isPlain c = true) (hquote : '\'' ∉ cs)
    (rest : List Char) : literal? (cs ++ '\'' :: rest) = some (cs, rest) := by
  induction cs with
  | nil => rfl
  | cons c cs ih =>
      obtain ⟨hne, hmore⟩ := not_or.mp (mt List.mem_cons.mpr hquote)
      obtain ⟨hc, hcs⟩ := List.forall_mem_cons.mp hplain
      rw [List.cons_append, literal?, if_pos hc, ih hcs hmore]
      · rfl
      · exact fun heq => hne heq.symm

/-! ## Runs -/

theorem run_cons_self (q : Char) (cs : List Char) : run q (q :: cs) = run q cs + 1 := by
  simp [run]

theorem run_cons_of_ne (h : c ≠ q) (cs : List Char) : run q (c :: cs) = 0 := by
  simp [run, h]

theorem run_replicate_append (n : Nat) (q : Char) (cs : List Char) :
    run q (List.replicate n q ++ cs) = n + run q cs := by
  induction n with
  | zero => simp
  | succ n ih => rw [List.replicate_succ, List.cons_append, run_cons_self, ih]; omega

/-- A run at the start of a text goes through to its end, or it does not depend on what
follows. -/
theorem all_or_run_append (q : Char) (cs text : List Char) :
    (∃ n, cs = List.replicate n q) ∨ run q (cs ++ text) = run q cs := by
  induction cs with
  | nil => exact .inl ⟨0, rfl⟩
  | cons c cs ih =>
      by_cases hc : c = q
      · subst hc
        rw [List.cons_append, run_cons_self, run_cons_self]
        exact ih.imp (fun ⟨n, hn⟩ => ⟨n + 1, congrArg _ hn⟩) (congrArg (· + 1))
      · exact .inr (by rw [List.cons_append, run_cons_of_ne hc, run_cons_of_ne hc])

theorem run_le_longestRun (q : Char) (cs : List Char) : run q cs ≤ longestRun q cs := by
  cases cs with
  | nil => exact Nat.le_refl _
  | cons c cs => exact Nat.le_max_left _ _

theorem longestRun_cons (q c : Char) (cs : List Char) :
    longestRun q cs ≤ longestRun q (c :: cs) :=
  Nat.le_max_right _ _

theorem not_mem_of_longestRun (h : longestRun q cs = 0) : q ∉ cs := by
  induction cs with
  | nil => exact List.not_mem_nil
  | cons c cs ih =>
      have hrun : run q (c :: cs) = 0 :=
        Nat.eq_zero_of_le_zero (h ▸ run_le_longestRun q (c :: cs))
      have hmore : longestRun q cs = 0 := Nat.eq_zero_of_le_zero (h ▸ longestRun_cons q c cs)
      rintro (_ | ⟨_, hmem⟩)
      · rw [run_cons_self] at hrun
        cases hrun
      · exact ih hmore hmem

/-- As many quotes stand in a row as there is room for, and those before them count. -/
theorem run_escapeAll (multi : Bool) (cs : List Char) (h : seen ≤ room) :
    run '\"' (escapeAll multi room seen cs) + seen ≤ room := by
  induction cs generalizing seen with
  | nil => simpa [escapeAll, run] using h
  | cons c cs ih =>
      rw [escapeAll]
      split
      · split
        · next hroom =>
            have hmore : run '\"' (escapeAll multi room (seen + 1) cs) + (seen + 1) ≤ room :=
              ih hroom
            rw [run_cons_self]
            omega
        · rwa [run_cons_of_ne (by decide), Nat.zero_add]
      · next hquote =>
          rcases escape_cases multi c with ⟨e, -, heq⟩ | ⟨-, -, heq⟩ | ⟨-, -, heq⟩
          · rwa [heq, List.cons_append, run_cons_of_ne (by decide), Nat.zero_add]
          · rwa [heq, List.singleton_append, run_cons_of_ne hquote, Nat.zero_add]
          · rwa [heq, List.singleton_append, run_cons_of_ne hquote, Nat.zero_add]

/-- What is written as quotes alone are those quotes. -/
theorem eq_of_escapeAll_quotes {n : Nat}
    (h : escapeAll multi room seen cs = List.replicate n '\"') : cs = List.replicate n '\"' := by
  induction cs generalizing seen n with
  | nil => exact h
  | cons c cs ih =>
      have hfirst : ∀ d more, escapeAll multi room seen (c :: cs) = d :: more → d = '\"' := by
        intro d more heq
        have hmem : d ∈ List.replicate n '\"' := h ▸ heq ▸ List.mem_cons_self
        exact List.eq_of_mem_replicate hmem
      rw [escapeAll] at h hfirst
      split at h
      · next hquote =>
          rw [if_pos hquote] at hfirst
          split at h
          · cases n with
            | zero => cases h
            | succ n =>
                rw [List.replicate_succ] at h ⊢
                obtain ⟨-, hmore⟩ := List.cons.inj h
                rw [hquote, ih hmore]
          · next hroom =>
              rw [if_neg hroom] at hfirst
              exact absurd (hfirst _ _ rfl) (by decide)
      · next hquote =>
          rw [if_neg hquote] at hfirst
          rcases escape_cases multi c with ⟨e, -, heq⟩ | ⟨-, -, heq⟩ | ⟨-, -, heq⟩
          · rw [heq] at hfirst
            exact absurd (hfirst _ _ rfl) (by decide)
          · rw [heq] at hfirst
            exact absurd (hfirst _ _ rfl) hquote
          · rw [heq] at hfirst
            exact absurd (hfirst _ _ rfl) hquote

/-! ## Over several lines -/

/-- Up to two quotes before the closing ones are read as part of the string. -/
theorem takes_multi_end {n : Nat} (hn : n ≤ 2) (hrest : run q rest = 0) :
    Takes (multi? q escapes) (List.replicate n q ++ (List.replicate 3 q ++ rest))
      (List.replicate n q) rest := by
  have htext : List.replicate n q ++ (List.replicate 3 q ++ rest) =
      q :: (List.replicate (n + 2) q ++ rest) := by
    rw [← List.append_assoc, List.replicate_append_replicate, ← List.cons_append,
      ← List.replicate_succ]
  have hrun : run q (q :: (List.replicate (n + 2) q ++ rest)) = n + 3 := by
    rw [run_cons_self, run_replicate_append, hrest]
  rw [htext]
  rintro (_ | fuel) hfuel
  · cases hfuel
  · have hkept : min (n + 3 - 3) 2 = n := by omega
    have hdrop : (q :: (List.replicate (n + 2) q ++ rest)).drop (n + 3) = rest := by
      rw [← List.cons_append, ← List.replicate_succ, List.drop_left' List.length_replicate]
    rw [multi?, if_pos rfl, hrun]
    simp only [if_neg (show ¬ n + 3 < 3 by omega), hkept, hdrop]

/-- A quote that no third one follows is read as itself. -/
theorem Takes.multi_quote (hrun : run q (q :: text) < 3)
    (h : Takes (multi? q escapes) text cs rest) :
    Takes (multi? q escapes) (q :: text) (q :: cs) rest := by
  rintro (_ | fuel) hfuel
  · cases hfuel
  · rw [run_cons_self] at hrun
    rw [multi?, if_pos rfl, run_cons_self]
    simp only [if_pos hrun]
    rcases Nat.eq_zero_or_pos (run q text) with hnone | hsome
    · rw [hnone, List.drop_succ_cons, List.drop_zero, h fuel (Nat.lt_of_succ_lt_succ hfuel)]
      rfl
    · -- The second of two quotes is not looked at on its own: what is made of it is known from
      -- how the text would be read that starts with it.
      cases text with
      | nil => cases hsome
      | cons c text =>
          have hc : c = q := Decidable.byContradiction fun hne => by
            rw [run_cons_of_ne hne] at hsome
            cases hsome
          subst hc
          rw [run_cons_self] at hrun ⊢
          have hnone : run c text = 0 := by omega
          have hsecond := h (fuel + 1) (by rw [List.length_cons] at hfuel; omega)
          rw [multi?, if_pos rfl, run_cons_self, hnone] at hsecond
          simp only [if_pos (show 0 + 1 < 3 by omega), Option.map_eq_some_iff] at hsecond
          obtain ⟨⟨s, more⟩, hread, heq⟩ := hsecond
          cases heq
          rw [List.drop_succ_cons, List.drop_zero] at hread
          rw [hnone, List.drop_succ_cons, List.drop_succ_cons, List.drop_zero, hread]
          rfl

theorem Takes.multi_escape (hq : q ≠ '\\') (he : Escapes e c)
    (h : Takes (multi? q true) text cs rest) :
    Takes (multi? q true) ('\\' :: (e ++ text)) (c :: cs) rest := by
  rintro (_ | fuel) hfuel
  · cases hfuel
  · have hmore : text.length < fuel := by
      rw [List.length_cons, List.length_append] at hfuel
      omega
    rw [multi?, if_neg hq.symm, if_pos ⟨rfl, rfl⟩, he.stays]
    simp only [he.read, Option.bind_eq_bind, Option.bind_some, h fuel hmore]

theorem Takes.multi_line (hq : q ≠ '\n') (h : Takes (multi? q escapes) text cs rest) :
    Takes (multi? q escapes) ('\n' :: text) ('\n' :: cs) rest := by
  rintro (_ | fuel) hfuel
  · cases hfuel
  · rw [multi?, if_neg hq.symm, if_neg (by simp)]
    simp only [lineEnd?, h fuel (Nat.lt_of_succ_lt_succ hfuel), Option.map_some]

theorem Takes.multi_plain (hplain : isPlain c = true) (hquote : c ≠ q)
    (hslash : ¬(c = '\\' ∧ escapes = true)) (h : Takes (multi? q escapes) text cs rest) :
    Takes (multi? q escapes) (c :: text) (c :: cs) rest := by
  rintro (_ | fuel) hfuel
  · cases hfuel
  · obtain ⟨hline, hreturn⟩ := ne_of_isPlain hplain
    rw [multi?, if_neg hquote, if_neg hslash, lineEnd?_cons hline hreturn]
    simp only [if_pos hplain, h fuel (Nat.lt_of_succ_lt_succ hfuel), Option.map_some]

theorem takes_multi_literal (hrun : longestRun '\'' cs ≤ 2)
    (hplain : ∀ c ∈ cs, c = '\n' ∨ isPlain c = true) (hrest : run '\'' rest = 0) :
    Takes (multi? '\'' false) (cs ++ (List.replicate 3 '\'' ++ rest)) cs rest := by
  induction cs with
  | nil => exact takes_multi_end (Nat.zero_le 2) hrest
  | cons c cs ih =>
      obtain ⟨hc, hcs⟩ := List.forall_mem_cons.mp hplain
      have hmore := ih (Nat.le_trans (longestRun_cons _ c cs) hrun) hcs
      have hfirst := Nat.le_trans (run_le_longestRun '\'' (c :: cs)) hrun
      by_cases hquote : c = '\''
      · subst hquote
        rcases all_or_run_append '\'' ('\'' :: cs) (List.replicate 3 '\'' ++ rest) with
          ⟨n, hall⟩ | hrun
        · rw [hall] at hfirst ⊢
          rw [← List.append_nil (List.replicate _ _), run_replicate_append] at hfirst
          exact takes_multi_end hfirst hrest
        · rw [List.cons_append] at hrun ⊢
          exact hmore.multi_quote (Nat.lt_succ_of_le (hrun ▸ hfirst))
      · rcases hc with rfl | hc
        · exact hmore.multi_line (by decide)
        · exact hmore.multi_plain hc hquote (by simp)

theorem takes_multi_escaped (cs : List Char) (hrest : run '\"' rest = 0) (h : seen ≤ 2) :
    Takes (multi? '\"' true) (escapeAll true 2 seen cs ++ (List.replicate 3 '\"' ++ rest))
      cs rest := by
  induction cs generalizing seen with
  | nil => exact takes_multi_end (Nat.zero_le 2) hrest
  | cons c cs ih =>
      have hfirst : run '\"' (escapeAll true 2 seen (c :: cs)) ≤ 2 := by
        have hroom := run_escapeAll true (c :: cs) h
        omega
      rcases all_or_run_append '\"' (escapeAll true 2 seen (c :: cs))
        (List.replicate 3 '\"' ++ rest) with ⟨n, hall⟩ | hrun
      · rw [hall] at hfirst ⊢
        rw [eq_of_escapeAll_quotes hall]
        rw [← List.append_nil (List.replicate _ _), run_replicate_append] at hfirst
        exact takes_multi_end hfirst hrest
      · rw [← hrun] at hfirst
        rw [escapeAll] at hfirst ⊢
        split
        · next hquote =>
            rw [if_pos hquote] at hfirst
            subst hquote
            split
            · next hroom =>
                rw [if_pos hroom] at hfirst
                exact (ih hroom).multi_quote (Nat.lt_succ_of_le hfirst)
            · have hread := (ih (Nat.zero_le 2)).multi_escape (by decide) escapes_quote
              exact hread
        · next hquote =>
            rw [List.append_assoc]
            rcases escape_cases true c with ⟨e, he, heq⟩ | ⟨hline, -, heq⟩ | ⟨hplain, hslash, heq⟩
            · rw [heq]
              exact (ih (Nat.zero_le 2)).multi_escape (by decide) he
            · rw [heq, hline]
              exact (ih (Nat.zero_le 2)).multi_line (by decide)
            · rw [heq]
              exact (ih (Nat.zero_le 2)).multi_plain hplain hquote fun hboth => hslash hboth.1

/-! ## The four forms -/

/-- The text does not go on with a quote. -/
def Unquoted : List Char → Prop
  | [] => True
  | c :: _ => c ≠ '\"' ∧ c ≠ '\''

theorem Unquoted.run_eq (h : Unquoted rest) : run '\"' rest = 0 ∧ run '\'' rest = 0 := by
  cases rest with
  | nil => exact ⟨rfl, rfl⟩
  | cons c rest => exact ⟨run_cons_of_ne h.1 rest, run_cons_of_ne h.2 rest⟩

theorem take?_eq_single? (hquotes : run '\"' text < 3) (hmarks : run '\'' text < 3) :
    take? text = single? text := by
  rw [take?]
  · rintro rest rfl
    simp only [run_cons_self] at hquotes
    omega
  · rintro rest rfl
    simp only [run_cons_self] at hmarks
    omega

theorem take?_basic (cs : List Char) (hrest : Unquoted rest) :
    take? ('\"' :: (escapeAll false 0 0 cs ++ '\"' :: rest)) = some (cs, rest) := by
  have hquotes : run '\"' (escapeAll false 0 0 cs ++ '\"' :: rest) < 2 := by
    have hnone := run_escapeAll false cs (Nat.le_refl 0)
    rcases all_or_run_append '\"' (escapeAll false 0 0 cs) ('\"' :: rest) with ⟨n, hall⟩ | hrun
    · rw [hall, ← List.append_nil (List.replicate n _), run_replicate_append] at hnone
      rw [hall, run_replicate_append, run_cons_self, hrest.run_eq.1]
      omega
    · omega
  rw [take?_eq_single?, single?]
  · exact takes_basic cs rest 0 _ (Nat.lt_succ_self _)
  · rw [run_cons_self]
    omega
  · rw [run_cons_of_ne (by decide)]
    omega

theorem take?_literal (hplain : ∀ c ∈ cs, isPlain c = true) (hquote : '\'' ∉ cs)
    (hrest : Unquoted rest) : take? ('\'' :: (cs ++ '\'' :: rest)) = some (cs, rest) := by
  have hmarks : run '\'' (cs ++ '\'' :: rest) < 2 := by
    cases cs with
    | nil => rw [List.nil_append, run_cons_self, hrest.run_eq.2]; omega
    | cons c cs =>
        have hne : c ≠ '\'' := fun heq => hquote (heq ▸ List.mem_cons_self)
        rw [List.cons_append, run_cons_of_ne hne]
        omega
  rw [take?_eq_single?, single?]
  · exact literal?_append hplain hquote rest
  · rw [run_cons_of_ne (by decide)]
    omega
  · rw [run_cons_self]
    omega

/-- The line end after the opening quotes is no part of the string. There is one if the string
has lines, and else the string does not start with one. -/
theorem multiline?_eq {lines : Bool} (hread : Takes (multi? q escapes) text cs rest)
    (hline : lines = false → lineEnd? text = none) :
    multiline? q escapes ((if lines = true then ['\n'] else []) ++ text) = some (cs, rest) := by
  cases lines with
  | true => exact hread _ (Nat.lt_succ_self _)
  | false =>
      rw [if_neg (by decide), List.nil_append, multiline?, hline rfl]
      exact hread _ (Nat.lt_succ_self _)

theorem take?_multiEscaped (cs : List Char) {lines : Bool} (hlines : lines = false → '\n' ∉ cs)
    (hrest : Unquoted rest) :
    take? (List.replicate 3 '\"' ++ ((if lines = true then ['\n'] else []) ++
      (escapeAll true 2 0 cs ++ (List.replicate 3 '\"' ++ rest)))) = some (cs, rest) := by
  refine multiline?_eq (takes_multi_escaped cs hrest.run_eq.1 (Nat.zero_le 2)) fun hnone => ?_
  cases cs with
  | nil => rfl
  | cons c cs =>
      have hline : c ≠ '\n' := fun heq => hlines hnone (heq ▸ List.mem_cons_self)
      rw [escapeAll]
      split
      · rfl
      · rcases escape_cases true c with ⟨e, -, heq⟩ | ⟨hc, -⟩ | ⟨hplain, -, heq⟩
        · rw [heq]
          rfl
        · exact absurd hc hline
        · rw [heq]
          exact lineEnd?_cons hline (ne_of_isPlain hplain).2 _

theorem take?_multiLiteral {lines : Bool} (hlines : lines = false → '\n' ∉ cs)
    (hrun : longestRun '\'' cs ≤ 2) (hplain : ∀ c ∈ cs, c = '\n' ∨ isPlain c = true)
    (hrest : Unquoted rest) :
    take? (List.replicate 3 '\'' ++ ((if lines = true then ['\n'] else []) ++
      (cs ++ (List.replicate 3 '\'' ++ rest)))) = some (cs, rest) := by
  refine multiline?_eq (takes_multi_literal hrun hplain hrest.run_eq.2) fun hnone => ?_
  cases cs with
  | nil => rfl
  | cons c cs =>
      have hline : c ≠ '\n' := fun heq => hlines hnone (heq ▸ List.mem_cons_self)
      have hc := (hplain c List.mem_cons_self).resolve_left hline
      exact lineEnd?_cons hline (ne_of_isPlain hc).2 _

/-- A string is read back in whichever form it is written. -/
theorem take?_write (s : String) (hrest : Unquoted rest) :
    take? (write s ++ rest) = some (s.toList, rest) := by
  have hcodes : needsEscape s.toList = false →
      ∀ c ∈ s.toList, c = '\n' ∨ isPlain c = true := by
    intro h c hc
    have hnone := List.any_eq_false.mp h c hc
    by_cases hline : c = '\n'
    · exact .inl hline
    · exact .inr (by simpa [hline] using hnone)
  have hlines : s.toList.contains '\n' = false → '\n' ∉ s.toList := by
    simp
  rw [write]
  simp only [Bool.not_eq_true']
  split
  · simpa using take?_basic s.toList hrest
  split
  · next h =>
      have hline := hlines h.2.2
      have hplain : ∀ c ∈ s.toList, isPlain c = true := fun c hc =>
        (hcodes h.1 c hc).resolve_left fun heq => hline (heq ▸ hc)
      simpa using take?_literal hplain (not_mem_of_longestRun h.2.1) hrest
  split
  · simpa only [List.append_assoc] using take?_multiEscaped s.toList hlines hrest
  split
  · next h =>
      simpa only [List.append_assoc] using take?_multiLiteral hlines h.2 (hcodes h.1) hrest
  split
  · have hlines : true = false → '\n' ∉ s.toList := nofun
    simpa only [List.append_assoc, if_true] using take?_multiEscaped s.toList hlines hrest
  · simpa using take?_basic s.toList hrest

end Tether.Toml.Text
