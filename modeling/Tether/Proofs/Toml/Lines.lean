import Tether.Proofs.Dict.Order
import Tether.Proofs.Toml.Numbers
import Tether.Proofs.Toml.Strings

/-!
# Documents of plain pairs

The plainest documents have no headers, and each of their lines is a bare key with a value after
it. What is read of a line does not depend on the lines that follow, as long as the value is read
up to the end of its own line (`Reads`), and it is entered into the table as it stands
(`line?_pair`). So a document of such lines is read as the table of its pairs, if no key comes
twice (`parse?_pairs`).
-/

namespace Tether.Toml

/-- A value is spelled on the rest of a line, which the reader leaves at its end. -/
structure Reads (text : List Char) (x : Toml) : Prop where
  value : ∀ rest, value? maxDepth (text ++ '\n' :: rest) = some (x, '\n' :: rest)
  starts : ∀ rest, Text.skipSpace (text ++ rest) = text ++ rest

/-- A key that is written without quotes. -/
structure Bare (key : String) : Prop where
  nonempty : key.toList ≠ []
  plain : ∀ c ∈ key.toList, isBare c = true

instance (key : String) : Decidable (Bare key) :=
  decidable_of_iff (key.toList.isEmpty = false ∧ key.toList.all isBare = true)
    ⟨fun h => ⟨List.isEmpty_eq_false_iff.mp h.1, List.all_eq_true.mp h.2⟩,
      fun h => ⟨List.isEmpty_eq_false_iff.mpr h.1, List.all_eq_true.mpr h.2⟩⟩

theorem skipSpace_cons {c : Char} (hspace : c ≠ ' ') (htab : c ≠ '\t') (rest : List Char) :
    Text.skipSpace (c :: rest) = c :: rest := by
  rw [Text.skipSpace, List.dropWhile_cons_of_neg (by simp [hspace, htab])]

/-! ## Values -/

theorem reads_natChars {n : Nat} (h : n < 9223372036854775808) :
    Reads (Json.Number.natChars n) (integer n) where
  value := value?_natChars h maxDepth
  starts rest := by
    obtain ⟨c, ds, heq, hc⟩ := Json.Number.natChars_digit n
    rw [heq]
    exact skipSpace_cons (Scalar.ne_of_isDigit hc (by decide))
      (Scalar.ne_of_isDigit hc (by decide)) (ds ++ rest)

/-- A string is written with a quote of either kind in front. -/
theorem Text.write_cons (s : String) :
    ∃ q cs, Text.write s = q :: cs ∧ (q = '\"' ∨ q = '\'') := by
  rw [Text.write]
  split
  · exact ⟨_, _, rfl, .inl rfl⟩
  split
  · exact ⟨_, _, rfl, .inr rfl⟩
  split
  · exact ⟨_, _, rfl, .inl rfl⟩
  split
  · exact ⟨_, _, rfl, .inr rfl⟩
  split
  · exact ⟨_, _, rfl, .inl rfl⟩
  · exact ⟨_, _, rfl, .inl rfl⟩

theorem reads_write (s : String) : Reads (Text.write s) (string s) := by
  obtain ⟨q, cs, heq, hq⟩ := Text.write_cons s
  constructor
  · intro rest
    have htake : Text.take? (Text.write s ++ '\n' :: rest) = some (s.toList, '\n' :: rest) :=
      Text.take?_write s ⟨by decide, by decide⟩
    have hopen : ∀ d more, d ≠ '\"' → d ≠ '\'' → q :: (cs ++ '\n' :: rest) ≠ d :: more := by
      intro d more hquote hmark h
      rcases hq with rfl | rfl
      · exact hquote (List.cons.inj h).1.symm
      · exact hmark (List.cons.inj h).1.symm
    rw [heq, List.cons_append] at htake ⊢
    rw [value?]
    · rcases hq with rfl | rfl <;> rw [scalar?, htake] <;>
        simp only [Option.map_some, String.ofList_toList]
    · exact fun more => hopen '[' more (by decide) (by decide)
    · exact fun more => hopen '{' more (by decide) (by decide)
  · intro rest
    rw [heq]
    rcases hq with rfl | rfl
    · exact skipSpace_cons (by decide) (by decide) (cs ++ rest)
    · exact skipSpace_cons (by decide) (by decide) (cs ++ rest)

/-! ## Lines -/

variable {key : String} {text : List Char} {x : Toml}

theorem ne_of_isBare {c d : Char} (hc : isBare c = true) (hd : isBare d = false) : c ≠ d := by
  rintro rfl
  rw [hc] at hd
  cases hd

theorem Bare.cons (h : Bare key) :
    ∃ c cs, key.toList = c :: cs ∧ isBare c = true := by
  cases heq : key.toList with
  | nil => exact absurd heq h.nonempty
  | cons c cs => exact ⟨c, cs, rfl, h.plain c (heq ▸ List.mem_cons_self)⟩

theorem simpleKey?_bare (h : Bare key) (rest : List Char) :
    simpleKey? (key.toList ++ ' ' :: rest) = some (key, ' ' :: rest) := by
  have htake : (key.toList ++ ' ' :: rest).takeWhile isBare = key.toList := by
    rw [List.takeWhile_append_of_pos h.plain, List.takeWhile_cons_of_neg (by decide),
      List.append_nil]
  have hdrop : (key.toList ++ ' ' :: rest).dropWhile isBare = ' ' :: rest := by
    rw [List.dropWhile_append_of_pos h.plain, List.dropWhile_cons_of_neg (by decide)]
  obtain ⟨c, cs, heq, hc⟩ := h.cons
  have hname : String.ofList (c :: cs) = key := by rw [← heq, String.ofList_toList]
  rw [heq] at htake hdrop ⊢
  rw [simpleKey?, htake, hdrop]
  · simp only [hname]
  · intro more hmore
    exact ne_of_isBare hc (by decide) (List.cons.inj hmore).1
  · intro more hmore
    exact ne_of_isBare hc (by decide) (List.cons.inj hmore).1

theorem key?_bare (h : Bare key) (rest : List Char) :
    key? (key.toList ++ ' ' :: '=' :: rest) = some (([], key), '=' :: rest) := by
  have hskip : Text.skipSpace (key.toList ++ ' ' :: '=' :: rest) =
      key.toList ++ ' ' :: '=' :: rest := by
    obtain ⟨c, cs, heq, hc⟩ := h.cons
    rw [heq]
    exact skipSpace_cons (ne_of_isBare hc (by decide)) (ne_of_isBare hc (by decide)) _
  have hequals : Text.skipSpace (' ' :: '=' :: rest) = '=' :: rest := rfl
  rw [key?, keyParts?, hskip, simpleKey?_bare h]
  simp [hequals, maxDepth]

theorem pair?_line (hkey : Bare key) (hread : Reads text x) (rest : List Char) :
    pair? (value? maxDepth) (key.toList ++ (" = ".toList ++ (text ++ '\n' :: rest))) =
      some ((([], key), x), '\n' :: rest) := by
  have hskip : Text.skipSpace (' ' :: (text ++ '\n' :: rest)) = text ++ '\n' :: rest :=
    hread.starts ('\n' :: rest)
  have hpair : key? (key.toList ++ (" = ".toList ++ (text ++ '\n' :: rest))) =
      some (([], key), '=' :: ' ' :: (text ++ '\n' :: rest)) := key?_bare hkey _
  rw [pair?, hpair]
  simp only [Option.bind_eq_bind, Option.bind_some, hskip, hread.value]

theorem endLine?_end (rest : List Char) : endLine? ('\n' :: rest) = some rest := by
  simp [endLine?, Text.skipSpace, skipComment?, Text.lineEnd?]

theorem endLine?_bare (h : Bare key) (rest : List Char) :
    endLine? (key.toList ++ rest) = none := by
  obtain ⟨c, cs, heq, hc⟩ := h.cons
  have hskip := skipSpace_cons (ne_of_isBare hc (by decide)) (ne_of_isBare hc (by decide))
    (cs ++ rest)
  have hcomment : skipComment? (c :: (cs ++ rest)) = some (c :: (cs ++ rest)) := by
    rw [skipComment?]
    exact fun more hmore => ne_of_isBare hc (by decide) (List.cons.inj hmore).1
  have hline := Text.lineEnd?_cons (ne_of_isBare hc (by decide)) (ne_of_isBare hc (by decide))
    (cs ++ rest)
  rw [heq, List.cons_append, endLine?, hskip, hcomment]
  simp [hline]

theorem assign_new {entries : List (String × Toml)} (h : Dict.has entries key = false) :
    assign [] key x (table .header entries) = some (table .header (Dict.put key x entries)) := by
  simp [assign, within, store, h]

/-- A pair on a line is entered into the table. -/
theorem line?_pair {entries : List (String × Toml)} (hkey : Bare key)
    (hnew : Dict.has entries key = false) (hread : Reads text x) (rest : List Char) :
    line? ⟨table .header entries, []⟩
        (key.toList ++ (" = ".toList ++ (text ++ '\n' :: rest))) =
      some (⟨table .header (Dict.put key x entries), []⟩, rest) := by
  have hpair := pair?_line hkey hread rest
  have hend := endLine?_bare hkey (" = ".toList ++ (text ++ '\n' :: rest))
  have hassign := assign_new (x := x) hnew
  obtain ⟨c, cs, heq, hc⟩ := hkey.cons
  have hskip := skipSpace_cons (ne_of_isBare hc (by decide)) (ne_of_isBare hc (by decide))
    (cs ++ (" = ".toList ++ (text ++ '\n' :: rest)))
  rw [heq] at hpair hend ⊢
  rw [List.cons_append] at hpair hend ⊢
  rw [line?, hskip]
  split
  · next hopen => exact absurd (List.cons.inj hopen).1 (ne_of_isBare hc (by decide))
  · next hopen => exact absurd (List.cons.inj hopen).1 (ne_of_isBare hc (by decide))
  · rw [hend]
    simp only [hpair, Option.bind_eq_bind, Option.bind_some, endLine?_end, within, hassign]

/-- A line of a document: a bare key, the text of a value and the value. -/
structure Pair where
  key : String
  text : List Char
  value : Toml
  bare : Bare key
  reads : Reads text value

namespace Pair

/-- The characters of a line. -/
def chars (e : Pair) : List Char :=
  e.key.toList ++ (" = ".toList ++ (e.text ++ ['\n']))

/-- What is entered into the table. -/
def entry (e : Pair) : String × Toml :=
  (e.key, e.value)

theorem chars_cons (e : Pair) : ∃ c cs, e.chars = c :: cs ∧ isBare c = true := by
  obtain ⟨c, cs, heq, hc⟩ := e.bare.cons
  exact ⟨c, cs ++ (" = ".toList ++ (e.text ++ ['\n'])), by rw [chars, heq, List.cons_append], hc⟩

theorem length_le_flatMap (es : List Pair) : es.length ≤ (es.flatMap chars).length := by
  induction es with
  | nil => exact Nat.le_refl 0
  | cons e es ih =>
      obtain ⟨c, cs, heq, -⟩ := e.chars_cons
      rw [List.flatMap_cons, heq, List.cons_append, List.length_cons, List.length_cons,
        List.length_append]
      omega

end Pair

theorem lines?_pairs {es : List Pair} {entries : List (String × Toml)} {fuel : Nat}
    (hfuel : es.length ≤ fuel) (hkeys : (es.map Pair.key).Nodup)
    (hnew : ∀ e ∈ es, Dict.has entries e.key = false) :
    lines? fuel ⟨table .header entries, []⟩ (es.flatMap Pair.chars) =
      some (table .header
        ((es.map Pair.entry).foldl (fun d e => Dict.put e.1 e.2 d) entries)) := by
  induction es generalizing entries fuel with
  | nil => cases fuel <;> rfl
  | cons e es ih =>
      cases fuel with
      | zero => cases hfuel
      | succ fuel =>
          obtain ⟨hfirst, hrest⟩ := List.nodup_cons.mp hkeys
          obtain ⟨hown, hothers⟩ := List.forall_mem_cons.mp hnew
          have hline : line? ⟨table .header entries, []⟩ ((e :: es).flatMap Pair.chars) =
              some (⟨table .header (Dict.put e.key e.value entries), []⟩,
                es.flatMap Pair.chars) := by
            simpa [Pair.chars] using line?_pair e.bare hown e.reads (es.flatMap Pair.chars)
          have hlater : ∀ e' ∈ es, Dict.has (Dict.put e.key e.value entries) e'.key = false := by
            intro e' he'
            have hne : e.key ≠ e'.key := fun heq => hfirst (heq ▸ List.mem_map_of_mem he')
            rw [Dict.has, Dict.find?_put_of_ne hne]
            exact hothers e' he'
          rw [lines?, hline]
          · exact ih (Nat.le_of_succ_le_succ hfuel) hrest hlater
          · intro hempty
            obtain ⟨c, cs, heq, -⟩ := e.chars_cons
            rw [List.flatMap_cons, heq] at hempty
            cases hempty

/-- A document of lines with a pair each is the table of the pairs. -/
theorem parse?_pairs {es : List Pair} (hkeys : (es.map Pair.key).Nodup) :
    parse? (String.ofList (es.flatMap Pair.chars)) =
      some (table .header (Dict.ofEntries (es.map Pair.entry))) := by
  have hmark : (es.flatMap Pair.chars).head? ≠ some (Char.ofNat 0xFEFF) := by
    cases es with
    | nil => exact nofun
    | cons e es =>
        obtain ⟨c, cs, heq, hc⟩ := e.chars_cons
        rw [List.flatMap_cons, heq, List.cons_append, List.head?_cons, ne_eq, Option.some_inj]
        exact ne_of_isBare hc (by decide)
  rw [parse?, String.toList_ofList]
  simp only [if_neg hmark]
  exact lines?_pairs (Pair.length_le_flatMap es) hkeys fun e _ => rfl

end Tether.Toml
