import Tether.Json.Parser
import Tether.Json.Printer

/-!
# Readers and what they read

A reader takes something off the front of a text, so what it does depends on a text of
which most is none of its concern. What is said of a reader here is therefore said for every
continuation: after any blanks it takes exactly this spelling, and leaves whatever follows
(`Reads`). A number has no end of its own, and so the continuation must not look like more
of a number (`Stops`); whatever may stand after an item of a container does not.

A container is spelled by its items with commas between them, and blanks anywhere
(`Joined`). That a container is read follows from how its items are read
(`contents?_reads`). The items may be anything that a reader takes, values as well as members
of an object, in any way of spelling them.
-/

namespace Tether.Json

/-- Blanks, and nothing else. -/
def Blank (cs : List Char) : Prop :=
  ∀ c ∈ cs, isBlank c = true

/-- What a text may go on with after a number. -/
def Stops : List Char → Prop
  | [] => True
  | c :: _ => c.isDigit = false ∧ c ≠ '.' ∧ c ≠ 'e' ∧ c ≠ 'E'

/-- A token begins here, and no container ends. -/
def Opens : List Char → Prop
  | [] => False
  | c :: _ => isBlank c = false ∧ c ≠ ']' ∧ c ≠ '}'

/-- After blanks a reader takes a spelling of a value, and leaves what follows. -/
def Reads {α : Type} (reader : Reader α) (x : α) (cs : List Char) : Prop :=
  ∀ blank rest, Blank blank → Stops rest → reader (blank ++ (cs ++ rest)) = some (x, rest)

theorem blank_nil : Blank [] := nofun

/-! ## Blanks -/

theorem skipBlank_append {blank : List Char} (h : Blank blank) (cs : List Char) :
    skipBlank (blank ++ cs) = skipBlank cs := by
  induction blank with
  | nil => rfl
  | cons c rest ih =>
      have hc : isBlank c = true := h c List.mem_cons_self
      have hrest : Blank rest := fun d hd => h d (List.mem_cons_of_mem c hd)
      rw [List.cons_append, skipBlank, List.dropWhile_cons_of_pos hc]
      exact ih hrest

theorem skipBlank_token {c : Char} (h : isBlank c = false) (cs : List Char) :
    skipBlank (c :: cs) = c :: cs := by
  rw [skipBlank, List.dropWhile_cons_of_neg]
  simp [h]

theorem skipBlank_opens {cs : List Char} (h : Opens cs) (rest : List Char) :
    skipBlank (cs ++ rest) = cs ++ rest := by
  cases cs with
  | nil => exact h.elim
  | cons c cs => exact skipBlank_token h.1 _

/-- Blanks before a value make no difference to it. -/
theorem value?_blank {blank : List Char} (h : Blank blank) (d : Nat) (cs : List Char) :
    value? d (blank ++ cs) = value? d cs := by
  rw [value?, value?, skipBlank_append h]

theorem isBlank_of_isDigit {c : Char} (h : c.isDigit = true) : isBlank c = false := by
  rw [Bool.eq_false_iff]
  intro hb
  simp only [isBlank, Bool.or_eq_true, decide_eq_true_eq, or_assoc] at hb
  rcases hb with rfl | rfl | rfl | rfl <;> exact absurd h (by decide)

theorem stops_blank {blank : List Char} {c : Char} {rest : List Char} (h : Blank blank)
    (hc : Stops (c :: rest)) : Stops (blank ++ c :: rest) := by
  cases blank with
  | nil => exact hc
  | cons b others =>
      have hb : isBlank b = true := h b List.mem_cons_self
      simp only [isBlank, Bool.or_eq_true, decide_eq_true_eq, or_assoc] at hb
      rcases hb with rfl | rfl | rfl | rfl <;> exact ⟨rfl, by decide, by decide, by decide⟩

theorem stops_comma (rest : List Char) : Stops (',' :: rest) :=
  ⟨rfl, by decide, by decide, by decide⟩

/-! ## Containers -/

/-- The closing bracket of a container. -/
def Closes (close : Char) : Prop :=
  close = ']' ∨ close = '}'

theorem Closes.stops {close : Char} (h : Closes close) (rest : List Char) :
    Stops (close :: rest) := by
  rcases h with rfl | rfl <;> exact ⟨rfl, by decide, by decide, by decide⟩

theorem Closes.token {close : Char} (h : Closes close) : isBlank close = false := by
  rcases h with rfl | rfl <;> rfl

/-- Items with commas between them, up to a closing bracket. -/
inductive Joined (close : Char) : List (List Char) → List Char → Prop where
  | none {blank : List Char} (h : Blank blank) : Joined close [] (blank ++ [close])
  | last {blank after item : List Char} (h : Blank blank) (h' : Blank after) :
      Joined close [item] (blank ++ (item ++ (after ++ [close])))
  | more {blank after item next text : List Char} {items : List (List Char)} (h : Blank blank)
      (h' : Blank after) (hrest : Joined close (next :: items) text) :
      Joined close (item :: next :: items) (blank ++ (item ++ (after ++ ',' :: text)))

theorem Joined.length_le {close : Char} {items : List (List Char)} {text : List Char}
    (h : Joined close items text) : items.length ≤ text.length := by
  induction h with
  | none h => exact Nat.zero_le _
  | last h h' => simp; omega
  | more h h' hrest ih => simp at ih ⊢; omega

theorem joined_compactItems (items : List Json) :
    Joined ']' (items.map compact) (compactItems items ++ [']']) := by
  induction items with
  | nil => exact .none blank_nil
  | cons x rest ih =>
      cases rest with
      | nil => exact .last blank_nil blank_nil
      | cons y rest =>
          have hmore := @Joined.more ']' [] [] (compact x) _ _ _ blank_nil blank_nil ih
          rwa [compactItems, List.append_assoc]

theorem joined_compactFields (fields : List (String × Json)) :
    Joined '}' (fields.map compactField) (compactFields fields ++ ['}']) := by
  induction fields with
  | nil => exact .none blank_nil
  | cons e rest ih =>
      cases rest with
      | nil => exact .last blank_nil blank_nil
      | cons f rest =>
          have hmore := @Joined.more '\x7d' [] [] (compactField e) _ _ _ blank_nil blank_nil ih
          rwa [compactFields, List.append_assoc]

variable {α β : Type} {item : Reader α} {close : Char} {value : β → α} {spelled : β → List Char}

/-- One item or more are read, whatever blanks are between them. -/
theorem items?_reads {xs : List β} {text : List Char} (hclose : Closes close)
    (hread : ∀ x ∈ xs, Reads item (value x) (spelled x)) (hne : xs ≠ [])
    (h : Joined close (xs.map spelled) text) {fuel : Nat} (hfuel : xs.length ≤ fuel)
    (rest : List Char) :
    items? item close fuel (text ++ rest) = some (xs.map value, rest) := by
  induction xs generalizing text fuel with
  | nil => exact absurd rfl hne
  | cons x xs ih =>
      obtain ⟨fuel, rfl⟩ : ∃ n, fuel = n + 1 := Nat.exists_eq_succ_of_ne_zero (by
        simp at hfuel
        omega)
      obtain ⟨hx, hxs⟩ := List.forall_mem_cons.mp hread
      cases xs with
      | nil =>
          cases h with
          | @last blank after _ hb ha =>
              have hstops : Stops (after ++ close :: rest) := stops_blank ha (hclose.stops rest)
              have hclosed : skipBlank (after ++ close :: rest) = close :: rest := by
                rw [skipBlank_append ha, skipBlank_token hclose.token]
              simp only [items?, List.append_assoc, List.cons_append, List.nil_append]
              rw [hx blank _ hb hstops]
              rcases hclose with rfl | rfl <;> simp [hclosed]
      | cons y ys =>
          cases h with
          | @more blank after _ _ text _ hb ha hrest =>
              have hstops : Stops (after ++ ',' :: (text ++ rest)) :=
                stops_blank ha (stops_comma _)
              have hcomma : skipBlank (after ++ ',' :: (text ++ rest)) = ',' :: (text ++ rest) := by
                rw [skipBlank_append ha, skipBlank_token rfl]
              have hlater := ih hxs (List.cons_ne_nil _ _) hrest (by simpa using hfuel)
              simp only [items?, List.append_assoc, List.cons_append]
              rw [hx blank _ hb hstops]
              simp [hcomma, hlater]

/-- The items of a container are read after its opening bracket. -/
theorem contents?_reads {xs : List β} {text : List Char} (hclose : Closes close)
    (hread : ∀ x ∈ xs, Reads item (value x) (spelled x)) (hopens : ∀ x ∈ xs, Opens (spelled x))
    (h : Joined close (xs.map spelled) text) (rest : List Char) :
    contents? item close (text ++ rest) = some (xs.map value, rest) := by
  cases xs with
  | nil =>
      cases h with
      | @none blank hb =>
          have hskip : skipBlank (blank ++ ([close] ++ rest)) = close :: rest := by
            rw [skipBlank_append hb]
            exact skipBlank_token hclose.token rest
          rw [contents?, List.append_assoc, hskip]
          simp
  | cons x xs =>
      obtain ⟨c, cs, hcs, hc⟩ : ∃ c cs, spelled x = c :: cs ∧ isBlank c = false ∧ c ≠ close := by
        have hx := hopens x List.mem_cons_self
        cases hspelled : spelled x with
        | nil => rw [hspelled] at hx; exact hx.elim
        | cons c cs =>
            rw [hspelled] at hx
            refine ⟨c, cs, rfl, hx.1, ?_⟩
            rcases hclose with rfl | rfl
            · exact hx.2.1
            · exact hx.2.2
      -- Blanks before the first item are skipped first, and the rest is a container still.
      obtain ⟨blank, tail, hb, rfl, hjoined⟩ : ∃ blank tail, Blank blank ∧
          text = blank ++ (spelled x ++ tail) ∧
            Joined close ((x :: xs).map spelled) (spelled x ++ tail) := by
        rw [List.map_cons] at h ⊢
        generalize xs.map spelled = texts at h
        cases h with
        | last hb ha => exact ⟨_, _, hb, rfl, @Joined.last close [] _ _ blank_nil ha⟩
        | more hb ha hrest => exact ⟨_, _, hb, rfl, @Joined.more close [] _ _ _ _ _ blank_nil ha hrest⟩
      have hskip : skipBlank (blank ++ (spelled x ++ tail) ++ rest) =
          c :: (cs ++ tail ++ rest) := by
        rw [List.append_assoc, skipBlank_append hb, hcs]
        exact skipBlank_token hc.1 _
      have hfuel : (x :: xs).length ≤ (blank ++ (spelled x ++ tail) ++ rest).length := by
        have hle := hjoined.length_le
        simp at hle ⊢
        omega
      have hitems := items?_reads hclose hread (List.cons_ne_nil x xs) hjoined hfuel rest
      rw [hcs] at hitems
      rw [contents?, hskip]
      simpa [hc.2, hcs] using hitems

/-- Whatever is read as an item was read by the reader of items. -/
theorem of_mem_items? {fuel : Nat} {cs rest : List Char} {xs : List α}
    (h : items? item close fuel cs = some (xs, rest)) :
    ∀ x ∈ xs, ∃ cs rest, item cs = some (x, rest) := by
  induction fuel generalizing cs xs with
  | zero => cases h
  | succ fuel ih =>
      simp only [items?, Option.bind_eq_bind, Option.bind_eq_some_iff] at h
      obtain ⟨⟨x, after⟩, hx, h⟩ := h
      split at h
      · simp only [Option.bind_eq_some_iff] at h
        obtain ⟨⟨ys, after'⟩, hys, heq⟩ := h
        cases heq
        exact List.forall_mem_cons.mpr ⟨⟨_, _, hx⟩, ih hys⟩
      · split at h
        · cases h
          exact List.forall_mem_singleton.mpr ⟨_, _, hx⟩
        · cases h
      · cases h

theorem of_mem_contents? {cs rest : List Char} {xs : List α}
    (h : contents? item close cs = some (xs, rest)) :
    ∀ x ∈ xs, ∃ cs rest, item cs = some (x, rest) := by
  rw [contents?] at h
  split at h
  · cases h
  · split at h
    · cases h
      exact nofun
    · exact of_mem_items? h

end Tether.Json
