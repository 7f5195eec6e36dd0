import Tether.Proofs.Dict.Order
import Tether.Proofs.Json.Numbers
import Tether.Proofs.Json.Strings

/-!
# Values written and read back

A value in memory has the keys of its objects in their order, each once, and its integers
fit a word (`Proper`). A text need not keep that order, nor name a key only once. What it
stands for is its value put in order (`normal`), and a proper value is in order already.

So the theorem about reading is one about texts: whatever members an object is written with,
the reader finds that value put in order, at any depth the text does not exceed
(`reads_compact`). All numbers have to be integers that fit a word (`Plain`). Floats are
written with the fewest digits that tell them apart, and are not always read as they were.

A compact text is one line, whatever its strings hold (`space_le_of_mem_compact`). A value that
was read was put together from what smaller readers found (`Found`), and so it is a proper one
(`proper_of_value?`) and nests no deeper than its reader goes.
-/

namespace Tether.Json

/-! ## Values -/

/-- The integers fit a word, and the keys of the objects are in their order. -/
inductive Proper : Json → Prop where
  | null : Proper .null
  | bool (b : Bool) : Proper (.bool b)
  | int {n : Int} (h : Number.Held n) : Proper (.num (.int n))
  | float (bits : UInt64) : Proper (.num (.float bits))
  | str (s : String) : Proper (.str s)
  | arr {items : List Json} (h : ∀ x ∈ items, Proper x) : Proper (.arr items)
  | obj {fields : Dict Json} (horder : fields.Ascending) (h : ∀ e ∈ fields, Proper e.2) :
      Proper (.obj fields)

/-- The numbers are integers that fit a word. -/
inductive Plain : Json → Prop where
  | null : Plain .null
  | bool (b : Bool) : Plain (.bool b)
  | int {n : Int} (h : Number.Held n) : Plain (.num (.int n))
  | str (s : String) : Plain (.str s)
  | arr {items : List Json} (h : ∀ x ∈ items, Plain x) : Plain (.arr items)
  | obj {fields : List (String × Json)} (h : ∀ e ∈ fields, Plain e.2) : Plain (.obj fields)

section Fold

variable {α : Type} (leaf : Json → α) (array : List α → α) (object : List (String × α) → α)

mutual

/-- What comes of a value if something is made of each array and each object from what was
made of the values in it. -/
def fold : Json → α
  | arr items => array (foldItems items)
  | obj fields => object (foldFields fields)
  | j => leaf j

@[inherit_doc fold]
def foldItems : List Json → List α
  | [] => []
  | x :: rest => fold x :: foldItems rest

@[inherit_doc fold]
def foldField : String × Json → String × α
  | (k, v) => (k, fold v)

@[inherit_doc fold]
def foldFields : List (String × Json) → List (String × α)
  | [] => []
  | e :: rest => foldField e :: foldFields rest

end

theorem fold_arr (items : List Json) :
    fold leaf array object (.arr items) = array (items.map (fold leaf array object)) := by
  rw [fold]
  congr 1
  induction items with
  | nil => rfl
  | cons x rest ih => rw [foldItems, ih, List.map_cons]

theorem fold_obj (fields : List (String × Json)) :
    fold leaf array object (.obj fields) =
      object (fields.map fun e => (e.1, fold leaf array object e.2)) := by
  rw [fold]
  congr 1
  induction fields with
  | nil => rfl
  | cons e rest ih => rw [foldFields, foldField, ih, List.map_cons]

end Fold

/-- How deeply arrays and objects nest. -/
def depth : Json → Nat :=
  fold (fun _ => 0) (fun ds => ds.foldr max 0 + 1) (fun es => (es.map Prod.snd).foldr max 0 + 1)

/-- Whether no number is a float. -/
def floatless : Json → Bool :=
  fold (fun | num (.float _) => false | _ => true) (·.all id) (·.all Prod.snd)

/-- A value with the members of its objects put in order, the last one of a key staying. -/
def normal : Json → Json :=
  fold id arr fun es => obj (Dict.ofEntries es)

/-- A member with its value put in order. -/
def normalField (e : String × Json) : String × Json :=
  (e.1, e.2.normal)

theorem foldr_max_le {ds : List Nat} {d : Nat} : ds.foldr max 0 ≤ d ↔ ∀ x ∈ ds, x ≤ d := by
  induction ds with
  | nil => simp
  | cons x rest ih => rw [List.foldr_cons, Nat.max_le, ih, List.forall_mem_cons]

theorem depth_arr_le {items : List Json} {d : Nat} :
    depth (.arr items) ≤ d + 1 ↔ ∀ x ∈ items, depth x ≤ d := by
  rw [depth, fold_arr, Nat.add_le_add_iff_right, foldr_max_le, List.forall_mem_map]

theorem depth_obj_le {fields : List (String × Json)} {d : Nat} :
    depth (.obj fields) ≤ d + 1 ↔ ∀ e ∈ fields, depth e.2 ≤ d := by
  rw [depth, fold_obj, Nat.add_le_add_iff_right, foldr_max_le, List.forall_mem_map,
    List.forall_mem_map]

theorem depth_arr_pos (items : List Json) : 0 < depth (.arr items) := by
  rw [depth, fold_arr]
  exact Nat.succ_pos _

theorem depth_obj_pos (fields : List (String × Json)) : 0 < depth (.obj fields) := by
  rw [depth, fold_obj]
  exact Nat.succ_pos _

theorem floatless_arr {items : List Json} :
    floatless (.arr items) = true ↔ ∀ x ∈ items, floatless x := by
  rw [floatless, fold_arr, List.all_map, List.all_eq_true]
  rfl

theorem floatless_obj {fields : List (String × Json)} :
    floatless (.obj fields) = true ↔ ∀ e ∈ fields, floatless e.2 := by
  rw [floatless, fold_obj, List.all_map, List.all_eq_true]
  rfl

theorem normal_arr (items : List Json) : normal (.arr items) = .arr (items.map normal) :=
  fold_arr _ _ _ items

theorem normal_obj (fields : List (String × Json)) :
    normal (.obj fields) = .obj (Dict.ofEntries (fields.map normalField)) :=
  fold_obj _ _ _ fields

theorem Proper.plain {j : Json} (h : j.Proper) (hfloats : j.floatless = true) : j.Plain := by
  induction h with
  | null => exact .null
  | bool b => exact .bool b
  | int h => exact .int h
  | float bits => cases hfloats
  | str s => exact .str s
  | arr _ ih => exact .arr fun x hx => ih x hx (floatless_arr.mp hfloats x hx)
  | obj _ _ ih => exact .obj fun e he => ih e he (floatless_obj.mp hfloats e he)

theorem map_normalField {fields : List (String × Json)} (h : ∀ e ∈ fields, e.2.normal = e.2) :
    fields.map normalField = fields := by
  have hfields : ∀ e ∈ fields, normalField e = e := fun e he => by
    rw [normalField, h e he]
  rw [List.map_congr_left hfields, List.map_id']

/-- A proper value is in order. -/
theorem Proper.normal_eq {j : Json} (h : j.Proper) : j.normal = j := by
  induction h with
  | null | bool b | int h | float bits | str s => rfl
  | arr _ ih => rw [normal_arr, List.map_congr_left ih, List.map_id']
  | obj horder _ ih => rw [normal_obj, map_normalField ih, Dict.ofEntries_eq_self horder]

/-- A list of strings as a value is that list of strings. -/
theorem strings?_strs (ss : List String) : (Json.arr (ss.map .str)).strings? = some ss := by
  have hmap : (ss.map Json.str).mapM Json.str? = some ss := by
    induction ss with
    | nil => rfl
    | cons s ss ih => simp [Json.str?, ih]
  exact hmap

/-! ## Reading values -/

theorem reads_null (d : Nat) : Reads (value? d) .null (compact .null) := by
  intro blank rest hb _
  rw [value?_blank hb]
  cases d <;> rfl

theorem reads_bool (d : Nat) (b : Bool) : Reads (value? d) (.bool b) (compact (.bool b)) := by
  intro blank rest hb _
  rw [value?_blank hb]
  cases d <;> cases b <;> rfl

theorem reads_num (d : Nat) {n : Number} (h : n.Legible) :
    Reads (value? d) (.num n.settled) (compact (.num n)) := by
  intro blank rest hb hrest
  rw [compact]
  obtain ⟨c, cs, hcs, hc⟩ := h.starts
  have htake := h.taken rest hrest
  rw [value?_blank hb, value?]
  rw [hcs, List.cons_append] at htake ⊢
  rw [skipBlank_token (Number.isBlank_of_starts hc)]
  -- No other token starts like a number.
  split
  case h_7 => rw [htake]; rfl
  all_goals
    rename_i heq
    exact absurd (List.cons.inj heq).1 (Number.ne_of_starts hc (by decide) rfl)

theorem reads_int (d : Nat) {n : Int} (h : Number.Held n) :
    Reads (value? d) (.num (.int n)) (compact (.num (.int n))) := by
  have hread := reads_num d (Number.legible_int h)
  rwa [Number.settled_int h] at hread

theorem value?_quote (d : Nat) (cs : List Char) :
    value? d ('\"' :: cs) = (string? cs).map fun (s, rest) => (str s, rest) := by
  cases d <;> rfl

theorem value?_bracket (d : Nat) (cs : List Char) :
    value? (d + 1) ('[' :: cs) =
      (contents? (value? d) ']' cs).map fun (xs, rest) => (arr xs, rest) :=
  rfl

theorem value?_brace (d : Nat) (cs : List Char) :
    value? (d + 1) ('{' :: cs) =
      (contents? (member? (value? d)) '}' cs).map fun (es, rest) =>
        (obj (Dict.ofEntries es), rest) :=
  rfl

theorem reads_str (d : Nat) (s : String) :
    Reads (value? d) (.str s) (compact (.str s)) := by
  intro blank rest hb _
  have hchars : compact (.str s) ++ rest = '\"' :: (s.toList.flatMap escape ++ '\"' :: rest) := by
    simp [compact, quote]
  rw [value?_blank hb, hchars, value?_quote, string?_escaped]
  rfl

section Containers

variable {β : Type} {d : Nat} {xs : List β} {spelled : β → List Char} {text : List Char}

theorem reads_arr {value : β → Json} (hread : ∀ x ∈ xs, Reads (value? d) (value x) (spelled x))
    (hopens : ∀ x ∈ xs, Opens (spelled x)) (h : Joined ']' (xs.map spelled) text) :
    Reads (value? (d + 1)) (.arr (xs.map value)) ('[' :: text) := by
  intro blank rest hb _
  rw [value?_blank hb, List.cons_append, value?_bracket,
    contents?_reads (.inl rfl) hread hopens h]
  rfl

theorem reads_obj {member : β → String × Json}
    (hread : ∀ x ∈ xs, Reads (member? (value? d)) (member x) (spelled x))
    (hopens : ∀ x ∈ xs, Opens (spelled x)) (h : Joined '}' (xs.map spelled) text) :
    Reads (value? (d + 1)) (.obj (Dict.ofEntries (xs.map member))) ('{' :: text) := by
  intro blank rest hb _
  rw [value?_blank hb, List.cons_append, value?_brace, contents?_reads (.inr rfl) hread hopens h]
  rfl

end Containers

/-- A key is read, and the colon after it. -/
theorem key?_quote (k : String) {blank between : List Char} (rest : List Char)
    (hb : Blank blank) (hc : Blank between) :
    key? (blank ++ (quote k ++ (between ++ ':' :: rest))) = some (k, rest) := by
  have hchars : quote k ++ (between ++ ':' :: rest) =
      '\"' :: (k.toList.flatMap escape ++ '\"' :: (between ++ ':' :: rest)) := by
    simp [quote]
  rw [key?, skipBlank_append hb, hchars, skipBlank_token rfl]
  simp only [string?_escaped, Option.bind_eq_bind, Option.bind_some, skipBlank_append hc]
  rw [skipBlank_token rfl]
  rfl

theorem reads_member {α : Type} {value : Reader α} {v : α} {cs : List Char}
    (h : Reads value v cs) (k : String) {blank : List Char} (hb : Blank blank) :
    Reads (member? value) (k, v) (quote k ++ ':' :: (blank ++ cs)) := by
  intro before rest hbefore hrest
  have hkey := key?_quote k (blank ++ (cs ++ rest)) hbefore blank_nil
  simp only [List.nil_append] at hkey
  simp only [List.append_assoc, List.cons_append]
  rw [member?, hkey]
  simp [h blank rest hb hrest]

/-! ## The compact text -/

/-- The first character of a text tells what kind of value it is, numbers and booleans
apart. -/
theorem compact_cons {j : Json} (h : j.Plain) :
    ∃ c cs, compact j = c :: cs ∧ isBlank c = false ∧ c ≠ ']' ∧ c ≠ '}' ∧
      (c = 'n' ↔ j = .null) ∧ (c = '\"' ↔ ∃ s, j = .str s) ∧
      (c = '[' ↔ ∃ items, j = .arr items) ∧ (c = '{' ↔ ∃ fields, j = .obj fields) := by
  cases h with
  | null => exact ⟨'n', _, rfl, rfl, by simp⟩
  | bool b =>
      cases b with
      | true => exact ⟨'t', _, rfl, rfl, by simp⟩
      | false => exact ⟨'f', _, rfl, rfl, by simp⟩
  | @int n _ =>
      obtain ⟨c, cs, hcs, hc⟩ := Number.intChars_cons n
      refine ⟨c, cs, by rw [compact, Number.chars, hcs], Number.isBlank_of_starts hc, ?_⟩
      have hmarks : c ≠ ']' ∧ c ≠ '}' ∧ c ≠ 'n' ∧ c ≠ '\"' ∧ c ≠ '[' ∧ c ≠ '{' := by
        refine ⟨?_, ?_, ?_, ?_, ?_, ?_⟩ <;> exact Number.ne_of_starts hc (by decide) rfl
      simp [hmarks]
  | str s => exact ⟨'\"', _, rfl, rfl, by simp⟩
  | arr _ => exact ⟨'[', _, rfl, rfl, by simp⟩
  | obj _ => exact ⟨'{', _, rfl, rfl, by simp⟩

theorem opens_compact {j : Json} (h : j.Plain) : Opens (compact j) := by
  obtain ⟨c, cs, hcs, hblank, hsquare, hcurly, -⟩ := compact_cons h
  rw [hcs]
  exact ⟨hblank, hsquare, hcurly⟩

theorem compactField_eq (e : String × Json) :
    compactField e = quote e.1 ++ ':' :: compact e.2 := by
  rw [compactField]

theorem opens_compactField (e : String × Json) : Opens (compactField e) := by
  rw [compactField_eq]
  exact opens_quote e.1

/-- A member is read if its value is. -/
theorem reads_compactField {d : Nat} {e : String × Json}
    (h : Reads (value? d) e.2.normal (compact e.2)) :
    Reads (member? (value? d)) (normalField e) (compactField e) := by
  have hmember := reads_member h e.1 blank_nil
  rwa [List.nil_append, ← compactField_eq] at hmember

/-- A text is read as the value that it stands for. -/
theorem reads_compact {j : Json} (h : j.Plain) {d : Nat} (hdepth : j.depth ≤ d) :
    Reads (value? d) j.normal (compact j) := by
  induction h generalizing d with
  | null => exact reads_null d
  | bool b => exact reads_bool d b
  | int h => exact reads_int d h
  | str s => exact reads_str d s
  | @arr items h ih =>
      obtain ⟨d, rfl⟩ : ∃ n, d = n + 1 := Nat.exists_eq_succ_of_ne_zero
        (Nat.ne_zero_of_lt (Nat.lt_of_lt_of_le (depth_arr_pos items) hdepth))
      rw [depth_arr_le] at hdepth
      have hread : ∀ x ∈ items, Reads (value? d) x.normal (compact x) := fun x hx =>
        ih x hx (hdepth x hx)
      rw [normal_arr, compact, List.cons_append]
      exact reads_arr hread (fun x hx => opens_compact (h x hx)) (joined_compactItems items)
  | @obj fields h ih =>
      obtain ⟨d, rfl⟩ : ∃ n, d = n + 1 := Nat.exists_eq_succ_of_ne_zero
        (Nat.ne_zero_of_lt (Nat.lt_of_lt_of_le (depth_obj_pos fields) hdepth))
      rw [depth_obj_le] at hdepth
      have hread : ∀ e ∈ fields,
          Reads (member? (value? d)) (normalField e) (compactField e) := fun e he =>
        reads_compactField (ih e he (hdepth e he))
      rw [normal_obj, compact, List.cons_append]
      exact reads_obj hread (fun e _ => opens_compactField e) (joined_compactFields fields)

theorem mem_compactItems {items : List Json} {c : Char} (h : c ∈ compactItems items) :
    c = ',' ∨ ∃ x ∈ items, c ∈ compact x := by
  induction items with
  | nil => cases h
  | cons x rest ih =>
      cases rest with
      | nil => exact .inr ⟨x, List.mem_cons_self, h⟩
      | cons y rest =>
          rw [compactItems, List.mem_append, List.mem_cons] at h
          rcases h with hx | rfl | hrest
          · exact .inr ⟨x, List.mem_cons_self, hx⟩
          · exact .inl rfl
          · refine (ih hrest).imp_right ?_
            rintro ⟨z, hz, hc⟩
            exact ⟨z, List.mem_cons_of_mem x hz, hc⟩

theorem mem_compactFields {fields : List (String × Json)} {c : Char}
    (h : c ∈ compactFields fields) : c = ',' ∨ ∃ e ∈ fields, c ∈ compactField e := by
  induction fields with
  | nil => cases h
  | cons e rest ih =>
      cases rest with
      | nil => exact .inr ⟨e, List.mem_cons_self, h⟩
      | cons f rest =>
          rw [compactFields, List.mem_append, List.mem_cons] at h
          rcases h with he | rfl | hrest
          · exact .inr ⟨e, List.mem_cons_self, he⟩
          · exact .inl rfl
          · refine (ih hrest).imp_right ?_
            rintro ⟨z, hz, hc⟩
            exact ⟨z, List.mem_cons_of_mem e hz, hc⟩

/-- A compact text is one line. -/
theorem space_le_of_mem_compact {j : Json} (h : j.Plain) {c : Char} (hc : c ∈ compact j) :
    32 ≤ c.toNat := by
  have hmarks : ∀ c ∈ ['[', ']', '\x7b', '\x7d', ',', ':'], 32 ≤ c.toNat := by simp
  induction h with
  | null =>
      have hword : ∀ c ∈ compact .null, 32 ≤ c.toNat := by simp [compact]
      exact hword c hc
  | bool b =>
      have hword : ∀ c ∈ compact (.bool b), 32 ≤ c.toNat := by cases b <;> simp [compact]
      exact hword c hc
  | int h => exact Number.space_le_of_mem_intChars hc
  | str s => exact space_le_of_mem_quote hc
  | @arr items _ ih =>
      simp only [compact, List.cons_append, List.mem_cons, List.mem_append,
        List.not_mem_nil, or_false] at hc
      rcases hc with rfl | hitem | rfl
      · exact hmarks _ (by decide)
      · rcases mem_compactItems hitem with rfl | ⟨x, hx, hc⟩
        · exact hmarks _ (by decide)
        · exact ih x hx hc
      · exact hmarks _ (by decide)
  | @obj fields _ ih =>
      simp only [compact, List.cons_append, List.mem_cons, List.mem_append,
        List.not_mem_nil, or_false] at hc
      rcases hc with rfl | hmember | rfl
      · exact hmarks _ (by decide)
      · rcases mem_compactFields hmember with rfl | ⟨e, he, hc⟩
        · exact hmarks _ (by decide)
        · rw [compactField_eq, List.mem_append, List.mem_cons] at hc
          rcases hc with hkey | rfl | hvalue
          · exact space_le_of_mem_quote hkey
          · exact hmarks _ (by decide)
          · exact ih e he hvalue
      · exact hmarks _ (by decide)

/-! ## Values that were read -/

theorem value?_of_member? {α : Type} {value : Reader α} {cs rest : List Char} {e : String × α}
    (h : member? value cs = some (e, rest)) : ∃ cs, value cs = some (e.2, rest) := by
  simp only [member?, Option.bind_eq_bind, Option.bind_eq_some_iff] at h
  obtain ⟨⟨k, after⟩, -, ⟨v, rest'⟩, hv, heq⟩ := h
  cases heq
  exact ⟨after, hv⟩

/-- A value that a reader has found which goes as deep as a bound. -/
inductive Found : Nat → Json → Prop where
  | null (d : Nat) : Found d .null
  | bool (d : Nat) (b : Bool) : Found d (.bool b)
  | num (d : Nat) {n : Number} {cs rest : List Char} (h : Number.take? cs = some (n, rest)) :
      Found d (.num n)
  | str (d : Nat) (s : String) : Found d (.str s)
  | arr {d : Nat} {items : List Json} (h : ∀ x ∈ items, Found d x) : Found (d + 1) (.arr items)
  | obj {d : Nat} {fields : Dict Json} (horder : fields.Ascending)
      (h : ∀ e ∈ fields, Found d e.2) : Found (d + 1) (.obj fields)

theorem found_of_value? {d : Nat} {cs rest : List Char} {j : Json}
    (h : value? d cs = some (j, rest)) : Found d j := by
  induction d using Nat.strongRecOn generalizing cs rest j with
  | ind d ih =>
      rw [value?] at h
      split at h
      · cases h
        exact .null d
      · cases h
        exact .bool d true
      · cases h
        exact .bool d false
      · obtain ⟨⟨s, after⟩, -, heq⟩ := Option.map_eq_some_iff.mp h
        cases heq
        exact .str d s
      · split at h
        · cases h
        · next d =>
            obtain ⟨⟨xs, after⟩, hxs, heq⟩ := Option.map_eq_some_iff.mp h
            cases heq
            refine .arr fun x hx => ?_
            obtain ⟨cs, rest, hread⟩ := of_mem_contents? hxs x hx
            exact ih d (Nat.lt_succ_self d) hread
      · split at h
        · cases h
        · next d =>
            obtain ⟨⟨es, after⟩, hes, heq⟩ := Option.map_eq_some_iff.mp h
            cases heq
            refine .obj (Dict.ascending_ofEntries es) fun e he => ?_
            obtain ⟨cs, rest, hread⟩ := of_mem_contents? hes e (Dict.mem_of_mem_ofEntries he)
            obtain ⟨cs, hvalue⟩ := value?_of_member? hread
            exact ih d (Nat.lt_succ_self d) hvalue
      · obtain ⟨⟨n, after⟩, hn, heq⟩ := Option.map_eq_some_iff.mp h
        cases heq
        exact .num d hn

theorem Found.depth_le {d : Nat} {j : Json} (h : Found d j) : j.depth ≤ d := by
  induction h with
  | null d | bool d b | num d h | str d s => exact Nat.zero_le d
  | arr _ ih => exact depth_arr_le.mpr ih
  | obj _ _ ih => exact depth_obj_le.mpr ih

theorem Found.proper {d : Nat} {j : Json} (h : Found d j) : j.Proper := by
  induction h with
  | null d => exact .null
  | bool d b => exact .bool b
  | @num d n cs rest h =>
      cases n with
      | int n => exact .int (Number.held_of_take? h)
      | float bits => exact .float bits
  | str d s => exact .str s
  | arr _ ih => exact .arr ih
  | obj horder _ ih => exact .obj horder ih

/-- What is read is a proper value. -/
theorem proper_of_value? {d : Nat} {cs rest : List Char} {j : Json}
    (h : value? d cs = some (j, rest)) : j.Proper :=
  (found_of_value? h).proper

end Tether.Json
