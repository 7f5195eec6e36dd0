import Tether.Json.Record
import Tether.Proofs.Json.Values

/-!
# Values laid out over lines and read back

A value that is laid out has line ends and spaces where its compact text has nothing. A
reader skips them wherever they stand, and that is built into `Joined` already. So the only
thing to see is that what stands between two items is a comma and a new line, and a new line
is blank (`joined_lines`).

Settings are laid out, and they may have come from a file with floats in it. A float is
written in a form of its own, and so the number that is read back is whatever its text says
(`settled`). Integers are settled, and so is everything that has no other numbers
(`Proper.settled_eq`).

A record is read by its own readers, one for each field. What each of them finds in the value
of its field is all that a record comes to, whether it is laid out (`parseRecord?_pretty`) or
not (`parseRecord?_compact`).
-/

namespace Tether.Json

variable {α β : Type} {level : Nat}

/-! ## Values -/

/-- The numbers are legible. -/
inductive Legible : Json → Prop where
  | null : Legible .null
  | bool (b : Bool) : Legible (.bool b)
  | num {n : Number} (h : n.Legible) : Legible (.num n)
  | str (s : String) : Legible (.str s)
  | arr {items : List Json} (h : ∀ x ∈ items, Legible x) : Legible (.arr items)
  | obj {fields : List (String × Json)} (h : ∀ e ∈ fields, Legible e.2) : Legible (.obj fields)

/-- The value that the text of a value is read as. -/
def settled : Json → Json :=
  fold (fun | num n => num n.settled | j => j) arr fun es => obj (Dict.ofEntries es)

/-- A member with the value that its text is read as. -/
def settledField (e : String × Json) : String × Json :=
  (e.1, e.2.settled)

theorem settled_arr (items : List Json) : settled (.arr items) = .arr (items.map settled) :=
  fold_arr _ _ _ items

theorem settled_obj (fields : List (String × Json)) :
    settled (.obj fields) = .obj (Dict.ofEntries (fields.map settledField)) :=
  fold_obj _ _ _ fields

theorem settled_strs (ss : List String) : (Json.arr (ss.map .str)).settled = .arr (ss.map .str) := by
  rw [settled_arr, List.map_map]
  rfl

theorem map_settledField {fields : List (String × Json)} (h : ∀ e ∈ fields, e.2.settled = e.2) :
    fields.map settledField = fields := by
  have hfields : ∀ e ∈ fields, settledField e = e := fun e he => by
    rw [settledField, h e he]
  rw [List.map_congr_left hfields, List.map_id']

/-- A value in order whose numbers are integers is read back as it was. -/
theorem Proper.settled_eq {j : Json} (h : j.Proper) (hfloats : j.floatless = true) :
    j.settled = j := by
  induction h with
  | null | bool b | str s => rfl
  | int h => exact congrArg num (Number.settled_int h)
  | float bits => cases hfloats
  | arr _ ih =>
      rw [floatless_arr] at hfloats
      rw [settled_arr, List.map_congr_left fun x hx => ih x hx (hfloats x hx), List.map_id']
  | obj horder _ ih =>
      rw [floatless_obj] at hfloats
      rw [settled_obj, map_settledField fun e he => ih e he (hfloats e he),
        Dict.ofEntries_eq_self horder]

theorem Plain.legible {j : Json} (h : j.Plain) : j.Legible := by
  induction h with
  | null => exact .null
  | bool b => exact .bool b
  | int h => exact .num (Number.legible_int h)
  | str s => exact .str s
  | arr _ ih => exact .arr ih
  | obj _ ih => exact .obj ih

/-! ## Lines -/

theorem blank_newline (level : Nat) : Blank (newline level) := by
  intro c hc
  rcases List.mem_cons.mp hc with rfl | hspace
  · rfl
  · rw [List.eq_of_mem_replicate hspace]
    rfl

/-- Items on lines of their own are items with commas and blanks between them. -/
theorem joined_lines (close : Char) (level : Nat) {spelled : β → List Char}
    {tail : List β → List Char} (hnil : tail [] = [])
    (hcons : ∀ x xs, tail (x :: xs) = ',' :: newline (level + 1) ++ spelled x ++ tail xs)
    (x : β) (xs : List β) :
    Joined close ((x :: xs).map spelled)
      (newline (level + 1) ++ spelled x ++ tail xs ++ newline level ++ [close]) := by
  induction xs generalizing x with
  | nil =>
      rw [hnil]
      have hlast := @Joined.last close _ _ (spelled x) (blank_newline (level + 1))
        (blank_newline level)
      simpa using hlast
  | cons y ys ih =>
      rw [hcons]
      have hmore := @Joined.more close _ [] (spelled x) _ _ _ (blank_newline (level + 1))
        blank_nil (ih y)
      simpa using hmore

theorem prettyField_eq (e : String × Json) :
    prettyField level e = quote e.1 ++ ':' :: ([' '] ++ pretty level e.2) := by
  rw [prettyField]
  rfl

theorem opens_prettyField (e : String × Json) : Opens (prettyField level e) := by
  rw [prettyField_eq]
  exact opens_quote e.1

theorem blank_space : Blank [' '] :=
  List.forall_mem_singleton.mpr rfl

/-- The lines of an object are its members, whatever is read of their values. -/
theorem joined_prettyFields (level : Nat) (fields : List (String × Json)) :
    ∃ text, pretty level (.obj fields) = '{' :: text ∧
      Joined '}' (fields.map (prettyField (level + 1))) text := by
  cases fields with
  | nil => exact ⟨['}'], by rw [pretty], .none blank_nil⟩
  | cons e rest =>
      have hlines := joined_lines '\x7d' level (prettyFields.eq_1 (level + 1))
        (fun x xs => prettyFields.eq_2 (level + 1) x xs) e rest
      exact ⟨_, by simp [pretty], hlines⟩

theorem joined_prettyItems (level : Nat) (items : List Json) :
    ∃ text, pretty level (.arr items) = '[' :: text ∧
      Joined ']' (items.map (pretty (level + 1))) text := by
  cases items with
  | nil => exact ⟨[']'], by rw [pretty]; rfl, .none blank_nil⟩
  | cons x rest =>
      have hlines := joined_lines ']' level (prettyItems.eq_1 (level + 1))
        (fun x xs => prettyItems.eq_2 (level + 1) x xs) x rest
      exact ⟨_, by simp [pretty], hlines⟩

theorem opens_pretty {j : Json} (h : j.Legible) : Opens (pretty level j) := by
  cases h with
  | null => exact ⟨rfl, by decide, by decide⟩
  | bool b => cases b <;> exact ⟨rfl, by decide, by decide⟩
  | num h =>
      obtain ⟨c, cs, hcs, hc⟩ := h.starts
      rw [pretty, hcs]
      exact ⟨Number.isBlank_of_starts hc, Number.ne_of_starts hc (by decide) rfl,
        Number.ne_of_starts hc (by decide) rfl⟩
  | str s => exact opens_quote s
  | @arr items _ =>
      obtain ⟨text, htext, -⟩ := joined_prettyItems level items
      rw [htext]
      exact ⟨rfl, by decide, by decide⟩
  | @obj fields _ =>
      obtain ⟨text, htext, -⟩ := joined_prettyFields level fields
      rw [htext]
      exact ⟨rfl, by decide, by decide⟩

/-- A member on a line of its own is read if its value is. -/
theorem reads_prettyField {value : Reader α} {v : α} {e : String × Json}
    (h : Reads value v (pretty level e.2)) :
    Reads (member? value) (e.1, v) (prettyField level e) := by
  rw [prettyField_eq]
  exact reads_member h e.1 blank_space

/-- A value that is laid out is read as what it is settled to. -/
theorem reads_pretty {j : Json} (h : j.Legible) {d : Nat} (hdepth : j.depth ≤ d) :
    Reads (value? d) j.settled (pretty level j) := by
  induction h generalizing d level with
  | null => exact reads_null d
  | bool b => cases b <;> exact reads_bool d _
  | num h => exact reads_num d h
  | str s => exact reads_str d s
  | @arr items h ih =>
      obtain ⟨d, rfl⟩ : ∃ n, d = n + 1 := Nat.exists_eq_succ_of_ne_zero
        (Nat.ne_zero_of_lt (Nat.lt_of_lt_of_le (depth_arr_pos items) hdepth))
      rw [depth_arr_le] at hdepth
      obtain ⟨text, htext, hjoined⟩ := joined_prettyItems level items
      rw [settled_arr, htext]
      exact reads_arr (fun x hx => ih x hx (hdepth x hx)) (fun x hx => opens_pretty (h x hx))
        hjoined
  | @obj fields h ih =>
      obtain ⟨d, rfl⟩ : ∃ n, d = n + 1 := Nat.exists_eq_succ_of_ne_zero
        (Nat.ne_zero_of_lt (Nat.lt_of_lt_of_le (depth_obj_pos fields) hdepth))
      rw [depth_obj_le] at hdepth
      obtain ⟨text, htext, hjoined⟩ := joined_prettyFields level fields
      rw [settled_obj, htext]
      exact reads_obj (fun e he => reads_prettyField (ih e he (hdepth e he)))
        (fun e _ => opens_prettyField e) hjoined

/-! ## Objects read member by member -/

/-- The members of an object are what a reader finds in their values. -/
theorem reads_prettyMembers {value : Reader α} (read : Json → α) {fields : List (String × Json)}
    (h : ∀ e ∈ fields, Reads value (read e.2) (pretty (level + 1) e.2)) :
    Reads (members? value) (fields.map fun e => (e.1, read e.2)) (pretty level (.obj fields)) := by
  obtain ⟨text, htext, hjoined⟩ := joined_prettyFields level fields
  intro blank rest hb _
  rw [htext, List.cons_append, members?, skipBlank_append hb, skipBlank_token rfl]
  exact contents?_reads (.inr rfl) (fun e he => reads_prettyField (h e he))
    (fun e _ => opens_prettyField e) hjoined rest

/-- An object of objects is read as what it is settled to. -/
theorem reads_layers {layers : List (String × List (String × Json))}
    (hlegible : ∀ e ∈ layers, ∀ f ∈ e.2, f.2.Legible)
    (hdepth : ∀ e ∈ layers, ∀ f ∈ e.2, f.2.depth ≤ maxDepth - 3) :
    Reads layers? (settled (.obj (layers.map fun e => (e.1, .obj e.2))))
      (pretty level (.obj (layers.map fun e => (e.1, .obj e.2)))) := by
  have hvalue : ∀ e ∈ layers.map fun e => (e.1, Json.obj e.2),
      Reads (members? (value? (maxDepth - 3))) ((e.2.obj?.getD []).map settledField)
        (pretty (level + 1) e.2) := by
    intro e he
    obtain ⟨layer, hlayer, rfl⟩ := List.mem_map.mp he
    exact reads_prettyMembers settled fun f hf =>
      reads_pretty (hlegible layer hlayer f hf) (hdepth layer hlayer f hf)
  have hlayers := reads_prettyMembers (fun j => (j.obj?.getD []).map settledField) hvalue
  intro blank rest hb hrest
  rw [layers?, hlayers blank rest hb hrest, settled_obj]
  simp only [List.map_map, Option.map_some]
  congr 4
  refine List.map_congr_left fun layer _ => ?_
  simp only [Function.comp_apply, settledField, settled_obj, obj?, Option.getD_some]

/-! ## Records -/

section Record

variable {fields : List Field}

/-- A member of a record is read if its field's reader reads the value. -/
theorem reads_recordMember {read : Reader Json} {k : String} {v : Json} {cs blank : List Char}
    (hlookup : fields.lookup k = some read) (h : Reads read v cs) (hb : Blank blank) :
    Reads (recordMember? fields) (some (k, v)) (quote k ++ ':' :: (blank ++ cs)) := by
  intro before rest hbefore hrest
  have hkey := key?_quote k (blank ++ (cs ++ rest)) hbefore blank_nil
  have hread := h blank rest hb hrest
  simp only [List.nil_append] at hkey
  simp only [List.append_assoc, List.cons_append]
  rw [recordMember?, hkey]
  simp [hlookup, hread]

/-- A record is read member by member, whatever stands between them. -/
theorem parseRecord?_joined {xs : List β} {member : β → String × Json}
    {spelled : β → List Char} {text : List Char}
    (hkeys : ((xs.map member).map Prod.fst).Nodup)
    (hread : ∀ x ∈ xs, Reads (recordMember? fields) (some (member x)) (spelled x))
    (hopens : ∀ x ∈ xs, Opens (spelled x)) (h : Joined '}' (xs.map spelled) text) :
    parseRecord? fields (String.ofList ('{' :: text)) =
      some (Dict.ofEntries (xs.map member)) := by
  have hcontents := contents?_reads (.inr rfl) hread hopens h []
  rw [List.append_nil] at hcontents
  have hnamed : named? fields text = some (xs.map member, []) := by
    rw [named?, hcontents]
    simp [List.filterMap_map]
  rw [parseRecord?, String.toList_ofList, skipBlank_token rfl]
  simp only [hnamed, Option.bind_eq_bind, Option.bind_some]
  exact if_pos ⟨rfl, hkeys⟩

variable {es : List (String × Json)}

/-- A record that is laid out is read field by field. -/
theorem parseRecord?_pretty (hkeys : (es.map Prod.fst).Nodup)
    (h : ∀ e ∈ es, ∃ read, fields.lookup e.1 = some read ∧
      Reads read e.2.settled (pretty 1 e.2)) :
    parseRecord? fields (prettyText (.obj es)) = some (Dict.ofEntries (es.map settledField)) := by
  obtain ⟨text, htext, hjoined⟩ := joined_prettyFields 0 es
  rw [prettyText, htext]
  refine parseRecord?_joined (by rwa [List.map_map]) (fun e he => ?_)
    (fun e _ => opens_prettyField e) hjoined
  obtain ⟨read, hlookup, hread⟩ := h e he
  rw [prettyField_eq]
  exact reads_recordMember hlookup hread blank_space

/-- A record without blanks is read field by field. -/
theorem parseRecord?_compact (hkeys : (es.map Prod.fst).Nodup)
    (h : ∀ e ∈ es, ∃ read, fields.lookup e.1 = some read ∧
      Reads read e.2.settled (compact e.2)) :
    parseRecord? fields (text (.obj es)) = some (Dict.ofEntries (es.map settledField)) := by
  rw [text, compact, List.cons_append]
  refine parseRecord?_joined (by rwa [List.map_map]) (fun e he => ?_)
    (fun e _ => opens_compactField e) (joined_compactFields es)
  obtain ⟨read, hlookup, hread⟩ := h e he
  have hmember := reads_recordMember hlookup hread blank_nil
  rwa [List.nil_append, ← compactField_eq] at hmember

end Record

end Tether.Json
