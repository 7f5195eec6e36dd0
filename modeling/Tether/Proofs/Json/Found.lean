import Tether.Json.Record
import Tether.Proofs.Json.Values

/-!
# What readers find

Whatever stands in an object or a record was found by the reader of its place. For a record
that is the reader of its field, whether the record is an object or an array
(`of_mem_parseRecord?`). An object of objects is in order on both levels, and its values were
found by the reader of values (`of_layers?`). None of it depends on how a text is laid out, or
on who wrote it.
-/

namespace Tether.Json

variable {α : Type}

/-! ## Objects -/

/-- What is found under a key was read there. -/
theorem of_mem_members? {value : Reader α} {cs rest : List Char} {es : List (String × α)}
    (h : members? value cs = some (es, rest)) :
    ∀ e ∈ es, ∃ cs rest, value cs = some (e.2, rest) := by
  intro e he
  rw [members?] at h
  split at h
  · obtain ⟨cs, rest, hread⟩ := of_mem_contents? h e he
    obtain ⟨cs, hvalue⟩ := value?_of_member? hread
    exact ⟨cs, rest, hvalue⟩
  · cases h

/-- An object of objects is in order on both levels. -/
theorem of_layers? {cs rest : List Char} {j : Json} (h : layers? cs = some (j, rest)) :
    ∃ layers : Dict (Dict Json), j = .obj (layers.map fun e => (e.1, .obj e.2)) ∧
      layers.Ascending ∧ (∀ e ∈ layers, Dict.Ascending e.2) ∧
        ∀ e ∈ layers, ∀ f ∈ e.2, Found (maxDepth - 3) f.2 := by
  obtain ⟨⟨read, after⟩, hread, heq⟩ := Option.map_eq_some_iff.mp h
  cases heq
  have hlayers : Dict.ofEntries (read.map fun e => (e.1, obj (Dict.ofEntries e.2))) =
      (Dict.ofEntries read).map fun e => (e.1, obj (Dict.ofEntries e.2)) :=
    Dict.ofEntries_map (fun es => obj (Dict.ofEntries es)) read
  refine ⟨(Dict.ofEntries read).map fun e => (e.1, Dict.ofEntries e.2), ?_,
    (Dict.ascending_ofEntries read).map _, ?_, ?_⟩
  · rw [hlayers, List.map_map]
    rfl
  · exact List.forall_mem_map.mpr fun e _ => Dict.ascending_ofEntries e.2
  · refine List.forall_mem_map.mpr fun e he f hf => ?_
    obtain ⟨cs, rest, hlayer⟩ := of_mem_members? hread e (Dict.mem_of_mem_ofEntries he)
    obtain ⟨cs, rest, hvalue⟩ := of_mem_members? hlayer f (Dict.mem_of_mem_ofEntries hf)
    exact found_of_value? hvalue

/-! ## Records -/

/-- A value was found by the reader of its field. -/
def FoundIn (fields : List Field) (e : String × Json) : Prop :=
  ∃ read, (e.1, read) ∈ fields ∧ ∃ cs rest, read cs = some (e.2, rest)

theorem of_mem_named? {fields : List Field} {cs rest : List Char} {es : List (String × Json)}
    (h : named? fields cs = some (es, rest)) : ∀ e ∈ es, FoundIn fields e := by
  intro e he
  obtain ⟨⟨ms, after⟩, hms, heq⟩ := Option.map_eq_some_iff.mp h
  cases heq
  obtain ⟨m, hm, rfl⟩ := List.mem_filterMap.mp he
  obtain ⟨cs, rest, hread⟩ := of_mem_contents? hms _ hm
  simp only [recordMember?, Option.bind_eq_bind, Option.bind_eq_some_iff] at hread
  obtain ⟨⟨k, after⟩, -, hread⟩ := hread
  split at hread
  · next read hlookup =>
      obtain ⟨⟨v, after⟩, hv, heq⟩ := Option.bind_eq_some_iff.mp hread
      cases heq
      obtain ⟨before, behind, hfields, -⟩ := List.lookup_eq_some_iff.mp hlookup
      exact ⟨read, hfields ▸ List.mem_append_right _ List.mem_cons_self, _, _, hv⟩
  · obtain ⟨⟨_, after⟩, -, heq⟩ := Option.bind_eq_some_iff.mp hread
    cases heq

theorem of_mem_inOrder? {fields : List Field} {cs rest : List Char} {es : List (String × Json)}
    (h : inOrder? fields cs = some (es, rest)) : ∀ e ∈ es, FoundIn fields e := by
  induction fields generalizing cs es with
  | nil => cases h
  | cons field fields ih =>
      obtain ⟨k, read⟩ := field
      simp only [inOrder?, Option.bind_eq_bind, Option.bind_eq_some_iff] at h
      obtain ⟨⟨v, after⟩, hv, h⟩ := h
      have hfirst : FoundIn ((k, read) :: fields) (k, v) :=
        ⟨read, List.mem_cons_self, _, _, hv⟩
      split at h
      · obtain ⟨⟨vs, after'⟩, hvs, heq⟩ := Option.bind_eq_some_iff.mp h
        cases heq
        refine List.forall_mem_cons.mpr ⟨hfirst, fun e he => ?_⟩
        obtain ⟨read, hmem, hread⟩ := ih hvs e he
        exact ⟨read, List.mem_cons_of_mem _ hmem, hread⟩
      · cases h
        exact List.forall_mem_singleton.mpr hfirst
      · cases h

/-- The fields of an array may be missing from some place on. -/
theorem of_mem_listed? {fields : List Field} {cs rest : List Char} {es : List (String × Json)}
    (h : listed? fields cs = some (es, rest)) : ∀ e ∈ es, FoundIn fields e := by
  rw [listed?] at h
  split at h
  · cases h
    exact nofun
  · exact of_mem_inOrder? h

/-- What is found in a record was found by the readers of its fields. -/
theorem of_mem_parseRecord? {fields : List Field} {text : String} {d : Dict Json}
    (h : parseRecord? fields text = some d) : ∀ e ∈ d, FoundIn fields e := by
  have hentered : ∀ found : List (String × Json) × List Char,
      (if skipBlank found.2 = [] ∧ (found.1.map Prod.fst).Nodup then
        some (Dict.ofEntries found.1) else none) = some d → ∀ e ∈ d, e ∈ found.1 := by
    intro found h
    obtain ⟨-, heq⟩ := Option.ite_none_right_eq_some.mp h
    cases heq
    exact fun e => Dict.mem_of_mem_ofEntries
  intro e he
  simp only [parseRecord?, Option.bind_eq_bind] at h
  split at h
  · obtain ⟨found, hfound, h⟩ := Option.bind_eq_some_iff.mp h
    exact of_mem_named? hfound e (hentered found h e he)
  · obtain ⟨found, hfound, h⟩ := Option.bind_eq_some_iff.mp h
    exact of_mem_listed? hfound e (hentered found h e he)
  · cases h

end Tether.Json
