import Tether.Proofs.Json.Floats
import Tether.Proofs.Json.Found
import Tether.Proofs.Json.Layout
import Tether.Proofs.Settings.Reads
import Tether.Proofs.Text.Utf8
import Tether.Settings.File

/-!
# Settings written and read back

The text of a store is read as the store, with one reservation. Settings may have come from a
file with floats in it, and a float is written with the fewest digits that tell it apart, while
a reader may make another float of them. So what is read back is the store with every number
settled (`parse?_render`). A store without floats is settled, and is read back as it was.

What has to hold of a store for this is that it is in order and that its values are ones a
file can hold (`Kempt`). Nothing but changes of settings and reading a file makes a store, and
both leave it so.
-/

namespace Tether

/-! ## Values that a file can hold -/

/-- A value of a store: it is in order, it nests no deeper than a value of a store may, and
its numbers can be read. -/
structure Json.Keepable (v : Json) : Prop where
  proper : v.Proper
  legible : v.Legible
  depth : v.depth ≤ Json.maxDepth - 3

namespace Store

/-- The entries of a scope are in order, and a file can hold their values. -/
structure KemptScope (entries : Dict Json) : Prop where
  order : entries.Ascending
  values : ∀ f ∈ entries, f.2.Keepable

/-- The store is in order, and a file can hold its values. -/
structure Kempt (s : Store) : Prop where
  trusted : Roll.Ascending s.trusted
  scopes : s.scopes.Ascending
  entries : ∀ e ∈ s.scopes, KemptScope e.2

/-- The store that the text of a store is read as. -/
def settled (s : Store) : Store :=
  { s with scopes := s.scopes.map fun e => (e.1, e.2.map Json.settledField) }

/-- No value of the store has a float in it. -/
def Floatless (s : Store) : Prop :=
  ∀ e ∈ s.scopes, ∀ f ∈ e.2, f.2.floatless = true

theorem Kempt.settled_eq {s : Store} (h : s.Kempt) (hfloats : s.Floatless) : s.settled = s := by
  have hscopes : s.scopes.map (fun e => (e.1, e.2.map Json.settledField)) = s.scopes := by
    have hentries : ∀ e ∈ s.scopes, (e.1, e.2.map Json.settledField) = e := fun e he => by
      rw [Json.map_settledField fun f hf =>
        ((h.entries e he).values f hf).proper.settled_eq (hfloats e he f hf)]
    rw [List.map_congr_left hentries, List.map_id']
  rw [settled, hscopes]

/-! ## Reading what was written -/

/-- The scopes of a store as a value. -/
def scopesJson (s : Store) : Json :=
  .obj (s.scopes.map fun e => (e.1, .obj e.2))

theorem settled_scopesJson {s : Store} (h : s.Kempt) :
    s.scopesJson.settled = s.settled.scopesJson := by
  have hentries : ∀ e ∈ s.scopes,
      Json.settledField (e.1, .obj e.2) = (e.1, .obj (e.2.map Json.settledField)) := fun e he => by
    have hascending : Dict.Ascending (e.2.map Json.settledField) := (h.entries e he).order.map _
    rw [Json.settledField, Json.settled_obj, Dict.ofEntries_eq_self hascending]
  have hfields : (s.scopes.map fun e => (e.1, Json.obj e.2)).map Json.settledField =
      s.settled.scopes.map fun e => (e.1, .obj e.2) := by
    rw [settled, List.map_map, List.map_map]
    exact List.map_congr_left hentries
  have hascending : Dict.Ascending (s.settled.scopes.map fun e => (e.1, Json.obj e.2)) :=
    Dict.Ascending.map (h.scopes.map _) _
  rw [scopesJson, scopesJson, Json.settled_obj, hfields, Dict.ofEntries_eq_self hascending]

theorem obj?_scopes (d : Dict (Dict Json)) :
    (d.map fun e => (e.1, Json.obj e.2)).mapM
      (fun e => e.2.obj?.map fun entries => (e.1, entries)) = some d := by
  induction d with
  | nil => rfl
  | cons e d ih =>
      rw [List.map_cons, List.mapM_cons, ih]
      rfl

/-- The text of a store is read as the store. -/
theorem parse?_render {s : Store} (h : s.Kempt) : parse? s.render = some s.settled := by
  have htrusted : Json.Reads Json.fieldValue? (Json.arr (s.trusted.map .str)).settled
      (Json.pretty 1 (.arr (s.trusted.map .str))) := by
    refine Json.reads_pretty (.arr ?_) (Json.depth_arr_le.mpr ?_)
    · simp only [List.forall_mem_map]
      exact fun id _ => .str id
    · simp only [List.forall_mem_map]
      exact fun id _ => Nat.zero_le _
  have hscopes : Json.Reads Json.layers? s.scopesJson.settled (Json.pretty 1 s.scopesJson) :=
    Json.reads_layers (fun e he f hf => ((h.entries e he).values f hf).legible)
      (fun e he f hf => ((h.entries e he).values f hf).depth)
  have hrecord : Json.parseRecord? documentFields s.render = some (Dict.ofEntries
      ([("trusted_devices", Json.arr (s.trusted.map .str)), ("scopes", s.scopesJson)].map
        Json.settledField)) := by
    refine Json.parseRecord?_pretty ?_ ?_
    · simp
    · simp only [List.forall_mem_cons]
      exact ⟨⟨_, rfl, htrusted⟩, ⟨_, rfl, hscopes⟩, nofun⟩
  have hdocument : Dict.ofEntries
      ([("trusted_devices", Json.arr (s.trusted.map .str)), ("scopes", s.scopesJson)].map
        Json.settledField) =
      [("scopes", s.settled.scopesJson), ("trusted_devices", .arr (s.trusted.map .str))] := by
    rw [List.map_cons, List.map_singleton, Json.settledField, Json.settledField, Json.settled_strs,
      settled_scopesJson h]
    have horder : "scopes" < "trusted_devices" := by decide
    simp [Dict.ofEntries, Dict.put, horder]
  have hfound : trustedOf?
      [("scopes", s.settled.scopesJson), ("trusted_devices", .arr (s.trusted.map .str))] =
        some s.trusted := by
    show (Json.arr (s.trusted.map .str)).strings?.map Roll.ofList = some s.trusted
    rw [Json.strings?_strs, Option.map_some, h.trusted.ofList_eq]
  have hlayers : scopesOf?
      [("scopes", s.settled.scopesJson), ("trusted_devices", .arr (s.trusted.map .str))] =
        some s.settled.scopes :=
    obj?_scopes s.settled.scopes
  rw [parse?, hrecord, hdocument]
  simp only [Option.bind_eq_bind, Option.bind_some, hfound, hlayers]
  rfl

/-! ## Changes -/

/-- A change that stores nothing but a string or a boolean. -/
def Change.Scalar : Change → Prop
  | .put _ _ value => (∃ s, value = .str s) ∨ ∃ b, value = .bool b
  | _ => True

theorem keepable_str (s : String) : (Json.str s).Keepable :=
  ⟨.str s, .str s, Nat.zero_le _⟩

theorem keepable_bool (b : Bool) : (Json.bool b).Keepable :=
  ⟨.bool b, .bool b, Nat.zero_le _⟩

theorem Change.Scalar.keepable {scope key : String} {v : Json}
    (h : (Change.put scope key v).Scalar) : v.Keepable := by
  rcases h with ⟨s, rfl⟩ | ⟨b, rfl⟩
  · exact keepable_str s
  · exact keepable_bool b

theorem Change.Scalar.floatless {scope key : String} {v : Json}
    (h : (Change.put scope key v).Scalar) : v.floatless = true := by
  rcases h with ⟨s, rfl⟩ | ⟨b, rfl⟩ <;> rfl

/-- What holds of every scope, and of one that is empty, holds after a change if no change of
a scope breaks it. -/
theorem scopes_apply {P : Dict Json → Prop} {s : Store} {c : Change} (hempty : P [])
    (hput : ∀ scope key v d, c = .put scope key v → P d → P (Dict.put key v d))
    (hdrop : ∀ key d, P d → P (Dict.drop key d)) (h : ∀ e ∈ s.scopes, P e.2) :
    ∀ e ∈ (s.apply c).scopes, P e.2 := by
  have hfilter : ∀ name, ∀ e ∈ Dict.drop name s.scopes, P e.2 := fun name e he =>
    h e (List.mem_filter.mp he).1
  have hplace : ∀ name d, P d → ∀ e ∈ Dict.put name d s.scopes, P e.2 := by
    intro name d hd e he
    rcases Dict.eq_or_mem_of_mem_put he with rfl | hmem
    · exact hd
    · exact h e hmem
  cases c with
  | put scope key v =>
      refine hplace scope _ (hput scope key v _ rfl ?_)
      rw [Store.scope]
      cases hfound : Dict.find? s.scopes scope with
      | none => exact hempty
      | some d => exact h _ (Dict.mem_of_find? hfound)
  | remove scope key =>
      rw [apply, removeFrom]
      split
      · exact h
      · next entries hfound =>
          have hentries := hdrop key entries (h _ (Dict.mem_of_find? hfound))
          split
          · exact hfilter scope
          · exact hplace scope _ hentries
  | clearScope scope => exact hfilter scope
  | setTrusted id trusted => cases trusted <;> exact h

theorem kempt_empty : Kempt {} :=
  ⟨List.Pairwise.nil, List.Pairwise.nil, nofun⟩

/-- Changes keep a store in order. -/
theorem Kempt.apply {s : Store} (h : s.Kempt) {c : Change} (hc : c.Scalar) :
    (s.apply c).Kempt := by
  refine ⟨?_, ?_, scopes_apply ⟨List.Pairwise.nil, nofun⟩ ?_ ?_ h.entries⟩
  · cases c with
    | put | clearScope => exact h.trusted
    | remove scope key => exact (trusted_remove s scope key).symm ▸ h.trusted
    | setTrusted id trusted =>
        cases trusted with
        | true => exact h.trusted.enter id
        | false => exact h.trusted.filter _
  · cases c with
    | put scope key v => exact h.scopes.put scope _
    | remove scope key =>
        rw [Store.apply, removeFrom]
        split
        · exact h.scopes
        · split
          · exact h.scopes.drop scope
          · exact h.scopes.put scope _
    | clearScope scope => exact h.scopes.drop scope
    | setTrusted id trusted => cases trusted <;> exact h.scopes
  · rintro scope key v d rfl hd
    refine ⟨hd.order.put key v, fun f hf => ?_⟩
    rcases Dict.eq_or_mem_of_mem_put hf with rfl | hmem
    · exact hc.keepable
    · exact hd.values f hmem
  · exact fun key d hd => ⟨hd.order.drop key, fun f hf => hd.values f (List.mem_filter.mp hf).1⟩

/-- No float comes from a change. -/
theorem Floatless.apply {s : Store} (h : s.Floatless) {c : Change} (hc : c.Scalar) :
    (s.apply c).Floatless := by
  refine scopes_apply (P := fun d => ∀ f ∈ d, f.2.floatless = true) nofun ?_ ?_ h
  · rintro scope key v d rfl hd f hf
    rcases Dict.eq_or_mem_of_mem_put hf with rfl | hmem
    · exact hc.floatless
    · exact hd f hmem
  · exact fun key d hd f hf => hd f (List.mem_filter.mp hf).1

/-! ## Settings from a file -/

/-- What a text is read as is in order, and can be written again. -/
theorem kempt_of_parse? {text : String} {s : Store} (h : parse? text = some s) : s.Kempt := by
  simp only [parse?, Option.bind_eq_bind, Option.bind_eq_some_iff] at h
  obtain ⟨d, hd, trusted, htrusted, scopes, hscopes, heq⟩ := h
  cases heq
  have horder : Roll.Ascending trusted := by
    rw [trustedOf?] at htrusted
    split at htrusted
    · cases htrusted
      exact List.Pairwise.nil
    · obtain ⟨names, -, rfl⟩ := Option.map_eq_some_iff.mp htrusted
      exact Roll.ascending_ofList names
  rw [scopesOf?] at hscopes
  split at hscopes
  · cases hscopes
    exact ⟨horder, List.Pairwise.nil, nofun⟩
  · next j hj =>
      obtain ⟨read, hmem, cs, rest, hread⟩ :=
        Json.of_mem_parseRecord? hd _ (Dict.mem_of_find? hj)
      have hlayers : read = Json.layers? := by
        simpa [documentFields] using hmem
      obtain ⟨layers, rfl, hlayers', hlayer, hfound⟩ := Json.of_layers? (hlayers ▸ hread)
      have hsame : some layers = some scopes := (obj?_scopes layers).symm.trans hscopes
      cases hsame
      refine ⟨horder, hlayers', fun e he => ⟨hlayer e he, fun f hf => ?_⟩⟩
      have hvalue := hfound e he f hf
      exact ⟨hvalue.proper, hvalue.legible, hvalue.depth_le⟩

end Store

/-! ## Files -/

theorem decode?_encode (text : String) :
    Text.Utf8.decode? (Text.Utf8.encode text) = some text := by
  rw [Text.Utf8.decode?, Text.Utf8.decode_encode]
  exact congrArg some String.ofList_toList

/-- The file of a store is read as the store. -/
theorem Settings.read_render {s : Store} (h : s.Kempt) :
    Settings.read (Text.Utf8.encode s.render) = .ok s.settled := by
  rw [Settings.read, decode?_encode]
  simp only [Store.parse?_render h]

/-- What is loaded from a folder can be written again. -/
theorem Settings.kempt_of_load {f : Folder} {s : Store} (h : Settings.load f = .ok s) :
    s.Kempt := by
  rw [load] at h
  split at h
  · cases h
    exact Store.kempt_empty
  · rw [read] at h
    split at h
    · cases h
    · split at h
      · next text _ store hparse =>
          cases h
          exact Store.kempt_of_parse? hparse
      · cases h
  · cases h

end Tether
