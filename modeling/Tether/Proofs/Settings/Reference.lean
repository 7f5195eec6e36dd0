import Mathlib.Data.Finset.Sort
import Tether.Proofs.Settings.Kept

/-!
# One store behind all settings

What settings are meant to be is simple: under a scope and a key there is a text, a flag or
nothing, and besides there is a set of trusted ids (`Reference`). A scope is not a thing of its
own, and nothing has an order.

Settings in memory are scopes of entries, and drop a scope with its last entry. Settings in a
file are a text besides, and may be dropped and read again at any time. Neither shows: every
reading answers as the reference does (`answers`). For settings in memory that is one lemma
about a change (`Mirrors.apply`) and an induction, and in a file the settings in memory and those
in the file are the same all the time.
-/

namespace Tether.Settings

/-- What can be stored under a key. -/
inductive Value where
  | text (s : String)
  | flag (b : Bool)
deriving DecidableEq

namespace Value

/-- The value as settings have it. -/
def json : Value → Json
  | text s => .str s
  | flag b => .bool b

/-- The text that a value is. -/
def text? : Value → Option String
  | text s => some s
  | flag _ => none

/-- The flag that a value is. -/
def flag? : Value → Option Bool
  | text _ => none
  | flag b => some b

end Value

/-- An operation on settings. -/
inductive Edit where
  | putString (scope key value : String)
  | putBool (scope key : String) (value : Bool)
  | remove (scope key : String)
  | clearScope (scope : String)
  | setTrusted (id : String) (trusted : Bool)
deriving DecidableEq

/-- The change that an operation makes. -/
def Edit.change : Edit → Store.Change
  | putString scope key value => .putString scope key value
  | putBool scope key value => .putBool scope key value
  | remove scope key => .remove scope key
  | clearScope scope => .clearScope scope
  | setTrusted id trusted => .setTrusted id trusted

theorem Edit.scalar (e : Edit) : e.change.Scalar := by
  cases e with
  | putString scope key value => exact .inl ⟨value, rfl⟩
  | putBool scope key value => exact .inr ⟨value, rfl⟩
  | remove | clearScope | setTrusted => trivial

/-- What settings are meant to be. -/
structure Reference where
  value? : String → String → Option Value := fun _ _ => none
  trusted : Finset String := ∅

namespace Reference

/-- The reference with another value under a scope and a key. -/
def put (r : Reference) (scope key : String) (v : Value) : Reference :=
  { r with value? := fun name other =>
      if scope = name ∧ key = other then some v else r.value? name other }

/-- The reference after an operation. -/
def apply (r : Reference) : Edit → Reference
  | .putString scope key value => r.put scope key (.text value)
  | .putBool scope key value => r.put scope key (.flag value)
  | .remove scope key =>
      { r with value? := fun name other =>
          if scope = name ∧ key = other then none else r.value? name other }
  | .clearScope scope =>
      { r with value? := fun name other => if scope = name then none else r.value? name other }
  | .setTrusted id true => { r with trusted := insert id r.trusted }
  | .setTrusted id false => { r with trusted := r.trusted.erase id }

end Reference

/-- Every reading of settings answers as the reference. -/
structure Answers (s : Store) (r : Reference) : Prop where
  getString : ∀ scope key, s.getString? scope key = (r.value? scope key).bind Value.text?
  getBool : ∀ scope key, s.getBool? scope key = (r.value? scope key).bind Value.flag?
  trusted : s.trusted = r.trusted.sort
  isTrusted : ∀ id, s.isTrusted id = decide (id ∈ r.trusted)

/-- Settings have what the reference has. -/
structure Mirrors (s : Store) (r : Reference) : Prop where
  values : ∀ scope key, s.find? scope key = (r.value? scope key).map Value.json
  trusted : ∀ id, s.isTrusted id = true ↔ id ∈ r.trusted
  order : Roll.Ascending s.trusted

theorem Mirrors.answers {s : Store} {r : Reference} (h : Mirrors s r) : Answers s r where
  getString scope key := by
    rw [Store.getString?, h.values]
    cases r.value? scope key with
    | none => rfl
    | some v => cases v <;> rfl
  getBool scope key := by
    rw [Store.getBool?, h.values]
    cases r.value? scope key with
    | none => rfl
    | some v => cases v <;> rfl
  trusted := by
    have hmem : ∀ id, id ∈ s.trusted ↔ id ∈ r.trusted.sort := fun id => by
      rw [Finset.mem_sort, ← h.trusted, Store.isTrusted, List.contains_iff_mem]
    exact h.order.ext (Finset.sortedLT_sort _).pairwise hmem
  isTrusted id := by
    rw [Bool.eq_iff_iff, decide_eq_true_iff, h.trusted]

/-- A change of trust is the same change of the set. -/
theorem Mirrors.setTrusted {s : Store} {r : Reference} (h : Mirrors s r) (id : String)
    (trusted : Bool) :
    Mirrors (s.apply (.setTrusted id trusted)) (r.apply (.setTrusted id trusted)) := by
  have hmem : ∀ other, other ∈ s.trusted ↔ other ∈ r.trusted := fun other => by
    rw [← h.trusted, Store.isTrusted, List.contains_iff_mem]
  cases trusted with
  | true =>
      refine ⟨fun scope key => ?_, fun other => ?_, h.order.enter id⟩
      · rw [Store.find?_setTrusted, h.values]
        rfl
      · simp [Store.isTrusted, Store.apply, Reference.apply, hmem]
  | false =>
      refine ⟨fun scope key => ?_, fun other => ?_, h.order.filter _⟩
      · rw [Store.find?_setTrusted, h.values]
        rfl
      · simp [Store.isTrusted, Store.apply, Reference.apply, hmem]

/-- An operation does to settings what it does to the reference. -/
theorem Mirrors.apply {s : Store} {r : Reference} (h : Mirrors s r) (e : Edit) :
    Mirrors (s.apply e.change) (r.apply e) := by
  have hput : ∀ scope key v, Mirrors (s.apply (.put scope key v.json)) (r.put scope key v) := by
    intro scope key v
    refine ⟨fun name other => ?_, h.trusted, h.order⟩
    rw [Store.find?_put]
    show _ = Option.map Value.json (if scope = name ∧ key = other then _ else _)
    split
    · rfl
    · exact h.values name other
  cases e with
  | putString scope key value => exact hput scope key (.text value)
  | putBool scope key value => exact hput scope key (.flag value)
  | remove scope key =>
      refine ⟨fun name other => ?_, fun id => ?_, ?_⟩
      · rw [Edit.change, Store.find?_remove]
        show _ = Option.map Value.json (if scope = name ∧ key = other then _ else _)
        split
        · rfl
        · exact h.values name other
      · rw [Edit.change, Store.isTrusted_remove]
        exact h.trusted id
      · rw [Edit.change, Store.trusted_remove]
        exact h.order
  | clearScope scope =>
      refine ⟨fun name other => ?_, h.trusted, h.order⟩
      rw [Edit.change, Store.find?_clearScope]
      show _ = Option.map Value.json (if scope = name then _ else _)
      split
      · rfl
      · exact h.values name other
  | setTrusted id trusted => exact h.setTrusted id trusted

theorem mirrors_empty : Mirrors {} {} :=
  ⟨fun _ _ => rfl, fun id => by simp [Store.isTrusted], List.Pairwise.nil⟩

/-! ## Runs -/

/-- A step of settings in a file. -/
inductive Step where
  | edit (e : Edit)
  /-- The settings are dropped and opened again. -/
  | reopen
deriving DecidableEq

/-- The operation that a step is. -/
def Step.edit? : Step → Option Edit
  | edit e => some e
  | reopen => none

/-- The settings that a folder is opened with. -/
def start (f : Folder) : Except Fault Kept :=
  match Settings.open f with
  | (.ok store, folder) => .ok ⟨store, folder⟩
  | (.error fault, _) => .error fault

/-- The settings after a step. -/
def Kept.take (k : Kept) : Step → Except Fault Kept
  | .edit e =>
      match k.apply e.change with
      | (.ok (), k) => .ok k
      | (.error fault, _) => .error fault
  | .reopen => start k.folder

/-- The reference after operations. -/
def Reference.run (edits : List Edit) : Reference :=
  edits.foldl Reference.apply {}

theorem mirrors_run (edits : List Edit) {s : Store} {r : Reference} (h : Mirrors s r) :
    Mirrors ((edits.map Edit.change).foldl Store.apply s) (edits.foldl Reference.apply r) := by
  induction edits generalizing s r with
  | nil => exact h
  | cons e edits ih => exact ih (h.apply e)

/-- Steps succeed, and settings in a file mirror the reference after each of them. -/
theorem Kept.Sound.run {k : Kept} {r : Reference} (h : k.Sound) (hr : Mirrors k.store r)
    (steps : List Step) :
    ∃ k' : Kept, steps.foldlM Kept.take k = .ok k' ∧ k'.Sound ∧
      Mirrors k'.store ((steps.filterMap Step.edit?).foldl Reference.apply r) := by
  induction steps generalizing k r with
  | nil => exact ⟨k, rfl, h, hr⟩
  | cons step steps ih =>
      cases step with
      | edit e =>
          obtain ⟨k', happly, hstore, hsound⟩ := h.apply e.scalar
          have htake : k.take (.edit e) = .ok k' := by
            rw [Kept.take, happly]
          rw [List.foldlM_cons, htake]
          exact ih hsound (hstore ▸ hr.apply e)
      | reopen =>
          have htake : k.take .reopen = .ok k := by
            rw [Kept.take, start, h.reopen]
          rw [List.foldlM_cons, htake]
          exact ih h hr

/-- Settings in memory and settings in a file both answer every reading as the reference does,
after any operations from empty settings on. Those in a file may be dropped and opened again
between any two operations, and no operation fails. -/
theorem answers_as_reference {f : Folder} (hf : f.Fresh) :
    (∀ edits : List Edit, Answers ((edits.map Edit.change).foldl Store.apply {})
      (Reference.run edits)) ∧
    ∀ steps : List Step, ∃ k : Kept, (start f).bind (fun k => steps.foldlM Kept.take k) = .ok k ∧
      Answers k.store (Reference.run (steps.filterMap Step.edit?)) := by
  refine ⟨fun edits => (mirrors_run edits mirrors_empty).answers, fun steps => ?_⟩
  obtain ⟨folder, hopen, hsound⟩ := Kept.sound_fresh hf
  obtain ⟨k, hrun, -, hmirrors⟩ := hsound.run mirrors_empty steps
  refine ⟨k, ?_, hmirrors.answers⟩
  rw [start, hopen]
  exact hrun

/-- A text gives way to a flag under the same key, and the settings are opened again twice. -/
theorem answers_after_reopening :
    Folder.Fresh .absent ∧
      ∃ k : Kept, (start .absent).bind (fun k => [Step.edit (.putString "phone" "muted" "a\n\"b\""),
          .reopen, .edit (.putBool "phone" "muted" true), .edit (.setTrusted "phone" true),
          .reopen].foldlM Kept.take k) = .ok k ∧
        k.store.getString? "phone" "muted" = none ∧
        k.store.getBool? "phone" "muted" = some true ∧ k.store.isTrusted "phone" = true := by
  have hfresh : Folder.Fresh .absent := trivial
  obtain ⟨k, hrun, h⟩ := (answers_as_reference hfresh).2
    [.edit (.putString "phone" "muted" "a\n\"b\""), .reopen, .edit (.putBool "phone" "muted" true),
      .edit (.setTrusted "phone" true), .reopen]
  refine ⟨hfresh, k, hrun, ?_, ?_, ?_⟩
  · rw [h.getString]
    rfl
  · rw [h.getBool]
    rfl
  · rw [h.isTrusted]
    rfl

end Tether.Settings
