import Tether.Settings.Ledger

/-!
# Reading settings after writing them

What a change of a store does to what can be read from it, one lemma for each kind of
change and reading. Trust and values are kept apart: no value is changed by trust, and
no trust by a value.

A ledger may refuse a write. One that never does is called reliable, and then a write
is the change of the store.
-/

namespace Tether

namespace Store

variable (s : Store)

@[simp] theorem isTrusted_put (scope key id : String) (value : Json) :
    (s.apply (.put scope key value)).isTrusted id = s.isTrusted id := rfl

/-- No values that are put make an id trusted or not trusted. -/
theorem isTrusted_puts {changes : List Change}
    (h : ∀ c ∈ changes, ∃ scope key value, c = .put scope key value) (id : String) :
    (changes.foldl apply s).isTrusted id = s.isTrusted id := by
  induction changes generalizing s with
  | nil => rfl
  | cons c rest ih =>
      obtain ⟨scope, key, value, rfl⟩ := h c List.mem_cons_self
      rw [List.foldl_cons, ih _ fun c hc => h c (List.mem_cons_of_mem _ hc), isTrusted_put]

@[simp] theorem isTrusted_clearScope (scope id : String) :
    (s.apply (.clearScope scope)).isTrusted id = s.isTrusted id := rfl

@[simp] theorem isTrusted_setTrusted_self (id : String) (trusted : Bool) :
    (s.apply (.setTrusted id trusted)).isTrusted id = trusted := by
  cases trusted <;> simp [apply, isTrusted]

@[simp] theorem find?_setTrusted (id scope key : String) (trusted : Bool) :
    (s.apply (.setTrusted id trusted)).find? scope key = s.find? scope key := by
  cases trusted <;> rfl

theorem scope_put_self (name key : String) (value : Json) :
    (s.apply (.put name key value)).scope name = Dict.put key value (s.scope name) := by
  simp [apply, scope]

@[simp] theorem find?_put_same (scope key : String) (value : Json) :
    (s.apply (.put scope key value)).find? scope key = some value := by
  rw [find?, scope_put_self, Dict.find?_put_self]

theorem find?_put_other {key other : String} (h : key ≠ other) (scope : String)
    (value : Json) :
    (s.apply (.put scope key value)).find? scope other = s.find? scope other := by
  rw [find?, scope_put_self, Dict.find?_put_of_ne h, find?]

theorem scope_put_other {name other : String} (h : name ≠ other) (key : String) (value : Json) :
    (s.apply (.put name key value)).scope other = s.scope other := by
  simp [apply, scope, Dict.find?_put_of_ne h]

theorem scope_clearScope (name other : String) :
    (s.apply (.clearScope name)).scope other = if name = other then [] else s.scope other := by
  split
  · next h => simp [apply, scope, h]
  · next h => simp [apply, scope, Dict.find?_drop_of_ne h]

/-- A scope that is left empty is gone, and that is not told from a scope without entries. -/
theorem scope_remove (name key other : String) :
    (s.apply (.remove name key)).scope other =
      if name = other then Dict.drop key (s.scope other) else s.scope other := by
  rw [apply, removeFrom]
  split
  · next hnone =>
      split
      · next h =>
          rw [scope, ← h, hnone]
          rfl
      · rfl
  · next entries hfound =>
      have hentries : s.scope name = entries := by
        rw [scope, hfound]
        rfl
      split
      · next hempty =>
          split
          · next h =>
              rw [← h, hentries, hempty]
              simp [scope]
          · next h => simp [scope, Dict.find?_drop_of_ne h]
      · split
        · next h =>
            rw [← h, hentries]
            simp [scope]
        · next h => simp [scope, Dict.find?_put_of_ne h]

/-! ## Values after any change -/

variable (scope key name other : String)

theorem find?_put (value : Json) :
    (s.apply (.put scope key value)).find? name other =
      if scope = name ∧ key = other then some value else s.find? name other := by
  by_cases hscope : scope = name
  · subst hscope
    by_cases hkey : key = other
    · subst hkey
      simp
    · simp [find?_put_other s hkey, hkey]
  · simp [find?, scope_put_other s hscope, hscope]

theorem find?_remove :
    (s.apply (.remove scope key)).find? name other =
      if scope = name ∧ key = other then none else s.find? name other := by
  rw [find?, scope_remove]
  by_cases hscope : scope = name
  · by_cases hkey : key = other
    · simp [hscope, hkey]
    · simp [hscope, hkey, Dict.find?_drop_of_ne hkey, find?]
  · simp [hscope, find?]

theorem find?_clearScope :
    (s.apply (.clearScope scope)).find? name other =
      if scope = name then none else s.find? name other := by
  rw [find?, scope_clearScope]
  split <;> rfl

theorem trusted_remove : (s.apply (.remove scope key)).trusted = s.trusted := by
  rw [apply, removeFrom]
  split
  · rfl
  · split <;> rfl

theorem isTrusted_remove (id : String) :
    (s.apply (.remove scope key)).isTrusted id = s.isTrusted id := by
  rw [isTrusted, trusted_remove, isTrusted]

end Store

namespace Ledger

/-- No write fails. -/
def Reliable (l : Ledger) : Prop :=
  ∀ n, l.refusal n = none

theorem write_refusal (l : Ledger) (c : Store.Change) :
    (l.write c).2.refusal = l.refusal := by
  rw [write]; split <;> rfl

theorem Reliable.write {l : Ledger} (h : l.Reliable) (c : Store.Change) :
    (l.write c).2.Reliable := by
  intro n
  rw [write_refusal]
  exact h n

theorem Reliable.write_eq {l : Ledger} (h : l.Reliable) (c : Store.Change) :
    l.write c = (.ok (), { l with store := l.store.apply c, writes := l.writes + 1 }) := by
  rw [Ledger.write, h]

end Ledger

end Tether
