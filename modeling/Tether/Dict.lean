/-!
# Dictionaries and rolls of names

A dictionary is a list of entries in ascending order of their keys, and a roll
is an ascending list of names. Both are plain lists, so that they nest inside
other types, print in order without sorting, and are compared by `=`.

Look-up walks the whole list. It therefore answers correctly for every list,
ordered or not, and the laws of reading after writing below need no invariant.
Order is what `insert` adds: it keeps an ordered list ordered.
-/

namespace Tether

/-- Entries in ascending order of their keys. -/
abbrev Dict (β : Type u) := List (String × β)

namespace Dict

variable {β : Type u}

/-- The value stored under a key. -/
def find? : Dict β → String → Option β
  | [], _ => none
  | (k, v) :: rest, key => if k = key then some v else find? rest key

/-- Whether a key has a value. -/
def has (d : Dict β) (key : String) : Bool :=
  (find? d key).isSome

/-- Store a value, in place of the one the key had. -/
def put (key : String) (value : β) : Dict β → Dict β
  | [] => [(key, value)]
  | (k, v) :: rest =>
      if k = key then (key, value) :: rest
      else if key < k then (key, value) :: (k, v) :: rest
      else (k, v) :: put key value rest

/-- Remove a key and its value. -/
def drop (key : String) (d : Dict β) : Dict β :=
  d.filter fun e => e.1 ≠ key

/-- Replace the value of a key that has one. -/
def adjust (key : String) (f : β → β) (d : Dict β) : Dict β :=
  d.map fun e => if e.1 = key then (e.1, f e.2) else e

/-- The keys, in order. -/
def names (d : Dict β) : List String :=
  d.map Prod.fst

/-- The values, in the order of their keys. -/
def values (d : Dict β) : List β :=
  d.map Prod.snd

/-- A dictionary from entries in any order, the last entry of a key winning. -/
def ofEntries (entries : List (String × β)) : Dict β :=
  entries.foldl (fun d e => put e.1 e.2 d) []

@[simp] theorem find?_nil (key : String) : find? ([] : Dict β) key = none := rfl

@[simp] theorem find?_put_self (key : String) (value : β) (d : Dict β) :
    find? (put key value d) key = some value := by
  induction d with
  | nil => simp [put, find?]
  | cons e rest ih =>
      obtain ⟨k, v⟩ := e
      simp only [put]
      split
      · simp [find?]
      · split
        · simp [find?]
        · rename_i hk _
          simp [find?, hk, ih]

theorem find?_put_of_ne {key other : String} (h : key ≠ other) (value : β) (d : Dict β) :
    find? (put key value d) other = find? d other := by
  induction d with
  | nil => simp [put, find?, h]
  | cons e rest ih =>
      obtain ⟨k, v⟩ := e
      simp only [put]
      split
      · rename_i hk
        subst hk
        simp [find?, h]
      · split
        · simp [find?, h]
        · simp [find?, ih]

@[simp] theorem find?_drop_self (key : String) (d : Dict β) :
    find? (drop key d) key = none := by
  induction d with
  | nil => rfl
  | cons e rest ih =>
      obtain ⟨k, v⟩ := e
      by_cases hk : k = key
      · simpa [drop, hk] using ih
      · simp only [drop, List.filter_cons, ne_eq, hk, not_false_eq_true, decide_true,
          if_true, find?, if_false]
        exact ih

theorem find?_drop_of_ne {key other : String} (h : key ≠ other) (d : Dict β) :
    find? (drop key d) other = find? d other := by
  induction d with
  | nil => rfl
  | cons e rest ih =>
      obtain ⟨k, v⟩ := e
      by_cases hk : k = key
      · subst hk
        simp only [drop, List.filter_cons, ne_eq, not_true_eq_false, decide_false,
          Bool.false_eq_true, if_false, find?, h]
        exact ih
      · simp only [drop, List.filter_cons, ne_eq, hk, not_false_eq_true, decide_true,
          if_true, find?]
        split
        · rfl
        · exact ih

end Dict

/-- Names in ascending order, each once. -/
abbrev Roll := List String

namespace Roll

/-- Enter a name. -/
def enter (name : String) : Roll → Roll
  | [] => [name]
  | n :: rest =>
      if n = name then n :: rest
      else if name < n then name :: n :: rest
      else n :: enter name rest

/-- Strike a name. -/
def strike (name : String) (r : Roll) : Roll :=
  r.filter (· ≠ name)

/-- The roll of the names of a list in any order. -/
def ofList (names : List String) : Roll :=
  names.foldl (fun r n => enter n r) []

/-- Whether two rolls have a name in common. -/
def meets (a b : Roll) : Bool :=
  a.any b.contains

@[simp] theorem mem_enter {name other : String} {r : Roll} :
    other ∈ enter name r ↔ other = name ∨ other ∈ r := by
  induction r with
  | nil => simp [enter]
  | cons n rest ih =>
      simp only [enter]
      split
      · rename_i h
        subst h
        simp
      · split
        · simp
        · simp only [List.mem_cons, ih]
          grind

@[simp] theorem mem_strike {name other : String} {r : Roll} :
    other ∈ strike name r ↔ other ≠ name ∧ other ∈ r := by
  simp [strike, and_comm]

theorem mem_ofList {name : String} {names : List String} :
    name ∈ ofList names ↔ name ∈ names := by
  suffices h : ∀ r : Roll, name ∈ names.foldl (fun r n => enter n r) r ↔
      name ∈ names ∨ name ∈ r by
    simpa [ofList] using h []
  induction names with
  | nil => simp
  | cons n rest ih =>
      intro r
      simp only [List.foldl_cons, ih, mem_enter, List.mem_cons]
      grind

end Roll

end Tether
