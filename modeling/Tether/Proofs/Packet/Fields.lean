import Mathlib.Data.List.Induction
import Tether.Packet.Fields
import Tether.Proofs.Dict.Order

/-!
# What is read of a body

A body is changed key by key, and a change of one key leaves the others as they are. So what is
under a key is up to the last change of that key alone (`find?_edited`).

A value is read at a type only if it is written as one of that type. What each strict reading
takes is said here by the values themselves (`Json.str?_iff` and those after it), and the getters
are compared with the readings and not with each other. All of it comes together in
`getters_agree`.
-/

namespace Tether

/-! ## Strict readings -/

namespace Json

variable {j : Json}

theorem str?_iff {s : String} : j.str? = some s ↔ j = .str s := by
  cases j <;> simp [str?]

theorem bool?_iff {b : Bool} : j.bool? = some b ↔ j = .bool b := by
  cases j <;> simp [bool?]

theorem int?_iff {n : Int} : j.int? = some n ↔ j = .num (.int n) := by
  cases j with
  | num number => cases number <;> simp [int?]
  | _ => simp [int?]

theorem intWithin?_iff {low high n : Int} :
    j.intWithin? low high = some n ↔ j = .num (.int n) ∧ low ≤ n ∧ n ≤ high := by
  rw [intWithin?, Option.filter_eq_some_iff, int?_iff, decide_eq_true_eq]

/-- An integer within bounds is read, and the default otherwise. -/
theorem getD_intWithin? (j : Json) (low high default : Int) {Within : Int → Prop}
    [DecidablePred Within] (h : ∀ n, Within n ↔ low ≤ n ∧ n ≤ high) :
    (j.intWithin? low high).getD default =
      match some j with
      | some (.num (.int n)) => if Within n then n else default
      | _ => default := by
  cases j with
  | num number =>
      cases number with
      | int n =>
          have hread : (num (.int n)).intWithin? low high =
              if low ≤ n ∧ n ≤ high then some n else none := by
            simp [intWithin?, int?, Option.filter]
          rw [hread]
          simp only [h]
          split <;> rfl
      | float bits => rfl
  | _ => rfl

end Json

namespace Packet

theorem texts?_iff {items : List Json} {names : List String} :
    texts? items = some names ↔ items = names.map .str := by
  induction items generalizing names with
  | nil => cases names <;> simp [texts?]
  | cons j rest ih =>
      cases j with
      | str s => cases names <;> simp [texts?, ih, and_comm]
      | _ => cases names <;> simp [texts?]

theorem texts?_strs (names : List String) : texts? (names.map .str) = some names :=
  texts?_iff.mpr rfl

/-- The two readers of a list of strings, item by item. -/
theorem mapM_str?_eq (items : List Json) : items.mapM Json.str? = texts? items := by
  induction items with
  | nil => rfl
  | cons j rest ih =>
      rw [List.mapM_cons, ih]
      cases j with
      | str s => cases h : texts? rest <;> simp [texts?, Json.str?, h]
      | _ => rfl

theorem strings?_iff {j : Json} {names : List String} :
    j.strings? = some names ↔ j = .arr (names.map .str) := by
  cases j with
  | arr items => simp [Json.strings?, Json.arr?, mapM_str?_eq, texts?_iff]
  | _ => simp [Json.strings?, Json.arr?]

/-! ## Changes of a body -/

/-- A change of a body. -/
inductive Edit where
  | set (key : String) (value : Json)
  | withField (key : String) (value : Json)
  | remove (key : String)
deriving Repr

namespace Edit

/-- The key that is changed. -/
def key : Edit → String
  | set key _ | withField key _ | remove key => key

/-- What is under the key afterwards. -/
def value? : Edit → Option Json
  | set _ value | withField _ value => some value
  | remove _ => none

/-- The last change of a key. -/
def last? (key : String) (edits : List Edit) : Option Edit :=
  (edits.filter fun e => e.key = key).getLast?

end Edit

/-- The packet after a change. -/
def apply (p : Packet) : Edit → Packet
  | .set key value => p.set key value
  | .withField key value => p.withField key value
  | .remove key => p.remove key

/-- The packet after changes. -/
def edited (p : Packet) (edits : List Edit) : Packet :=
  edits.foldl apply p

/-- What was left under a key by its last change, or was there before any. -/
def current (p : Packet) (edits : List Edit) (key : String) : Option Json :=
  match Edit.last? key edits with
  | some e => e.value?
  | none => Dict.find? p.body key

variable (p : Packet) (edits : List Edit) (key : String)

theorem find?_apply (e : Edit) :
    Dict.find? (p.apply e).body key = if e.key = key then e.value? else Dict.find? p.body key := by
  cases e with
  | set other value | withField other value =>
      show Dict.find? (Dict.put other value p.body) key =
        if other = key then some value else Dict.find? p.body key
      split
      · next heq => rw [heq, Dict.find?_put_self]
      · next hne => exact Dict.find?_put_of_ne hne value p.body
  | remove other =>
      show Dict.find? (Dict.drop other p.body) key =
        if other = key then none else Dict.find? p.body key
      split
      · next heq => rw [heq, Dict.find?_drop_self]
      · next hne => exact Dict.find?_drop_of_ne hne p.body

theorem current_concat (e : Edit) :
    current p (edits ++ [e]) key = if e.key = key then e.value? else current p edits key := by
  by_cases h : e.key = key
  · simp [current, Edit.last?, List.filter_append, h]
  · simp [current, Edit.last?, List.filter_append, h]

/-- The last change of a key decides what is under it. -/
theorem find?_edited : Dict.find? (p.edited edits).body key = current p edits key := by
  induction edits using List.reverseRecOn with
  | nil => rfl
  | append_singleton edits e ih =>
      rw [current_concat, ← ih, edited, List.foldl_append]
      exact find?_apply (p.edited edits) key e

theorem field?_edited {α : Type} (read : Json → Option α) :
    (p.edited edits).field? read key = (current p edits key).bind read := by
  rw [field?, find?_edited]

/-- A reading that takes a value in one spelling only takes it from the last change. -/
theorem field?_edited_iff {α : Type} {read : Json → Option α} {x : α} {j : Json} {Within : Prop}
    (h : ∀ j', read j' = some x ↔ j' = j ∧ Within) :
    (p.edited edits).field? read key = some x ↔ current p edits key = some j ∧ Within := by
  rw [field?_edited, Option.bind_eq_some_iff]
  constructor
  · rintro ⟨j', hj', hread⟩
    obtain ⟨rfl, hwithin⟩ := (h j').mp hread
    exact ⟨hj', hwithin⟩
  · rintro ⟨hj, hwithin⟩
    exact ⟨j, hj, (h j).mpr ⟨rfl, hwithin⟩⟩

/-! ## Getters -/

theorem getString_eq (default : String) :
    p.getString key default = (p.field? Strict.string.read key).getD default := by
  rw [getString, field?]
  cases Dict.find? p.body key with
  | none => rfl
  | some j => cases j <;> rfl

theorem getBool_eq (default : Bool) :
    p.getBool key default = (p.field? Strict.bool.read key).getD default := by
  rw [getBool, field?]
  cases Dict.find? p.body key with
  | none => rfl
  | some j => cases j <;> rfl

theorem getLong_eq (default : Int) :
    p.getLong key default = (p.field? Strict.int64.read key).getD default := by
  rw [getLong, field?]
  cases Dict.find? p.body key with
  | none => rfl
  | some j => exact (Json.getD_intWithin? j _ _ default fun n => by omega).symm

theorem getInt_eq (default : Int) :
    p.getInt key default = (p.field? Strict.int32.read key).getD default := by
  rw [getInt, field?]
  cases Dict.find? p.body key with
  | none => rfl
  | some j => exact (Json.getD_intWithin? j _ _ default fun n => by omega).symm

theorem getStringList?_eq : p.getStringList? key = p.field? Strict.strings.read key := by
  rw [getStringList?, field?]
  cases Dict.find? p.body key with
  | none => rfl
  | some j =>
      cases j with
      | arr items => exact (mapM_str?_eq items).symm
      | _ => rfl

/-- After any changes, a key has a value if its last change left one there. Each getter gives
what the strict reading at its type gives of that value, or the default, and each strict reading
gives what is written as of its type and nothing else. -/
theorem getters_agree (p : Packet) (edits : List Edit) (key : String) :
    let q := p.edited edits
    (q.has key = true ↔
      (∃ e, Edit.last? key edits = some e ∧ e.value?.isSome) ∨
        Edit.last? key edits = none ∧ p.has key = true) ∧
    (∀ default, q.getString key default = (q.field? Strict.string.read key).getD default) ∧
    (∀ default, q.getBool key default = (q.field? Strict.bool.read key).getD default) ∧
    (∀ default, q.getInt key default = (q.field? Strict.int32.read key).getD default) ∧
    (∀ default, q.getLong key default = (q.field? Strict.int64.read key).getD default) ∧
    q.getStringList? key = q.field? Strict.strings.read key ∧
    (q.field? Strict.strings.read key = none → q.getStringSet? key = none) ∧
    (∀ names, q.field? Strict.strings.read key = some names →
      ∃ set, q.getStringSet? key = some set ∧ set.Nodup ∧ ∀ name, name ∈ set ↔ name ∈ names) ∧
    (∀ s, q.field? Strict.string.read key = some s ↔
      current p edits key = some (.str s)) ∧
    (∀ b, q.field? Strict.bool.read key = some b ↔
      current p edits key = some (.bool b)) ∧
    (∀ n, q.field? Strict.int32.read key = some n ↔
      current p edits key = some (.num (.int n)) ∧ -2147483648 ≤ n ∧ n ≤ 2147483647) ∧
    (∀ n, q.field? Strict.int64.read key = some n ↔
      current p edits key = some (.num (.int n)) ∧
        -9223372036854775808 ≤ n ∧ n ≤ 9223372036854775807) ∧
    ∀ names, q.field? Strict.strings.read key = some names ↔
      current p edits key = some (.arr (names.map .str)) := by
  intro q
  refine ⟨?_, getString_eq q key, getBool_eq q key, getInt_eq q key, getLong_eq q key,
    getStringList?_eq q key, ?_, ?_, ?_, ?_, ?_, ?_, ?_⟩
  · rw [has, Dict.has, find?_edited, current]
    cases h : Edit.last? key edits with
    | some e => simp
    | none => simp [has, Dict.has]
  · intro hnone
    rw [getStringSet?, getStringList?_eq, hnone]
    rfl
  · intro names hnames
    refine ⟨Roll.ofList names, ?_, (Roll.ascending_ofList names).nodup, fun name => ?_⟩
    · rw [getStringSet?, getStringList?_eq, hnames]
      rfl
    · exact Roll.mem_ofList
  · intro s
    simp [q, field?_edited, Option.bind_eq_some_iff, Strict.string, Json.str?_iff]
  · intro b
    simp [q, field?_edited, Option.bind_eq_some_iff, Strict.bool, Json.bool?_iff]
  · intro n
    exact field?_edited_iff p edits key fun j => Json.intWithin?_iff
  · intro n
    exact field?_edited_iff p edits key fun j => Json.intWithin?_iff
  · intro names
    simp [q, field?_edited, Option.bind_eq_some_iff, Strict.strings, strings?_iff]

/-- One past the greatest integer of thirty-two bits, after the same number as text; a list with
an item that is no text, and one that names a thing twice; a key that is no longer there. -/
theorem getters_agree_at_edges :
    let p : Packet := { id := 1, type := "kdeconnect.ping", body := [("gone", .bool true)] }
    let edits : List Edit :=
      [.set "n" (.str "2147483648"), .withField "n" (.num (.int 2147483648)),
        .set "mixed" (.arr [.str "a", .num (.int 1)]),
        .set "twice" (.arr [.str "b", .str "a", .str "b"]), .remove "gone"]
    let q := p.edited edits
    q.getInt "n" 7 = 7 ∧ q.getLong "n" 7 = 2147483648 ∧ q.getString "n" "none" = "none" ∧
      q.getStringSet? "mixed" = none ∧
      (∃ set, q.getStringSet? "twice" = some set ∧ set.Nodup ∧
        ∀ name, name ∈ set ↔ name ∈ ["b", "a", "b"]) ∧
      ¬q.has "gone" = true := by
  intro p edits q
  obtain ⟨-, hstring, -, hint, hlong, -⟩ := getters_agree p edits "n"
  obtain ⟨-, -, -, -, -, -, hnone, -⟩ := getters_agree p edits "mixed"
  obtain ⟨-, -, -, -, -, -, -, hset, -⟩ := getters_agree p edits "twice"
  refine ⟨(hint 7).trans (by decide), (hlong 7).trans (by decide),
    (hstring "none").trans (by decide), hnone (by decide), hset _ (by decide), ?_⟩
  rw [(getters_agree p edits "gone").1]
  decide

end Packet

end Tether
