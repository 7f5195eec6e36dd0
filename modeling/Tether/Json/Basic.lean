import Tether.Binary64.Basic
import Tether.Dict

/-!
# JSON values

Integers and floats are different numbers: `1` is never equal to `1.0`. An
integer is one that sixty-four bits can hold, signed or not; every other number
is a float, kept as the word of its bits.

Objects are dictionaries. Whatever order a text gives its members in, the value
has them in ascending order of their keys, each key once.
-/

namespace Tether

/-- A number of a JSON text. -/
inductive Json.Number where
  | int (value : Int)
  | float (bits : UInt64)
deriving DecidableEq, Repr

/-- A JSON value. -/
inductive Json where
  | null
  | bool (value : Bool)
  | num (value : Json.Number)
  | str (value : String)
  | arr (items : List Json)
  | obj (fields : List (String × Json))
deriving Repr

namespace Json

instance : Inhabited Json := ⟨null⟩

mutual

/-- Whether two values are written alike. -/
def decEq : (a b : Json) → Decidable (a = b)
  | null, null => isTrue rfl
  | bool a, bool b => decidable_of_iff (a = b) (by simp)
  | num a, num b => decidable_of_iff (a = b) (by simp)
  | str a, str b => decidable_of_iff (a = b) (by simp)
  | arr a, arr b => let _ := decEqItems a b; decidable_of_iff (a = b) (by simp)
  | obj a, obj b => let _ := decEqFields a b; decidable_of_iff (a = b) (by simp)
  | null, bool _ | null, num _ | null, str _ | null, arr _ | null, obj _
  | bool _, null | bool _, num _ | bool _, str _ | bool _, arr _ | bool _, obj _
  | num _, null | num _, bool _ | num _, str _ | num _, arr _ | num _, obj _
  | str _, null | str _, bool _ | str _, num _ | str _, arr _ | str _, obj _
  | arr _, null | arr _, bool _ | arr _, num _ | arr _, str _ | arr _, obj _
  | obj _, null | obj _, bool _ | obj _, num _ | obj _, str _ | obj _, arr _ =>
      isFalse (by simp)

@[inherit_doc decEq]
def decEqItems : (a b : List Json) → Decidable (a = b)
  | [], [] => isTrue rfl
  | [], _ :: _ | _ :: _, [] => isFalse (by simp)
  | x :: xs, y :: ys =>
      let _ := decEq x y
      let _ := decEqItems xs ys
      decidable_of_iff (x = y ∧ xs = ys) (by simp)

@[inherit_doc decEq]
def decEqField : (a b : String × Json) → Decidable (a = b)
  | (k, x), (l, y) =>
      let _ := decEq x y
      decidable_of_iff (k = l ∧ x = y) (by simp)

@[inherit_doc decEq]
def decEqFields : (a b : List (String × Json)) → Decidable (a = b)
  | [], [] => isTrue rfl
  | [], _ :: _ | _ :: _, [] => isFalse (by simp)
  | x :: xs, y :: ys =>
      let _ := decEqField x y
      let _ := decEqFields xs ys
      decidable_of_iff (x = y ∧ xs = ys) (by simp)

end

instance : DecidableEq Json := decEq

/-- Equality of numbers: floats are compared by value, so that the two zeros are
one number. -/
def Number.same : Number → Number → Bool
  | .int a, .int b => a = b
  | .float a, .float b => Binary64.same a b
  | _, _ => false

mutual

/-- Equality of values, with numbers compared by value. -/
def same : Json → Json → Bool
  | null, null => true
  | bool a, bool b => a = b
  | num a, num b => a.same b
  | str a, str b => a = b
  | arr a, arr b => sameItems a b
  | obj a, obj b => sameFields a b
  | _, _ => false

@[inherit_doc same]
def sameItems : List Json → List Json → Bool
  | [], [] => true
  | x :: xs, y :: ys => same x y && sameItems xs ys
  | _, _ => false

@[inherit_doc same]
def sameField : String × Json → String × Json → Bool
  | (k, x), (l, y) => k = l && same x y

@[inherit_doc same]
def sameFields : List (String × Json) → List (String × Json) → Bool
  | [], [] => true
  | x :: xs, y :: ys => sameField x y && sameFields xs ys
  | _, _ => false

end

/-- The boolean that a value is. -/
def bool? : Json → Option Bool
  | bool b => some b
  | _ => none

/-- The string that a value is. -/
def str? : Json → Option String
  | str s => some s
  | _ => none

/-- The items of an array. -/
def arr? : Json → Option (List Json)
  | arr items => some items
  | _ => none

/-- The members of an object. -/
def obj? : Json → Option (Dict Json)
  | obj fields => some fields
  | _ => none

/-- The integer that a value is. A float is none, whole or not. -/
def int? : Json → Option Int
  | num (.int n) => some n
  | _ => none

/-- The integer that a value is, if it lies in a range. -/
def intWithin? (low high : Int) (j : Json) : Option Int :=
  j.int?.filter fun n => low ≤ n ∧ n ≤ high

/-- The number that a value is, as a float. -/
def float? : Json → Option UInt64
  | num (.int n) => some (Binary64.ofInt n)
  | num (.float bits) => some bits
  | _ => none

/-- The strings of an array that holds nothing else. -/
def strings? (j : Json) : Option (List String) :=
  j.arr?.bind fun items => items.mapM str?

end Json

end Tether
