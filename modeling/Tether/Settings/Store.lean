import Tether.Json.Basic

/-!
# Settings

Values under a scope and a key, and the roll of trusted ids. There is a scope for
each device. A value is a string or a boolean when it is written here, but a file
may bring other values; those are kept and read as absent.

The store is a value: every change gives a new store.
-/

namespace Tether

/-- Settings. -/
structure Store where
  trusted : Roll := []
  scopes : Dict (Dict Json) := []
deriving DecidableEq, Repr

namespace Store

/-- The key of a device's name. -/
def nameKey : String := "deviceName"

/-- The key of a device's class. -/
def kindKey : String := "deviceType"

/-- The key of a device's certificate, in base 64. -/
def certificateKey : String := "certificate"

/-- The entries of a scope. -/
def scope (s : Store) (name : String) : Dict Json :=
  (Dict.find? s.scopes name).getD []

/-- The value under a scope and a key. -/
def find? (s : Store) (scope key : String) : Option Json :=
  Dict.find? (s.scope scope) key

/-- The string under a scope and a key. -/
def getString? (s : Store) (scope key : String) : Option String :=
  (s.find? scope key).bind Json.str?

/-- The boolean under a scope and a key. -/
def getBool? (s : Store) (scope key : String) : Option Bool :=
  (s.find? scope key).bind Json.bool?

/-- Whether an id is trusted. -/
def isTrusted (s : Store) (id : String) : Bool :=
  s.trusted.contains id

/-- A change of settings. -/
inductive Change where
  | put (scope key : String) (value : Json)
  | remove (scope key : String)
  | clearScope (scope : String)
  | setTrusted (id : String) (trusted : Bool)
deriving DecidableEq, Repr

/-- Store a string. -/
def Change.putString (scope key value : String) : Change :=
  .put scope key (.str value)

/-- Store a boolean. -/
def Change.putBool (scope key : String) (value : Bool) : Change :=
  .put scope key (.bool value)

/-- The entries of a scope without a key; a scope left empty goes too. -/
def removeFrom (s : Store) (scope key : String) : Store :=
  match Dict.find? s.scopes scope with
  | none => s
  | some entries =>
      match Dict.drop key entries with
      | [] => { s with scopes := Dict.drop scope s.scopes }
      | rest => { s with scopes := Dict.put scope rest s.scopes }

/-- The settings after a change. -/
def apply (s : Store) : Change → Store
  | .put scope key value =>
      { s with scopes := Dict.put scope (Dict.put key value (s.scope scope)) s.scopes }
  | .remove scope key => s.removeFrom scope key
  | .clearScope scope => { s with scopes := Dict.drop scope s.scopes }
  | .setTrusted id true => { s with trusted := Roll.enter id s.trusted }
  | .setTrusted id false => { s with trusted := Roll.strike id s.trusted }

end Store

end Tether
