import Tether.Packet.Basic

/-!
# Fields of a body

A field is read in one of two ways. A strict reading gives the value at a type or
nothing; a getter gives the value or the default that the caller names. Neither
converts: a number is not text, a float is not an integer, and a list with one item
of another type is not a list of strings.
-/

namespace Tether.Packet

/-- Whether the body has a key. -/
def has (p : Packet) (key : String) : Bool :=
  Dict.has p.body key

/-- Store a field, in place of the value it had. -/
def set (p : Packet) (key : String) (value : Json) : Packet :=
  { p with body := Dict.put key value p.body }

/-- The packet with a field stored, for one that is being made. -/
def withField (p : Packet) (key : String) (value : Json) : Packet :=
  p.set key value

/-- Remove a field. -/
def remove (p : Packet) (key : String) : Packet :=
  { p with body := Dict.drop key p.body }

/-- Read a field at a type. -/
def field? {α : Type} (p : Packet) (read : Json → Option α) (key : String) : Option α :=
  (Dict.find? p.body key).bind read

/-- Strict readings of a value. -/
structure Strict (α : Type) where
  read : Json → Option α

namespace Strict

/-- Text. -/
def string : Strict String := ⟨Json.str?⟩

/-- A boolean. -/
def bool : Strict Bool := ⟨Json.bool?⟩

/-- An integer of thirty-two bits. -/
def int32 : Strict Int := ⟨Json.intWithin? (-2147483648) 2147483647⟩

/-- An integer of sixty-four bits. -/
def int64 : Strict Int := ⟨Json.intWithin? (-9223372036854775808) 9223372036854775807⟩

/-- A natural number of eight bits. -/
def nat8 : Strict Int := ⟨Json.intWithin? 0 255⟩

/-- A natural number of thirty-two bits. -/
def nat32 : Strict Int := ⟨Json.intWithin? 0 4294967295⟩

/-- A natural number of sixty-four bits. -/
def nat64 : Strict Int := ⟨Json.intWithin? 0 18446744073709551615⟩

/-- A number as a float. -/
def float : Strict UInt64 := ⟨Json.float?⟩

/-- A list of strings. -/
def strings : Strict (List String) := ⟨Json.strings?⟩

/-- Any value. -/
def value : Strict Json := ⟨some⟩

end Strict

/-- A text field. -/
def getString (p : Packet) (key default : String) : String :=
  match Dict.find? p.body key with
  | some (.str s) => s
  | _ => default

/-- A boolean field. -/
def getBool (p : Packet) (key : String) (default : Bool) : Bool :=
  match Dict.find? p.body key with
  | some (.bool b) => b
  | _ => default

/-- An integer field of sixty-four bits. -/
def getLong (p : Packet) (key : String) (default : Int) : Int :=
  match Dict.find? p.body key with
  | some (.num (.int n)) => if n < 9223372036854775808 ∧ -9223372036854775808 ≤ n then n else default
  | _ => default

/-- An integer field of thirty-two bits. -/
def getInt (p : Packet) (key : String) (default : Int) : Int :=
  match Dict.find? p.body key with
  | some (.num (.int n)) => if n < 2147483648 ∧ -2147483648 ≤ n then n else default
  | _ => default

/-- A number field, as a float. -/
def getDouble (p : Packet) (key : String) (default : UInt64) : UInt64 :=
  match Dict.find? p.body key with
  | some (.num (.int n)) => Binary64.ofInt n
  | some (.num (.float bits)) => bits
  | _ => default

/-- The text of items that are all text. -/
def texts? : List Json → Option (List String)
  | [] => some []
  | .str s :: rest => (texts? rest).map (s :: ·)
  | _ :: _ => none

/-- A list of strings. -/
def getStringList? (p : Packet) (key : String) : Option (List String) :=
  match Dict.find? p.body key with
  | some (.arr items) => texts? items
  | _ => none

/-- A list of strings as a set. -/
def getStringSet? (p : Packet) (key : String) : Option Roll :=
  (p.getStringList? key).map Roll.ofList

/-- The items of an array field. -/
def getArray? (p : Packet) (key : String) : Option (List Json) :=
  match Dict.find? p.body key with
  | some (.arr items) => some items
  | _ => none

end Tether.Packet
