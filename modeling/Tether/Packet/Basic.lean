import Tether.Json.Basic

/-!
# Packets

The unit that devices exchange: an id, a type, and a body of named values. A packet
may announce a payload, and it keeps every field it has no name for, so that it
survives being read and written by a device that knows less than its sender.

The types of one family have two spellings, `kdeconnect.` and `cconnect.` before
the same remainder, and `isType` does not tell them apart.
-/

namespace Tether

/-- A packet. -/
structure Packet where
  /-- The time of sending in milliseconds, made strictly increasing. -/
  id : Int
  type : String
  body : Dict Json := []
  /-- The size of the payload in bytes; negative for a stream without an end. -/
  payloadSize : Option Int := none
  /-- How the payload is to be fetched. -/
  payloadTransferInfo : Option (Dict Json) := none
  /-- Fields that have no meaning here. -/
  extra : Dict Json := []
deriving DecidableEq, Repr

namespace Packet

/-- The type of the packet that opens every link. -/
def identityType : String := "kdeconnect.identity"

/-- The type of the packets that pairing consists of. -/
def pairType : String := "kdeconnect.pair"

/-- A packet whose body is an object, or empty if it is anything else. -/
def make (id : Int) (type : String) (body : Json) : Packet :=
  ⟨id, type, body.obj?.getD [], none, none, []⟩

/-- The packet with a payload of a size. -/
def withPayloadSize (p : Packet) (size : Int) : Packet :=
  { p with payloadSize := some size }

/-- The packet with a way to fetch its payload. -/
def withTransferInfo (p : Packet) (info : Dict Json) : Packet :=
  { p with payloadTransferInfo := some info }

/-- Whether the packet announces a payload. -/
def hasPayload (p : Packet) : Bool :=
  match p.payloadSize with
  | some size => size ≠ 0
  | none => false

/-- The rest of a type after a leading part. -/
def after? (lead type : String) : Option (List Char) :=
  if lead.toList.isPrefixOf type.toList then some (type.toList.drop lead.length) else none

/-- Whether two types are spellings of one. -/
def sameType (own asked : String) : Bool :=
  if own = asked then true
  else
    match after? "cconnect." asked with
    | some rest => after? "kdeconnect." own = some rest
    | none =>
        match after? "kdeconnect." asked with
        | some rest => after? "cconnect." own = some rest
        | none => false

/-- Whether the packet is of a type, in either spelling. -/
def isType (p : Packet) (type : String) : Bool :=
  sameType p.type type

/-- Equality, with numbers compared by value. -/
def same (p q : Packet) : Bool :=
  p.id = q.id && p.type = q.type && Json.sameFields p.body q.body &&
    p.payloadSize = q.payloadSize &&
    (match p.payloadTransferInfo, q.payloadTransferInfo with
      | some a, some b => Json.sameFields a b
      | none, none => true
      | _, _ => false) &&
    Json.sameFields p.extra q.extra

/-- The ids given out so far end with `last`. -/
structure IdSource where
  last : Int := 0
deriving DecidableEq, Repr

/-- The next id: the time, or one past the last id if the clock has not moved on. -/
def IdSource.next (source : IdSource) (now : Int) : Int × IdSource :=
  let id := if source.last < now then now else source.last + 1
  (id, ⟨id⟩)

end Packet

end Tether
