import Tether.Identity.Kind
import Tether.Json.Record
import Tether.Packet.Basic

/-!
# The identity we announce

What this side says about itself: as the packet that opens a link, and as the record
that is kept in a file between runs.
-/

namespace Tether

/-- What this side says about itself. -/
structure LocalIdentity where
  id : String
  name : String
  kind : DeviceKind
  /-- Packet types we receive. -/
  incoming : List String := []
  /-- Packet types we send. -/
  outgoing : List String := []
deriving DecidableEq, Repr

namespace LocalIdentity

/-- The version of the protocol spoken here. -/
def protocolVersion : Int := 8

/-- Names in ascending order, each as often as it comes. -/
def sorted (names : List String) : List String :=
  names.mergeSort fun a b => decide (a ≤ b)

/-- The identity with capabilities, in order. -/
def withCapabilities (me : LocalIdentity) (incoming outgoing : List String) : LocalIdentity :=
  { me with incoming := sorted incoming, outgoing := sorted outgoing }

/-- Strings as a JSON array. -/
def names (ss : List String) : Json :=
  .arr (ss.map Json.str)

/-- The packet that opens a link. -/
def toPacket (me : LocalIdentity) (id : Int) : Packet :=
  Packet.make id Packet.identityType <| .obj <| Dict.ofEntries
    [("deviceId", .str me.id), ("deviceName", .str me.name),
      ("protocolVersion", .num (.int protocolVersion)), ("deviceType", .str me.kind.word),
      ("incomingCapabilities", names me.incoming), ("outgoingCapabilities", names me.outgoing)]

/-- The record that is kept. -/
def toJson (me : LocalIdentity) : Json :=
  .obj <| Dict.ofEntries
    [("deviceId", .str me.id), ("deviceName", .str me.name), ("deviceType", .str me.kind.word),
      ("incomingCapabilities", names me.incoming), ("outgoingCapabilities", names me.outgoing)]

/-- The fields of a record. A class that is written as an object has one member. -/
def recordFields : List Json.Field :=
  [("deviceId", Json.fieldValue?), ("deviceName", Json.fieldValue?),
    ("deviceType", Json.strictValue?), ("incomingCapabilities", Json.fieldValue?),
    ("outgoingCapabilities", Json.fieldValue?)]

/-- The identity that a record is. Every field is required. -/
def ofFields? (d : Dict Json) : Option LocalIdentity := do
  let id ← (← Dict.find? d "deviceId").str?
  let name ← (← Dict.find? d "deviceName").str?
  let kind ← DeviceKind.ofJson? (← Dict.find? d "deviceType")
  let incoming ← (← Dict.find? d "incomingCapabilities").strings?
  let outgoing ← (← Dict.find? d "outgoingCapabilities").strings?
  some { id, name, kind, incoming, outgoing }

/-- The identity that a text of a record is. -/
def parse? (s : String) : Option LocalIdentity :=
  (Json.parseRecord? recordFields s).bind ofFields?

end LocalIdentity

end Tether
