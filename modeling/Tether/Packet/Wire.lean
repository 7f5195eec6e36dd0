import Tether.Json.Printer
import Tether.Packet.Basic

/-!
# Packets as text

A packet on the wire is one JSON object on one line. The named fields come first in
a fixed order, the optional ones only if they are there, and the fields without a
name follow in the order of their keys.
-/

namespace Tether.Packet

/-- The fields of the object a packet is written as. -/
def fields (p : Packet) : List (String × Json) :=
  [("id", .num (.int p.id)), ("type", .str p.type), ("body", .obj p.body)]
    ++ (p.payloadSize.map fun n => ("payloadSize", Json.num (.int n))).toList
    ++ (p.payloadTransferInfo.map fun d => ("payloadTransferInfo", Json.obj d)).toList
    ++ p.extra

/-- The object a packet is written as, read back as a value. -/
def toJson (p : Packet) : Json :=
  .obj (Dict.ofEntries p.fields)

/-- The line a packet is written as, with its end. -/
def wireChars (p : Packet) : List Char :=
  '{' :: Json.compactFields p.fields ++ ['}', '\n']

@[inherit_doc wireChars]
def serialize (p : Packet) : String :=
  String.ofList p.wireChars

end Tether.Packet
