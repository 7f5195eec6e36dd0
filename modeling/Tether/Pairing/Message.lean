import Tether.Fault
import Tether.Packet.Fields

/-!
# Packets of pairing

Pairing needs one bit. A packet with `true` asks or agrees, and one with `false`
declines or ends; which of the two it is depends on the state it arrives in.
-/

namespace Tether.Pairing

/-- The key of the bit. -/
def pairKey : String := "pair"

/-- The packet that carries a bit. -/
def packet (id : Int) (pair : Bool) : Packet :=
  Packet.make id Packet.pairType (.obj [(pairKey, .bool pair)])

/-- The bit that a packet carries. -/
def ofPacket (p : Packet) : Except Fault Bool :=
  if p.isType Packet.pairType then
    match p.field? Packet.Strict.bool.read pairKey with
    | some pair => .ok pair
    | none => .error (.invalidPacket "Missing pair field")
  else .error (.invalidPacket ("Not a pairing packet: " ++ p.type))

end Tether.Pairing
