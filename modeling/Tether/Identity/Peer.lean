import Tether.Fault
import Tether.Identity.Kind
import Tether.Packet.Fields

/-!
# Identities of peers

The first packet on a link says who is speaking. Only the id is required of it: a
field that is missing or of the wrong type is left open, so that a device keeps
what it knew before.
-/

namespace Tether

/-- What a peer said about itself on a link. -/
structure PeerIdentity where
  id : String
  name : Option String := none
  kind : Option DeviceKind := none
  version : Option Int := none
  /-- The certificate that the link presented, empty if there was none. -/
  certificate : List UInt8 := []
  /-- Packet types the peer receives. -/
  incoming : Option Roll := none
  /-- Packet types the peer sends. -/
  outgoing : Option Roll := none
deriving DecidableEq, Repr

namespace PeerIdentity

/-- The identity in a packet, on a link that presented a certificate. -/
def ofPacket (p : Packet) (certificate : List UInt8) : Except Fault PeerIdentity :=
  if p.isType Packet.identityType then
    match (p.field? Packet.Strict.string.read "deviceId").filter (· ≠ "") with
    | none => .error (.invalidPacket "Missing deviceId")
    | some id =>
        .ok
          { id
            name := p.field? Packet.Strict.string.read "deviceName"
            kind := (p.field? Packet.Strict.string.read "deviceType").map DeviceKind.ofWord
            version := p.field? Packet.Strict.nat32.read "protocolVersion"
            certificate
            incoming := p.getStringSet? "incomingCapabilities"
            outgoing := p.getStringSet? "outgoingCapabilities" }
  else .error (.invalidPacket ("Not an identity packet: " ++ p.type))

end PeerIdentity

end Tether
