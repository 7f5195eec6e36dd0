import Tether.Identity.Local
import Tether.Identity.Peer
import Tether.Settings.Store
import Tether.Sha256
import Tether.Text.Base64
import Tether.Text.Hex

/-!
# What is known of a device

A device tells about itself on each link, and not always everything. What it leaves out
stays as it was. Of a device that is trusted, settings keep the certificate, the name
and the class, so that it is known before it has a link.
-/

namespace Tether

/-- What is known of a device besides its id. -/
structure Details where
  name : String
  kind : DeviceKind
  /-- The version of the protocol the device speaks, 0 if it never said. -/
  version : Int := 0
  /-- The certificate of the device, empty if it never showed one. -/
  certificate : List UInt8 := []
  /-- Packet types the device receives, if it said. -/
  incoming : Option Roll := none
  /-- Packet types the device sends, if it said. -/
  outgoing : Option Roll := none
deriving DecidableEq, Repr

namespace Details

/-- The name of a device that never said its own. -/
def unknownName : String := "Unknown device"

/-- What a first identity tells. -/
def ofIdentity (i : PeerIdentity) : Details where
  name := i.name.getD unknownName
  kind := i.kind.getD default
  version := i.version.getD 0
  certificate := i.certificate
  incoming := i.incoming
  outgoing := i.outgoing

/-- What settings tell. A certificate that cannot be read counts as none. -/
def ofStore (s : Store) (id : String) : Details where
  name := (s.getString? id Store.nameKey).getD unknownName
  kind := ((s.getString? id Store.kindKey).map DeviceKind.ofWord).getD default
  certificate := ((s.getString? id Store.certificateKey).bind Text.Base64.decode?).getD []

/-- What is known after a further identity. -/
def merge (d : Details) (i : PeerIdentity) : Details where
  name := i.name.getD d.name
  kind := i.kind.getD d.kind
  version := i.version.getD d.version
  certificate := if i.certificate = [] then d.certificate else i.certificate
  incoming := i.incoming.or d.incoming
  outgoing := i.outgoing.or d.outgoing

/-- The version against the one spoken here. -/
def compareVersion (d : Details) : Ordering :=
  compare d.version LocalIdentity.protocolVersion

/-- The fingerprint by which people compare certificates. -/
def fingerprint? (d : Details) : Option String :=
  if d.certificate = [] then none
  else some (Text.Hex.colons (Sha256.digest d.certificate))

/-- Whether the device receives packets of a type. One that never said receives all. -/
def accepts (d : Details) (type : String) : Bool :=
  match d.incoming with
  | some types => types.contains type
  | none => true

end Details

end Tether
