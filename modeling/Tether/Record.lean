import Tether.Config
import Tether.Identity.Peer
import Tether.Plugin.Info
import Tether.Text.Hex

/-!
# Records

Packets, identities, plugins and configurations as JSON objects for people and tools to
look at. A record has every field, with null for what is not there, so that it can be
read without knowing which fields are optional.
-/

namespace Tether.Record

/-- A record with some fields. -/
def ofFields (fields : List (String × Json)) : Json :=
  .obj (Dict.ofEntries fields)

/-- A natural number. -/
def nat (n : Nat) : Json :=
  .num (.int n)

/-- Strings. -/
def strings (ss : List String) : Json :=
  .arr (ss.map Json.str)

/-- A value, or null. -/
def orNull {α : Type} (f : α → Json) (a : Option α) : Json :=
  (a.map f).getD .null

/-- The record of a packet. -/
def packet (p : Packet) : Json :=
  ofFields
    [("id", .num (.int p.id)), ("type", .str p.type), ("body", .obj p.body),
      ("payloadSize", orNull (fun n => .num (.int n)) p.payloadSize),
      ("payloadTransferInfo", orNull Json.obj p.payloadTransferInfo), ("extra", .obj p.extra)]

/-- The record of an identity. -/
def identity (i : PeerIdentity) : Json :=
  ofFields
    [("deviceId", .str i.id), ("name", orNull Json.str i.name),
      ("type", orNull (fun k => .str (DeviceKind.word k)) i.kind),
      ("protocolVersion", orNull (fun n => .num (.int n)) i.version),
      ("cert", .str (Text.Hex.encode i.certificate)), ("incoming", orNull strings i.incoming),
      ("outgoing", orNull strings i.outgoing)]

/-- The record of a plugin. -/
def plugin (i : Plugin.Info) : Json :=
  ofFields
    [("key", .str i.key), ("name", .str i.name), ("enabled_by_default", .bool i.enabledByDefault),
      ("listen_to_unpaired", .bool i.listensToUnpaired), ("in", strings i.incoming),
      ("out", strings i.outgoing), ("req", strings i.required), ("opt", strings i.optional)]

/-- The record of a configuration, with a word for the usual place of settings. -/
def config (c : Config) (usual : String) : Json :=
  ofFields
    [("pairing", nat c.pairingTimeout), ("payload", nat c.payloadTimeout),
      ("pairing_secs", nat c.pairingTimeout), ("payload_secs", nat c.payloadTimeout),
      ("path", .str (c.settingsPath.getD usual))]

end Tether.Record
