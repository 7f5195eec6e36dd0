import Tether.Event
import Tether.Packet.Wire

/-!
# The journal

Events as JSON, for whoever wants to read later what happened. A line of the journal is
an array that starts with a word for what it is about. The packets of pairing get their
ids from the clock, so the journal leaves those out: it is the same whenever the same
things happen.
-/

namespace Tether

/-- The word for the cause of a fault. -/
def Fault.word : Fault → String
  | io _ => "Io"
  | json _ => "Json"
  | toml _ => "Toml"
  | transport _ => "Transport"
  | notConnected => "NotConnected"
  | deviceNotFound _ => "DeviceNotFound"
  | invalidPacket _ => "InvalidPacket"
  | plugin _ => "Plugin"
  | timeout _ => "Timeout"
  | configuration _ => "Configuration"

/-- An event of pairing in the journal. -/
def PairingEvent.word : PairingEvent → String
  | incomingRequest => "incoming"
  | successful => "paired"
  | failed reason => "failed: " ++ reason.message
  | unpaired => "unpaired"

namespace Journal

/-- A packet in the journal. -/
def packet (p : Packet) : Json :=
  let fields := Dict.ofEntries p.fields
  .obj (if p.isType Packet.pairType then Dict.drop "id" fields else fields)

/-- A natural number in the journal. -/
def nat (n : Nat) : Json :=
  .num (.int n)

/-- What was told about a packet. -/
def report : Report → List Json
  | .progress percent => [.str "progress", nat percent]
  | .success => [.str "success"]
  | .failure fault => [.str "failure", .str fault.word, .str fault.message]

/-- What a plugin was called for, or what came of it. -/
def note : Plugin.Note → List Json
  | .refused => [.str "create", .str "fail"]
  | .created device paired =>
      [.str "create", (device.map Json.str).getD .null, .bool paired]
  | .onCreate _ => [.str "on_create"]
  | .onDestroy _ => [.str "on_destroy"]
  | .packet true p _ => [.str "packet", packet p]
  | .packet false p _ => [.str "unpaired_packet", packet p]
  | .replied accepted => [.str "reply", .bool accepted]
  | .switched accepted => [.str "set_plugin", .bool accepted]

/-- The line for an event, if the journal has one. -/
def line? : Event → Option (List Json)
  | .attempt link sameThread => some [.str "attempt", .str link, .bool sameThread]
  | .sent link p => some [.str "sent", .str link, packet p]
  | .told name r => some ([.str "cb", .str name] ++ report r)
  | .undelivered _ _ | .closing _ => none
  | .pairing observer event _ =>
      some [.str "pairing", .str observer.name, .str event.word]
  | .pluginsChanged listener device _ =>
      some [.str "plugins_changed", .str listener.name, .str device]
  | .plugin i n => some ([.str "plugin", .str i.key, nat i.number] ++ note n)
  | .returned name result =>
      some [.str "returned", .str name, (result.map Json.bool).getD (.str "panic")]

end Journal

end Tether
