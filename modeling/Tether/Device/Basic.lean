import Tether.Config
import Tether.Env.Basic
import Tether.Plugin.Registry
import Tether.Plugin.Roster

/-!
# Devices

A device is what is known of one peer: its details, how far pairing with it has come,
its links, its outbox and its plugins. It outlives its links: a device that is trusted
stays known while it is away.

What a device does is done to a scene, which is the device together with everything
around it.
-/

namespace Tether

/-- What is settled before there is any device. -/
structure Site where
  registry : Plugin.Registry := []
  config : Config := {}
deriving DecidableEq, Repr

/-- How long pairing waits for an answer, in milliseconds. -/
def Site.pairingWait (site : Site) : Nat :=
  site.config.pairingTimeout * 1000

/-- How long a blocking send waits for its payload, in milliseconds. -/
def Site.payloadWait (site : Site) : Nat :=
  site.config.payloadTimeout * 1000

/-- A device. -/
structure Device where
  /-- The number of the device among all that there have been. -/
  ref : Nat
  id : String
  details : Details
  session : Pairing.Session := {}
  links : LinkSet := []
  /-- The outbox, while there are links. -/
  outbox : Option Nat := none
  /-- The keys of the plugins that are of use with the device. -/
  supported : Roll := []
  roster : Plugin.Roster := {}
  /-- Whether the next packet may reload the plugins. -/
  reloadOnPacket : Bool := false
  /-- Who is told of pairing. -/
  observers : List Observer := []
  /-- Who is told that plugins may have changed. -/
  listeners : List Observer := []
deriving DecidableEq, Repr

namespace Device

/-- A device that is seen for the first time. -/
def ofIdentity (ref : Nat) (i : PeerIdentity) : Device :=
  { ref, id := i.id, details := .ofIdentity i }

/-- A device that is trusted. Until it says otherwise every plugin is of use with it. -/
def ofTrusted (site : Site) (ref : Nat) (s : Store) (id : String) : Device :=
  { ref, id, details := .ofStore s id, session := { state := .paired }
    supported := site.registry.names }

/-- Whether the device is trusted. -/
def isPaired (d : Device) : Bool :=
  d.session.state = .paired

/-- Whether there is a link to the device. -/
def isReachable (d : Device) : Bool :=
  !d.links.isEmpty

/-- A device in diagnostics, with the names of its links. -/
def shown (d : Device) (names : List String) : String :=
  "Device \x7b device_id: " ++ Text.quoted d.id ++ ", name: " ++ Text.quoted d.details.name
    ++ ", pairing_state: " ++ d.session.state.shown ++ ", links: " ++ Text.quotedList names
    ++ " \x7d"

/-- A handle on a device, or on none, in diagnostics. -/
def handleShown (d : Option Device) : String :=
  "DeviceHandle(" ++ (d.elim "None" fun d => "Some(" ++ Text.quoted d.id ++ ")") ++ ")"

end Device

/-- A device and everything around it. -/
structure Scene where
  device : Device
  env : Env

namespace Scene

/-- What can be seen of the device now. -/
def glimpse (s : Scene) : Glimpse :=
  ⟨s.device.session.state, s.device.details, s.env.store⟩

/-- Let events happen. -/
def record (s : Scene) (events : List Event) : Scene :=
  { s with env := s.env.record events }

/-- Write settings and make do without if that fails. -/
def tryWrite (s : Scene) (c : Store.Change) : Scene :=
  { s with env := s.env.tryWrite c }

/-- Have someone told of pairing. Whoever asks twice is told twice. -/
def addObserver (s : Scene) (o : Observer) : Scene :=
  { s with device.observers := s.device.observers ++ [o] }

/-- Have someone told of pairing no more. -/
def removeObserver (s : Scene) (name : String) : Scene :=
  { s with device.observers := s.device.observers.filter fun o => o.name ≠ name }

/-- Have someone told of plugins. Whoever asks twice is told twice. -/
def addListener (s : Scene) (o : Observer) : Scene :=
  { s with device.listeners := s.device.listeners ++ [o] }

/-- Have someone told of plugins no more. -/
def removeListener (s : Scene) (name : String) : Scene :=
  { s with device.listeners := s.device.listeners.filter fun o => o.name ≠ name }

/-- What pairing can ask. -/
def around (s : Scene) : Pairing.Surroundings :=
  ⟨true, s.device.isReachable⟩

/-- What plugins can learn. -/
def owner (s : Scene) : Plugin.Owner :=
  ⟨some s.device.id, s.device.isPaired⟩

end Scene

end Tether
