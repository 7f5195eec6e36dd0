import Tether.World

/-!
# The devices that are known

A hub keeps one device for each id. Those that are trusted come from settings; others
come with their first link and stay when it goes. Forgetting a device tells it so, ends
what is at work for it, and asks its links to close.
-/

namespace Tether

/-- The devices that are known, by id. -/
structure Hub where
  world : World := {}
  known : Dict Nat := []

namespace Hub

/-- The device with an id. -/
def device? (h : Hub) (id : String) : Option Device :=
  (Dict.find? h.known id).bind h.world.device?

/-- The devices in the order of their ids. -/
def devices (h : Hub) : List Device :=
  h.known.filterMap fun e => h.world.device? e.2

/-- The devices that are paired. -/
def paired (h : Hub) : List Device :=
  h.devices.filter Device.isPaired

/-- The devices that can be reached. -/
def reachable (h : Hub) : List Device :=
  h.devices.filter Device.isReachable

/-- Do something to the device with an id, if it is known. -/
def visit (h : Hub) {α : Type} (id : String) (f : Scene → α × Scene) : Option α × Hub :=
  match Dict.find? h.known id with
  | none => (none, h)
  | some ref =>
      let (answer, world) := h.world.visit ref f
      (answer, { h with world })

/-- Add a device under its id. -/
def add (h : Hub) (id : String) (make : Nat → Device) : Nat × Hub :=
  let (ref, world) := h.world.keep make
  (ref, ⟨world, Dict.put id ref h.known⟩)

/-- Add the device of a trusted id if it is not known. -/
def restore (site : Site) (h : Hub) (id : String) : Hub :=
  if Dict.has h.known id then h
  else (h.add id fun ref => .ofTrusted site ref h.world.env.store id).2

/-- Add every device that is trusted, and answer how many were added. -/
def load (site : Site) (h : Hub) : Nat × Hub :=
  let after := h.world.env.store.trusted.foldl (restore site) h
  (after.known.length - h.known.length, after)

/-- Attach a link on which an identity came, to the device it speaks of. -/
def connect (site : Site) (h : Hub) (i : PeerIdentity) (link : String) :
    Except Fault Nat × Hub :=
  let (ref, h) :=
    match Dict.find? h.known i.id with
    | some ref => (ref, h)
    | none => h.add i.id fun ref => .ofIdentity ref i
  let (answer, world) := h.world.visit ref fun s => s.attach site i link
  let h := { h with world }
  match answer with
  | some (.error fault) => (.error fault, h)
  | _ => (.ok ref, h)

/-- Detach a link that was closed, and answer whether it was attached. -/
def disconnected (site : Site) (h : Hub) (id link : String) : Bool × Hub :=
  let (answer, h) := h.visit id fun s => s.detach site link
  (answer.getD false, h)

/-- Take leave of a device: end trust, finish its plugins, and close its links. -/
def leave (site : Site) (s : Scene) : Scene :=
  ((s.pair site .unpair).shutdownPlugins).disconnect

/-- Forget a device. It is kept in the world for whoever asked, until released. -/
def forget (site : Site) (h : Hub) (id : String) : Except Fault Nat × Hub :=
  match Dict.find? h.known id with
  | none => (.error (.deviceNotFound id), h)
  | some ref =>
      (.ok ref, { world := h.world.act ref (leave site), known := Dict.drop id h.known })

/-- Let every device go. -/
def close (h : Hub) : Hub :=
  { world := (h.known.foldl (fun w e => w.release e.2) h.world), known := [] }

/-- What this side announces: every plugin there is. -/
def localIdentity (site : Site) (id name : String) (kind : DeviceKind) : LocalIdentity :=
  LocalIdentity.withCapabilities { id, name, kind } site.registry.incoming
    site.registry.outgoing

/-- A hub in diagnostics, with the path its settings are kept at. -/
def shown (site : Site) (path : String) : String :=
  "DeviceManager \x7b registry: " ++ site.registry.shown
    ++ ", config: PeerConfig \x7b pairing_timeout_secs: " ++ toString site.config.pairingTimeout
    ++ ", payload_confirmation_timeout_secs: " ++ toString site.config.payloadTimeout
    ++ ", settings_path: " ++ Text.quoted path ++ " \x7d \x7d"

end Hub

end Tether
