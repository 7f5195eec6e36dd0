import Tether.Device.Pairing

/-!
# Links of a device

With its first link a device gets an outbox, and with its last link it loses it. What a
device says of itself on a link takes the place of what was known, and of a device that
is trusted settings follow.
-/

namespace Tether.Scene

/-- Keep what settings hold of a trusted device up to date. -/
def follow (s : Scene) (i : PeerIdentity) : Scene :=
  let d := s.device
  let keep (key : String) (old : String) (new : Option String) (s : Scene) : Scene :=
    match new with
    | some new => if d.isPaired ∧ new ≠ old then s.tryWrite (.putString d.id key new) else s
    | none => s
  keep Store.kindKey d.details.kind.word (i.kind.map DeviceKind.word)
    (keep Store.nameKey d.details.name i.name s)

/-- Learn what the device says of itself. -/
def learn (s : Scene) (i : PeerIdentity) : Scene :=
  let s := s.follow i
  { s with device.details := s.device.details.merge i }

/-- Give the device an outbox if it has none. -/
def openOutbox (s : Scene) : Scene :=
  match s.device.outbox with
  | some _ => s
  | none =>
      let (o, env) := s.env.openOutbox s.device.id
      { device := { s.device with outbox := some o }, env }

/-- Take away the outbox of the device, and close it. -/
def closeOutbox (s : Scene) : Scene :=
  match s.device.outbox with
  | some o => { device := { s.device with outbox := none }, env := s.env.closeOutbox o }
  | none => s

/-- The keys of the plugins that are of use with a device: those that fit what it
announced, or all if it did not announce both what it receives and what it sends. -/
def fitting (site : Site) (d : Details) : Roll :=
  match d.incoming, d.outgoing with
  | some incoming, some outgoing => site.registry.forCapabilities incoming outgoing
  | _, _ => site.registry.names

/-- Attach a link on which an identity came. An identity of another device is
refused. -/
def attach (site : Site) (s : Scene) (i : PeerIdentity) (link : String) :
    Except Fault Unit × Scene :=
  if i.id ≠ s.device.id then
    (.error (.invalidPacket ("Identity of " ++ i.id ++ " offered to device " ++ s.device.id)), s)
  else
    let s := s.learn i
    match s.device.links.add? link with
    | none => (.ok (), s)
    | some links =>
        let s := { s with device.links := links }.openOutbox
        let s := { s with env.links := s.env.links.addReceiver link s.device.ref }
        let s := { s with device.supported := fitting site s.device.details }
        let s :=
          if links.length = 1 then { s with device.reloadOnPacket := true } else s
        (.ok (), s.reload site)

/-- Detach a link, and answer whether it was attached. -/
def detach (site : Site) (s : Scene) (link : String) : Bool × Scene :=
  match s.device.links.remove? link with
  | none => (false, s)
  | some links =>
      let s := { s with
        device.links := links
        env.links := s.env.links.removeReceiver link s.device.ref }
      let s :=
        if links.isEmpty then { s.closeOutbox with device.reloadOnPacket := true } else s
      (true, s.reload site)

/-- Ask every link to close. -/
def disconnect (s : Scene) : Scene :=
  { s with env := s.device.links.foldl Env.closeLink s.env }

end Tether.Scene
