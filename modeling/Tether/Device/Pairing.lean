import Tether.Device.Outbound
import Tether.Device.Plugins

/-!
# Pairing with a device

A session says what to do, and here it is done. When both sides agreed, settings keep
the certificate, the name and the class of the device, and last that it is trusted; when
trust ends, settings lose first the trust and then everything else about the device.
Only after that are observers told.

A write that fails changes nothing about what follows it.
-/

namespace Tether.Scene

/-- Keep in settings what makes the device trusted. -/
def storeTrust (s : Scene) : Scene :=
  let d := s.device
  (((s.tryWrite (.putString d.id Store.certificateKey (Text.Base64.encode d.details.certificate)))
    |>.tryWrite (.putString d.id Store.nameKey d.details.name))
    |>.tryWrite (.putString d.id Store.kindKey d.details.kind.word))
    |>.tryWrite (.setTrusted d.id true)

/-- Take out of settings what is about the device. -/
def eraseTrust (s : Scene) : Scene :=
  (s.tryWrite (.setTrusted s.device.id false)).tryWrite (.clearScope s.device.id)

/-- Tell observers of pairing. -/
def tellObservers (s : Scene) (event : PairingEvent) : Scene :=
  s.record (notifyPairing s.device.observers event s.glimpse)

/-- Do what an event of pairing calls for. -/
def onPairing (site : Site) (s : Scene) (event : PairingEvent) : Scene :=
  let s :=
    match event with
    | .successful => s.storeTrust.reload site
    | .unpaired => s.eraseTrust.reload site
    | .incomingRequest | .failed _ => s
  s.tellObservers event

/-- Do what a session says. -/
def perform (site : Site) (s : Scene) (a : Pairing.Action) : Scene :=
  let s := { s with device.session := s.device.session.perform a }
  match a with
  | .enter _ | .cancelTimer => s
  | .startTimer =>
      { s with
        env := s.env.setAlarm site.pairingWait
          (.expire s.device.ref s.device.session.generation) }
  | .send pair =>
      let (id, env) := s.env.newId
      { s with env }.send (Pairing.packet id pair) none (.pairing s.device.ref)
  | .emit event => s.onPairing site event

/-- Let something happen to the session of the device. -/
def pair (site : Site) (s : Scene) (i : Pairing.Input) : Scene :=
  (s.device.session.actions s.around i).foldl (perform site) s

end Tether.Scene
