import Tether.Device.Basic

/-!
# What a device sends

A packet goes into the outbox, which is there as long as there is a link. Without one the
packet fails at once.
-/

namespace Tether.Scene

/-- Send a packet, in place of an unsent one if it has a number. -/
def send (s : Scene) (p : Packet) (replace : Option Nat) (callback : Callback) : Scene :=
  match s.device.outbox with
  | some o => { s with env := s.env.submit o p replace callback }
  | none => s.record (callback.tell (.failure .notConnected))

/-- Send a packet whose outcome only the log is told. -/
def sendPlain (s : Scene) (p : Packet) : Scene :=
  s.send p none (.log p.type)

/-- Take back the unsent packet with a number. -/
def takeBack (s : Scene) (replace : Nat) : Option Packet × Scene :=
  match s.device.outbox with
  | some o =>
      let (p, env) := s.env.takeFrom o replace
      (p, { s with env })
  | none => (none, s)

/-- Send a packet for a caller who waits for the outcome, and for a payload no longer
than the configuration says. -/
def sendBlocking (site : Site) (s : Scene) (name : String) (p : Packet)
    (callback : Callback) (sameThread : Bool) : Scene :=
  let c := s.env.calls.length
  let wait := site.payloadWait
  let deadline := if p.hasPayload then some (s.env.clock + wait) else none
  let call : Call := { name, device := s.device.ref, packet := p, callback, sameThread, deadline }
  let env := { s.env with calls := s.env.calls ++ [call] }.spawn (.begin c)
  if p.hasPayload ∧ 0 < wait then { s with env := env.setAlarm wait (.wake c) }
  else { s with env }

end Tether.Scene
