import Tether.Device.Pairing

/-!
# What a device receives

A packet of pairing goes to the session of the device, well formed or not, and to
nobody else. Any other packet goes to the plugins that receive its type. If the device
is not paired it seems to think it is; it is told otherwise first, and then only plugins
that listen to any device are given the packet.

Who is given a packet is settled before the first of them is: a plugin may ask for things
that change it.
-/

namespace Tether.Scene

/-- Do what a plugin asks for while it handles a packet. -/
def obey (site : Site) (i : Plugin.Instance) (p : Packet) (s : Scene) :
    Plugin.Request → Scene
  | .reply type =>
      let s := s.sendPlain (Packet.make p.id type (.obj p.body))
      { s with env := s.env.note i (.replied true) }
  | .replyInPlace type replace =>
      s.send (Packet.make p.id type (.obj p.body)) (some replace) (.named i.key false)
  | .unpair => s.pair site .unpair
  | .setPlugin key enabled =>
      let (result, s) := s.setPlugin site key enabled
      { s with env := s.env.note i (.switched result.toBool) }

/-- Give a packet to a plugin. -/
def give (site : Site) (p : Packet) (paired : Bool) (s : Scene) (i : Plugin.Instance) :
    Scene :=
  let (requests, env) := s.env.call fun shop => shop.handle i paired p
  requests.foldl (obey site i p) { s with env }

/-- Give a packet to every plugin that is to have it. -/
def dispatch (site : Site) (s : Scene) (p : Packet) (paired : Bool) : Scene :=
  (s.device.roster.recipients p.type paired).foldl (give site p paired) s

/-- Reload the plugins once after a device came or went, if no plugin receives
anything. -/
def reloadOnce (site : Site) (s : Scene) : Scene :=
  if s.device.roster.table.isEmpty && s.device.reloadOnPacket then
    { s with device.reloadOnPacket := false }.reload site
  else s

/-- Receive a packet. -/
def receive (site : Site) (s : Scene) (p : Packet) : Scene :=
  if p.isType Packet.pairType then s.pair site (.received p)
  else if s.device.isPaired then (s.reloadOnce site).dispatch site p true
  else (s.pair site .unpair).dispatch site p false

end Tether.Scene
