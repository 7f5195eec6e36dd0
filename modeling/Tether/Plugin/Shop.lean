import Tether.Packet.Basic
import Tether.Plugin.Info

/-!
# Where plugins are made

A plugin is somebody else's code. All that is known of it here is how it answers when it
is called, and that is a value: its conduct. A call may go well, fail or crash, and what
a plugin asks of its device while it handles a packet is a list of requests.

The shop holds the makers of plugins with their conduct, which may change from call to
call, and notes every call in order. A maker numbers the instances it makes, from one.
-/

namespace Tether.Plugin

/-- How a call of a plugin ends. -/
inductive Outcome where
  | ok
  | fail
  | crash
deriving DecidableEq, Repr

/-- What a plugin asks of its device while it handles a packet. -/
inductive Request where
  /-- Send the packet back under another type. -/
  | reply (type : String)
  /-- The same, in place of an unsent packet. -/
  | replyInPlace (type : String) (replace : Nat)
  | unpair
  | setPlugin (key : String) (enabled : Bool)
deriving DecidableEq, Repr

/-- How the plugins of a maker answer. -/
structure Conduct where
  /-- Whether an instance can be made. -/
  creates : Bool := true
  onCreate : Outcome := .ok
  onDestroy : Outcome := .ok
  /-- Whether the plugin can run here. -/
  compatible : Bool := true
  /-- Whether the plugin has what it cannot work without. -/
  hasRequired : Bool := true
  /-- Whether the plugin has what it can work without. -/
  hasOptional : Bool := true
  onPacket : Outcome := .ok
  requests : List Request := []
deriving DecidableEq, Repr

/-- An instance of a plugin. -/
structure Instance where
  key : String
  /-- Who made the instance. -/
  maker : String
  number : Nat
deriving DecidableEq, Repr

/-- A call of a plugin, or what came of one. -/
inductive Note where
  | refused
  /-- An instance was made, for a device or for none. -/
  | created (device : Option String) (paired : Bool)
  | onCreate (outcome : Outcome)
  | onDestroy (outcome : Outcome)
  | packet (paired : Bool) (p : Packet) (outcome : Outcome)
  /-- Whether there was a device to send a reply to. -/
  | replied (accepted : Bool)
  /-- Whether switching a plugin worked. -/
  | switched (accepted : Bool)
deriving DecidableEq, Repr

/-- A maker of plugins. -/
structure Maker where
  conduct : Conduct := {}
  /-- How many instances there have been. -/
  made : Nat := 0
deriving DecidableEq, Repr

/-- The makers, and the calls of plugins in order. -/
structure Shop where
  makers : Dict Maker := []
  notes : List (Instance × Note) := []
deriving DecidableEq, Repr

/-- What a new plugin can learn of its device. -/
structure Owner where
  id : Option String := none
  paired : Bool := false
deriving DecidableEq, Repr

namespace Shop

/-- A maker. -/
def maker (s : Shop) (id : String) : Maker :=
  (Dict.find? s.makers id).getD {}

/-- How an instance answers now. -/
def conduct (s : Shop) (i : Instance) : Conduct :=
  (s.maker i.maker).conduct

/-- Note a call. -/
def note (s : Shop) (i : Instance) (n : Note) : Shop :=
  { s with notes := s.notes ++ [(i, n)] }

/-- Have an instance made. -/
def create (s : Shop) (id key : String) (owner : Owner) : Option Instance × Shop :=
  let m := s.maker id
  if m.conduct.creates then
    let i : Instance := ⟨key, id, m.made + 1⟩
    let makers := Dict.put id { m with made := m.made + 1 } s.makers
    (some i, { s with makers }.note i (.created owner.id owner.paired))
  else (none, s.note ⟨key, id, 0⟩ .refused)

/-- Start an instance. -/
def start (s : Shop) (i : Instance) : Outcome × Shop :=
  let outcome := (s.conduct i).onCreate
  (outcome, s.note i (.onCreate outcome))

/-- End an instance. However it takes this, it is over. -/
def finish (s : Shop) (i : Instance) : Shop :=
  s.note i (.onDestroy (s.conduct i).onDestroy)

/-- Have an instance handle a packet, and learn what it asks for. -/
def handle (s : Shop) (i : Instance) (paired : Bool) (p : Packet) : List Request × Shop :=
  let c := s.conduct i
  (c.requests, s.note i (.packet paired p c.onPacket))

end Shop

end Tether.Plugin
