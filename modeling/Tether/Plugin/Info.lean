import Tether.Dict

/-!
# What is known of a plugin

A plugin is described before any instance of it is made: its key, what it receives and
sends, and what it needs. Whether it is of use with a peer follows from this and from
what the peer announced.
-/

namespace Tether.Plugin

/-- The description of a plugin. -/
structure Info where
  /-- The plugin's name in settings. -/
  key : String
  /-- The plugin's name for people. -/
  name : String
  /-- Whether the plugin is on where nobody decided. -/
  enabledByDefault : Bool := true
  /-- Whether the plugin works for devices that are not paired. -/
  listensToUnpaired : Bool := false
  /-- Packet types the plugin receives. -/
  incoming : Roll := []
  /-- Packet types the plugin sends. -/
  outgoing : Roll := []
  /-- What the plugin cannot work without. -/
  required : List String := []
  /-- What the plugin can work without. -/
  optional : List String := []
deriving DecidableEq, Repr

namespace Info

/-- Whether the plugin is of use with a peer that receives and sends these types. A
plugin without any types always is. -/
def isSupportedBy (i : Info) (peerIncoming peerOutgoing : Roll) : Bool :=
  i.incoming.isEmpty && i.outgoing.isEmpty
    || Roll.meets i.incoming peerOutgoing || Roll.meets i.outgoing peerIncoming

end Info

end Tether.Plugin
