import Tether.Device.Details
import Tether.Link.Callback
import Tether.Pairing.Session
import Tether.Plugin.Shop

/-!
# What happened

Everything that others get to see, in the order in which it happened. Whoever is told
of pairing or of plugins may look around while being told, so those events keep what
could be seen at that moment.
-/

namespace Tether

/-- Someone who wants to be told. Being told may make them crash, which concerns nobody
else. -/
structure Observer where
  name : String
  crashes : Bool := false
deriving DecidableEq, Repr

/-- What can be seen of a device at a moment. -/
structure Glimpse where
  state : PairingState
  details : Details
  store : Store
deriving DecidableEq, Repr

/-- Something that happened. -/
inductive Event where
  /-- A packet was handed to a link. -/
  | attempt (link : String) (sameThread : Bool)
  /-- A link delivered a packet. -/
  | sent (link : String) (p : Packet)
  /-- Someone was told how a packet fared. -/
  | told (name : String) (report : Report)
  /-- A device will be told that a packet of pairing was not delivered. -/
  | undelivered (device : Nat) (reason : String)
  /-- A link was asked to close. -/
  | closing (link : String)
  /-- An observer was told of pairing. -/
  | pairing (observer : Observer) (event : PairingEvent) (seen : Glimpse)
  /-- A listener was told that the plugins of a device may have changed. -/
  | pluginsChanged (listener : Observer) (device : String) (seen : Glimpse)
  /-- A plugin was called. -/
  | plugin (holder : Plugin.Instance) (note : Plugin.Note)
  /-- A blocking send came back, with its result unless it crashed. -/
  | returned (name : String) (result : Option Bool)
deriving DecidableEq, Repr

/-- An event under other ids of links. -/
def Event.renameLinks (f : String → String) : Event → Event
  | attempt link sameThread => attempt (f link) sameThread
  | sent link p => sent (f link) p
  | closing link => closing (f link)
  | e => e

/-- What follows when someone is told how a packet fared. -/
def Callback.tell : Callback → Report → List Event
  | named _ true, .progress _ => []
  | named name _, report => [.told name report]
  | pairing device, .failure fault => [.undelivered device fault.message]
  | pairing _, _ => []
  | log _, _ => []

/-- Observers are told of pairing, whatever becomes of each of them. -/
def notifyPairing (observers : List Observer) (event : PairingEvent) (seen : Glimpse) :
    List Event :=
  observers.map fun o => .pairing o event seen

end Tether
