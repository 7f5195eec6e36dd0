import Tether.Event
import Tether.Link.Basic

/-!
# Deliveries

A packet is tried on one link after the other until one delivers it. Whoever waits for
the outcome is told once, when it is known over all the links: a link that fails says
nothing, for a later one may still deliver.

A delivery can come to a gated link that has no permit. It then stops, and what is left
of it is a value from which it goes on later.
-/

namespace Tether

/-- A packet to be delivered. -/
structure Delivery where
  packet : Packet
  callback : Callback
  /-- Whether the payload is to be sent before anything else is done. -/
  sameThread : Bool := false
  /-- The links, in the order in which they are tried. -/
  links : LinkSet
deriving DecidableEq, Repr

namespace Delivery

/-- A delivery that waits at a gated link. -/
structure Waiting where
  delivery : Delivery
  link : String
  /-- The links after this one. -/
  rest : LinkSet
  /-- Why the links before this one did not deliver. -/
  failures : List String
deriving DecidableEq, Repr

/-- How a delivery comes to a stop. -/
inductive Halt where
  | ended (delivered : Bool)
  | crashed
  | waiting (w : Waiting)
deriving DecidableEq, Repr

/-- A delivery up to its next stop. -/
structure Course where
  links : Links
  events : List Event
  halt : Halt
deriving DecidableEq, Repr

/-- A course with something that happened before it. -/
def Course.after (earlier : List Event) (c : Course) : Course :=
  { c with events := earlier ++ c.events }

/-- The fault of a packet that no link delivered. -/
def fault (d : Delivery) (failures : List String) : Fault :=
  if d.links = [] then .notConnected
  else
    .transport
      (d.packet.type ++ " packet not delivered over any of " ++ toString d.links.length
        ++ " link(s) (" ++ "; ".intercalate failures ++ ")")

/-- The progress that a link reports. More than all of a payload is all of it. -/
def reported (d : Delivery) (l : Link) : List Event :=
  l.progress.flatMap fun n => d.callback.tell (.progress (min n 100))

/-- Hand the packet to a link that it need not wait for, and go on with the reason if
the link does not deliver it. -/
def hand (d : Delivery) (id : String) (ls : Links) (next : String → Course) : Course :=
  let l := ls.link id
  let events := d.reported l
  match l.conduct with
  | .deliver => ⟨ls, events ++ [.sent id d.packet] ++ d.callback.tell .success, .ended true⟩
  | .refuse => (next (l.name ++ ": refused")).after events
  | .fail fault => (next (l.name ++ ": " ++ fault.message)).after events
  | .crash => ⟨ls, events, .crashed⟩

/-- Try links one after the other. -/
def tryLinks (d : Delivery) : LinkSet → Links → List String → Course
  | [], ls, failures => ⟨ls, d.callback.tell (.failure (d.fault failures)), .ended false⟩
  | id :: rest, ls, failures =>
      Course.after [.attempt id d.sameThread] <|
        match ls.pass? id with
        | none => ⟨ls, [], .waiting ⟨d, id, rest, failures⟩⟩
        | some ls => d.hand id ls fun reason => tryLinks d rest ls (failures ++ [reason])

/-- Deliver a packet. -/
def run (d : Delivery) (ls : Links) : Course :=
  d.tryLinks d.links ls []

/-- Go on once there is a permit. -/
def Waiting.resume (w : Waiting) (ls : Links) : Course :=
  w.delivery.hand w.link ls fun reason =>
    w.delivery.tryLinks w.rest ls (w.failures ++ [reason])

end Delivery

end Tether
