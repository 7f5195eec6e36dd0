import Tether.Dict
import Tether.Fault

/-!
# Links

A link is a connection to one device over some transport. What it does with a packet is
not decided here, so that is a value: its conduct. A gated link is slow: it makes a
packet wait until there is a permit for it.

A device holds its links in the order in which they were attached, each once.
-/

namespace Tether

/-- What a link does with a packet. -/
inductive Link.Conduct where
  | deliver
  | refuse
  | fail (fault : Fault)
  | crash
deriving DecidableEq, Repr

/-- A link. -/
structure Link where
  /-- The name of the transport. -/
  name : String
  gated : Bool := false
  conduct : Link.Conduct := .deliver
  /-- The progress of payload that the link reports for each packet. -/
  progress : List Nat := []
  /-- How many packets may pass a gated link without waiting. -/
  permits : Nat := 0
  /-- The devices that receive what is read from the link. -/
  receivers : List Nat := []
  /-- How often the link was asked to close. -/
  closings : Nat := 0
deriving DecidableEq, Repr

/-- Links by id. -/
abbrev Links := Dict Link

namespace Links

/-- A link. -/
def link (ls : Links) (id : String) : Link :=
  (Dict.find? ls id).getD ⟨id, false, .refuse, [], 0, [], 0⟩

/-- Change a link. -/
def change (ls : Links) (id : String) (f : Link → Link) : Links :=
  Dict.adjust id f ls

/-- Let a packet onto a link, if it need not wait. -/
def pass? (ls : Links) (id : String) : Option Links :=
  let l := ls.link id
  if !l.gated then some ls
  else if l.permits = 0 then none
  else some (ls.change id fun l => { l with permits := l.permits - 1 })

/-- Register a device as receiver. -/
def addReceiver (ls : Links) (id : String) (device : Nat) : Links :=
  ls.change id fun l => { l with receivers := l.receivers ++ [device] }

/-- Take a device out of the receivers. -/
def removeReceiver (ls : Links) (id : String) (device : Nat) : Links :=
  ls.change id fun l => { l with receivers := l.receivers.filter (· ≠ device) }

/-- Take a device out of the receivers of every link. -/
def removeEverywhere (ls : Links) (device : Nat) : Links :=
  ls.map fun e => (e.1, { e.2 with receivers := e.2.receivers.filter (· ≠ device) })

end Links

/-- The ids of attached links, in the order in which they were attached. -/
abbrev LinkSet := List String

namespace LinkSet

/-- Attach a link; `none` if it is attached already. -/
def add? (s : LinkSet) (id : String) : Option LinkSet :=
  if s.contains id then none else some (s ++ [id])

/-- Detach a link; `none` if it is not attached. -/
def remove? (s : LinkSet) (id : String) : Option LinkSet :=
  if s.contains id then some (s.filter (· ≠ id)) else none

end LinkSet

end Tether
