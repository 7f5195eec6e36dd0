import Tether.Event

/-!
# Outboxes

A device that has a link has an outbox. Packets leave it in the order in which they
came, one at a time. A packet with a positive replacement number takes the place of an
unsent one with the same number, and nobody is told about the packet that gave way.

A closed outbox gives nothing out any more. What was unsent when it closed fails, and so
does whatever comes later.
-/

namespace Tether

/-- What the worker of an outbox is doing. -/
inductive Outbox.Worker where
  /-- Waiting for a packet. -/
  | idle
  /-- At a packet, or about to look for one. -/
  | awake
  /-- Gone for good. -/
  | stopped
deriving DecidableEq, Repr

/-- A packet that waits to be sent. -/
structure Outbox.Item where
  packet : Packet
  /-- The positive number under which the packet can be replaced. -/
  replace : Option Nat
  callback : Callback
deriving DecidableEq, Repr

/-- An outbox. -/
structure Outbox where
  device : String
  items : List Outbox.Item := []
  closed : Bool := false
  worker : Outbox.Worker := .awake
deriving DecidableEq, Repr

namespace Outbox

/-- The number under which a packet can be replaced; zero is none. -/
def slot (replace : Option Nat) : Option Nat :=
  replace.filter (0 < ·)

/-- Put an item in the place of the one with its number. -/
def supersede (item : Item) : List Item → Option (List Item)
  | [] => none
  | i :: rest =>
      if i.replace = item.replace then some (item :: rest)
      else (supersede item rest).map (i :: ·)

/-- What became of a packet that was added. -/
inductive Added where
  | refused
  | superseded
  | queued
deriving DecidableEq, Repr

/-- Add a packet, and answer what became of it. A closed outbox refuses it. -/
def add (o : Outbox) (p : Packet) (replace : Option Nat) (callback : Callback) :
    Added × Outbox × List Event :=
  if o.closed then (.refused, o, callback.tell (.failure .notConnected))
  else
    let item : Item := ⟨p, slot replace, callback⟩
    match if item.replace.isSome then supersede item o.items else none with
    | some items => (.superseded, { o with items }, [])
    | none => (.queued, { o with items := o.items ++ [item] }, [])

/-- Take back the unsent packet with a number. -/
def take (o : Outbox) (replace : Nat) : Option Packet × Outbox :=
  if replace = 0 then (none, o)
  else
    match o.items.find? fun i => i.replace = some replace with
    | none => (none, o)
    | some item =>
        (some item.packet, { o with items := o.items.eraseP fun i => i.replace = some replace })

/-- Take out the next packet to be sent. -/
def pop? (o : Outbox) : Option (Item × Outbox) :=
  if o.closed then none
  else
    match o.items with
    | [] => none
    | item :: items => some (item, { o with items })

/-- Close the outbox. Every unsent packet fails. -/
def close (o : Outbox) : Outbox × List Event :=
  if o.closed then (o, [])
  else
    ({ o with closed := true, items := [] },
      o.items.flatMap fun i => i.callback.tell (.failure .notConnected))

/-- An outbox in diagnostics. -/
def shown (o : Outbox) : String :=
  "DevicePacketQueue \x7b device_id: " ++ Text.quoted o.device ++ ", pending: "
    ++ toString o.items.length ++ " \x7d"

end Outbox

end Tether
