import Tether.Env.Basic

/-!
# Workers and blocking sends

What is done by jobs that need no device but only its links: emptying an outbox, and
sending a packet for a caller who waits.

A worker goes on until its outbox is empty or closed, or until it has to wait. A crash
of a link ends it for good; the outbox still takes packets, and nobody sends them.

A caller without a payload waits for the delivery. With a payload the delivery is a job
of its own, so that the caller can stop waiting for it: whichever comes first, the end of
the delivery or the deadline, makes the call come back, and the delivery goes on in any
case.
-/

namespace Tether.Env

/-- Carry out a delivery up to its next stop. -/
def follow (e : Env) (runner : Runner) (run : Links → Delivery.Course) :
    Delivery.Halt × Env :=
  let c := run e.links
  let e := { e with links := c.links }.record c.events
  match c.halt with
  | .waiting w => (c.halt, { e with parked := e.parked ++ [(runner, w)] })
  | halt => (halt, e)

/-- Change what the worker of an outbox is doing. -/
def setWorker (e : Env) (o : Nat) (worker : Outbox.Worker) : Env :=
  e.setOutbox o { e.outbox o with worker }

/-- What the worker does when its delivery stopped, and whether it looks for another
packet. -/
def settleWorker (e : Env) (o : Nat) : Delivery.Halt → Bool × Env
  | .ended _ => (true, e)
  | .crashed => (false, e.setWorker o .stopped)
  | .waiting _ => (false, e)

/-- Have the worker send one packet over links, and answer whether it looks for
another. -/
def workOnce (e : Env) (o : Nat) (links : LinkSet) : Bool × Env :=
  match (e.outbox o).pop? with
  | none => (false, e.setWorker o (if (e.outbox o).closed then .stopped else .idle))
  | some (item, box) =>
      let d : Delivery := ⟨item.packet, item.callback, false, links⟩
      let (halt, e) := (e.setOutbox o box).follow (.worker o) d.run
      e.settleWorker o halt

/-- Have the worker go on, with at most so many packets. -/
def workAtMost (o : Nat) (links : LinkSet) : Nat → Env → Env
  | 0, e => e
  | n + 1, e =>
      match e.workOnce o links with
      | (true, e) => workAtMost o links n e
      | (false, e) => e

/-- Have the worker go on until it has to wait. -/
def work (e : Env) (o : Nat) (links : LinkSet) : Env :=
  workAtMost o links ((e.outbox o).items.length + 1) e

/-- Have the worker go on with the delivery that it was at. -/
def resumeWork (e : Env) (o : Nat) (links : LinkSet) (w : Delivery.Waiting) : Env :=
  let (halt, e) := e.follow (.worker o) w.resume
  match e.settleWorker o halt with
  | (true, e) => e.work o links
  | (false, e) => e

/-- Change a blocking send. -/
def changeCall (e : Env) (c : Nat) (f : Call → Call) : Env :=
  { e with calls := e.calls.modify c f }

/-- Let a blocking send come back. -/
def giveBack (e : Env) (c : Nat) (result : Option Bool) : Env :=
  match e.calls[c]? with
  | some call =>
      if call.isOpen then
        (e.changeCall c fun call => { call with isOpen := false }).record
          [.returned call.name result]
      else e
  | none => e

/-- What follows when the delivery of a blocking send stopped. Without a payload the
caller was waiting for just this; with one it has to be woken. -/
def settleCall (e : Env) (c : Nat) (call : Call) (halt : Delivery.Halt) : Env :=
  let stop (result : Option Bool) : Env :=
    if call.deadline.isNone then e.giveBack c result
    else
      (e.changeCall c fun call => { call with outcome := some (result.getD false) }).spawn
        (.wake c)
  match halt with
  | .ended delivered => stop (some delivered)
  | .crashed => stop none
  | .waiting _ => e

/-- The delivery of a blocking send over links. -/
def callDelivery (call : Call) (links : LinkSet) : Delivery :=
  ⟨call.packet, call.callback, call.sameThread, links⟩

/-- Start a blocking send over the links that are attached now. -/
def begin (e : Env) (c : Nat) (links : LinkSet) : Env :=
  match e.calls[c]? with
  | none => e
  | some call =>
      match call.deadline with
      | none =>
          let (halt, e) := e.follow (.call c) (callDelivery call links).run
          e.settleCall c call halt
      | some deadline =>
          let e := (e.changeCall c fun call => { call with links }).spawn (.transfer c)
          if deadline ≤ e.clock then e.giveBack c (some false) else e

/-- Transfer the payload of a blocking send. -/
def transfer (e : Env) (c : Nat) : Env :=
  match e.calls[c]? with
  | none => e
  | some call =>
      let (halt, e) := e.follow (.call c) (callDelivery call call.links).run
      e.settleCall c call halt

/-- Go on with the delivery of a blocking send. -/
def resumeCall (e : Env) (c : Nat) (w : Delivery.Waiting) : Env :=
  match e.calls[c]? with
  | none => e
  | some call =>
      let (halt, e) := e.follow (.call c) w.resume
      e.settleCall c call halt

/-- Let a blocking send come back if its delivery ended or its deadline has passed. -/
def wake (e : Env) (c : Nat) : Env :=
  match e.calls[c]? with
  | none => e
  | some call =>
      match call.outcome, call.deadline with
      | some result, _ => e.giveBack c (some result)
      | none, some deadline => if deadline ≤ e.clock then e.giveBack c (some false) else e
      | none, none => e

end Tether.Env
