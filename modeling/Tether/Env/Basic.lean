import Tether.Link.Delivery
import Tether.Outbox
import Tether.Settings.Ledger

/-!
# Everything around the devices

Links, settings, makers of plugins, outboxes and the work that is to be done: all that
devices share, as one value.

Work is a list of jobs. Whatever is done at once is done to its end; what comes later is
a job at the end of the list, and jobs are taken from the front. A job that has to wait
is not in the list: a delivery at a gated link is parked until there is a permit, and
what waits for a time is an alarm.
-/

namespace Tether

/-- Who carries out a delivery. -/
inductive Runner where
  /-- The worker of an outbox. -/
  | worker (outbox : Nat)
  /-- A blocking send. -/
  | call (number : Nat)
deriving DecidableEq, Repr

/-- Something to be done. -/
inductive Job where
  /-- Let the worker of an outbox go on. -/
  | work (outbox : Nat)
  /-- Let a delivery go on that got its permit. -/
  | resume (runner : Runner) (w : Delivery.Waiting)
  /-- Tell a device that a packet of pairing was not delivered. -/
  | report (device : Nat) (reason : String)
  /-- Tell a device that a timer of pairing ran out. -/
  | expire (device : Nat) (generation : Nat)
  /-- Start a blocking send. -/
  | begin (call : Nat)
  /-- Transfer the payload of a blocking send. -/
  | transfer (call : Nat)
  /-- See whether a blocking send can come back. -/
  | wake (call : Nat)
deriving DecidableEq, Repr

/-- A job for a time. -/
structure Alarm where
  due : Nat
  job : Job
deriving DecidableEq, Repr

/-- A blocking send. -/
structure Call where
  name : String
  device : Nat
  packet : Packet
  callback : Callback
  sameThread : Bool
  /-- When the caller stops waiting; without a payload it waits to the end. -/
  deadline : Option Nat
  /-- The links that were attached when the send started. -/
  links : LinkSet := []
  /-- What came of the transfer, once it ended. -/
  outcome : Option Bool := none
  /-- Whether the caller still waits. -/
  isOpen : Bool := true
deriving DecidableEq, Repr

/-- All that devices share. -/
structure Env where
  /-- Milliseconds. -/
  clock : Nat := 0
  links : Links := []
  makers : Dict Plugin.Maker := []
  ledger : Ledger := {}
  outboxes : List Outbox := []
  /-- Deliveries that wait for a permit, in the order in which they came. -/
  parked : List (Runner × Delivery.Waiting) := []
  ready : List Job := []
  /-- What waits for a time, in the order in which it was set. -/
  alarms : List Alarm := []
  calls : List Call := []
  ids : Packet.IdSource := {}
  trace : List Event := []

namespace Env

/-- The settings. -/
def store (e : Env) : Store :=
  e.ledger.store

/-- Put a job at the end of the list. -/
def spawn (e : Env) (job : Job) : Env :=
  { e with ready := e.ready ++ [job] }

/-- The job that an event gives rise to. -/
def job? : Event → Option Job
  | .undelivered device reason => some (.report device reason)
  | _ => none

/-- Let events happen. -/
def record (e : Env) (events : List Event) : Env :=
  { e with trace := e.trace ++ events, ready := e.ready ++ events.filterMap job? }

/-- Have a job done after a time; without any time to wait it is done next. -/
def setAlarm (e : Env) (wait : Nat) (job : Job) : Env :=
  if wait = 0 then e.spawn job
  else { e with alarms := e.alarms ++ [⟨e.clock + wait, job⟩] }

/-- A new id for a packet. -/
def newId (e : Env) : Int × Env :=
  let (id, ids) := e.ids.next e.clock
  (id, { e with ids })

/-- Write settings and make do without if that fails. -/
def tryWrite (e : Env) (c : Store.Change) : Env :=
  { e with ledger := e.ledger.tryWrite c }

/-- Call plugins. -/
def call (e : Env) {α : Type} (f : Plugin.Shop → α × Plugin.Shop) : α × Env :=
  let (answer, shop) := f ⟨e.makers, []⟩
  (answer,
    { e.record (shop.notes.map fun n => .plugin n.1 n.2) with makers := shop.makers })

/-- Note what came of a call of a plugin. -/
def note (e : Env) (i : Plugin.Instance) (n : Plugin.Note) : Env :=
  e.record [.plugin i n]

/-- An outbox. One that never was is closed. -/
def outbox (e : Env) (o : Nat) : Outbox :=
  e.outboxes[o]?.getD ⟨"", [], true, .stopped⟩

/-- Put an outbox in the place of another. -/
def setOutbox (e : Env) (o : Nat) (box : Outbox) : Env :=
  { e with outboxes := e.outboxes.set o box }

/-- Open an outbox and start its worker. -/
def openOutbox (e : Env) (device : String) : Nat × Env :=
  let o := e.outboxes.length
  let box : Outbox := { device }
  (o, { e with outboxes := e.outboxes ++ [box] }.spawn (.work o))

/-- Add a packet to an outbox. A new one wakes the worker. -/
def submit (e : Env) (o : Nat) (p : Packet) (replace : Option Nat) (callback : Callback) :
    Env :=
  let (added, box, events) := (e.outbox o).add p replace callback
  let e := (e.setOutbox o box).record events
  if added = .queued ∧ box.worker = .idle then
    (e.setOutbox o { box with worker := .awake }).spawn (.work o)
  else e

/-- Take an unsent packet back from an outbox. -/
def takeFrom (e : Env) (o : Nat) (replace : Nat) : Option Packet × Env :=
  let (p, box) := (e.outbox o).take replace
  (p, e.setOutbox o box)

/-- Close an outbox. -/
def closeOutbox (e : Env) (o : Nat) : Env :=
  let (box, events) := (e.outbox o).close
  (e.setOutbox o box).record events

/-- Ask a link to close. -/
def closeLink (e : Env) (id : String) : Env :=
  { e with links := e.links.change id fun l => { l with closings := l.closings + 1 } }.record
    [.closing id]

/-- Take out the first delivery that waits at a link. -/
def unpark? (id : String) :
    List (Runner × Delivery.Waiting) →
      Option ((Runner × Delivery.Waiting) × List (Runner × Delivery.Waiting))
  | [] => none
  | p :: rest =>
      if p.2.link = id then some (p, rest)
      else (unpark? id rest).map fun (q, others) => (q, p :: others)

/-- Give a link one permit. The delivery that waited longest takes it. -/
def permit (e : Env) (id : String) : Env :=
  match unpark? id e.parked with
  | some ((runner, w), parked) => { e with parked }.spawn (.resume runner w)
  | none =>
      { e with links := e.links.change id fun l => { l with permits := l.permits + 1 } }

/-- Give a link permits. -/
def release (e : Env) (id : String) : Nat → Env
  | 0 => e
  | n + 1 => (e.permit id).release id n

/-- Take the next job. -/
def next? (e : Env) : Option (Job × Env) :=
  match e.ready with
  | [] => none
  | job :: ready => some (job, { e with ready })

/-- The earliest time that something waits for. -/
def nextDue? (e : Env) : Option Nat :=
  (e.alarms.map Alarm.due).min?

/-- Move to a time, and make ready what waited for it. -/
def moveTo (e : Env) (time : Nat) : Env :=
  let (due, later) := e.alarms.partition fun a => a.due ≤ time
  { e with clock := time, alarms := later, ready := e.ready ++ due.map Alarm.job }

end Env

/-- A bound on the jobs that a job can lead to, itself among them. -/
def Job.effort : Job → Nat
  | .work _ | .report .. | .wake _ => 1
  | .resume .. | .transfer _ => 2
  | .begin _ => 3
  | .expire .. => 4

/-- A bound on the jobs that can be done before everything waits. An unsent packet may
fail, and its failure may have to be reported. -/
def Env.effort (e : Env) : Nat :=
  e.ready.foldl (fun n job => n + job.effort) 0
    + 2 * e.outboxes.foldl (fun n o => n + o.items.length) 0

end Tether
