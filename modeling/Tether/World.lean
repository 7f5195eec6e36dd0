import Tether.Device.Attachment
import Tether.Device.Inbound
import Tether.Env.Jobs
import Tether.Env.Work

/-!
# Devices together

All devices with what they share, and the time that passes for them. A device is there
as long as someone holds it: whoever keeps it, or a blocking send that has not come back.
When nobody does it goes, its outbox is closed, and no link knows it any more. A job for
a device that went does nothing.
-/

namespace Tether

/-- All devices with what they share. -/
structure World where
  env : Env := {}
  devices : List Device := []
  /-- How many devices there have been. -/
  born : Nat := 0
  /-- The devices that someone keeps. -/
  kept : List Nat := []

namespace World

/-- A device. -/
def device? (w : World) (ref : Nat) : Option Device :=
  w.devices.find? fun d => d.ref = ref

/-- Put a device in the place of itself. -/
def setDevice (w : World) (d : Device) : World :=
  { w with devices := w.devices.map fun other => if other.ref = d.ref then d else other }

/-- Do something to a device, if it is there. -/
def visit (w : World) {α : Type} (ref : Nat) (f : Scene → α × Scene) : Option α × World :=
  match w.device? ref with
  | none => (none, w)
  | some d =>
      let (answer, s) := f ⟨d, w.env⟩
      (some answer, { w with env := s.env }.setDevice s.device)

/-- Do something to a device that has no answer. -/
def act (w : World) (ref : Nat) (f : Scene → Scene) : World :=
  (w.visit ref fun s => ((), f s)).2

/-- Add a device and keep it. -/
def keep (w : World) (make : Nat → Device) : Nat × World :=
  let ref := w.born
  (ref,
    { w with devices := w.devices ++ [make ref], born := ref + 1, kept := w.kept ++ [ref] })

/-- Whether someone holds a device. -/
def isHeld (w : World) (ref : Nat) : Bool :=
  w.kept.contains ref || w.env.calls.any fun c => c.isOpen && c.device = ref

/-- Let a device go. -/
def part (e : Env) (d : Device) : Env :=
  let e :=
    match d.outbox with
    | some o => e.closeOutbox o
    | none => e
  { e with links := e.links.removeEverywhere d.ref }

/-- Let the devices go that nobody holds. -/
def sweep (w : World) : World :=
  let (stay, go) := w.devices.partition fun d => w.isHeld d.ref
  { w with devices := stay, env := go.foldl part w.env }

/-- Stop keeping a device. -/
def release (w : World) (ref : Nat) : World :=
  { w with kept := w.kept.filter (· ≠ ref) }.sweep

/-- The links that an outbox sends over. -/
def linksOf (w : World) (o : Nat) : LinkSet :=
  ((w.devices.find? fun d => d.outbox = some o).map Device.links).getD []

/-- The links of the device that a blocking send is for. -/
def callLinks (w : World) (c : Nat) : LinkSet :=
  ((w.env.calls[c]?.bind fun call => w.device? call.device).map Device.links).getD []

/-- Do a job. -/
def perform (site : Site) (w : World) (job : Job) : World :=
  let w :=
    match job with
    | .work o => { w with env := w.env.work o (w.linksOf o) }
    | .resume (.worker o) d => { w with env := w.env.resumeWork o (w.linksOf o) d }
    | .resume (.call c) d => { w with env := w.env.resumeCall c d }
    | .report ref reason => w.act ref fun s => s.pair site (.sendFailed reason)
    | .expire ref generation => w.act ref fun s => s.pair site (.expired generation)
    | .begin c => { w with env := w.env.begin c (w.callLinks c) }
    | .transfer c => { w with env := w.env.transfer c }
    | .wake c => { w with env := w.env.wake c }
  w.sweep

/-- Take the next job. -/
def next? (w : World) : Option (Job × World) :=
  w.env.next?.map fun (job, env) => (job, { w with env })

/-- Do jobs until everything waits. -/
def settle (site : Site) (w : World) : World :=
  doJobs next? (perform site) w.env.effort w

/-- Go from alarm to alarm up to a time, at most so many times. -/
def ring (site : Site) (stop : Nat) : Nat → World → World
  | 0, w => w
  | n + 1, w =>
      match w.env.nextDue? with
      | some due =>
          if due ≤ stop then ring site stop n ({ w with env := w.env.moveTo due }.settle site)
          else w
      | none => w

/-- Let time pass. Each alarm goes off at its own time, and what it leads to is done
before the next one. -/
def advance (site : Site) (w : World) (ms : Nat) : World :=
  let stop := w.env.clock + ms
  let w := w.settle site
  let w := ring site stop w.env.alarms.length w
  { w with env.clock := stop }

/-- Hand a packet that was read from a link to every device that receives it, and
answer how many those are. -/
def deliver (site : Site) (w : World) (link : String) (p : Packet) : Nat × World :=
  let receivers := (w.env.links.link link).receivers
  (receivers.length, receivers.foldl (fun w ref => w.act ref fun s => s.receive site p) w)

end World

end Tether
