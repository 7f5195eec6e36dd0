import Tether.Env.Jobs
import Tether.Env.Work

/-!
# An outbox on its own

An outbox with links and a worker, but without a device: what `Outbox` and `Env` say,
put together to be watched.
-/

namespace Tether

/-- An outbox with its links and its worker. -/
structure Post where
  links : LinkSet := []
  env : Env := {}

namespace Post

/-- The number of the outbox. -/
def box : Nat := 0

/-- An outbox of a device, over links. -/
def «open» (device : String) (links : LinkSet) (known : Links) : Post :=
  ⟨links, (Env.openOutbox { links := known } device).2⟩

/-- The outbox. -/
def outbox (p : Post) : Outbox :=
  p.env.outbox box

/-- Take the next job. -/
def next? (p : Post) : Option (Job × Post) :=
  p.env.next?.map fun (job, env) => (job, { p with env })

/-- Do a job. There are no devices and no blocking sends, so only the worker has
any. -/
def perform (p : Post) : Job → Post
  | .work o => { p with env := p.env.work o p.links }
  | .resume (.worker o) w => { p with env := p.env.resumeWork o p.links w }
  | .resume (.call _) _ | .report .. | .expire .. | .begin _ | .transfer _ | .wake _ => p

/-- Do jobs until everything waits. -/
def settle (p : Post) : Post :=
  doJobs next? perform p.env.effort p

/-- Add a packet. -/
def add (p : Post) (packet : Packet) (replace : Option Nat) (callback : Callback) : Post :=
  { p with env := p.env.submit box packet replace callback }

/-- Take an unsent packet back. -/
def take (p : Post) (replace : Nat) : Option Packet × Post :=
  let (packet, env) := p.env.takeFrom box replace
  (packet, { p with env })

/-- Close the outbox. -/
def close (p : Post) : Post :=
  { p with env := p.env.closeOutbox box }

end Post

end Tether
