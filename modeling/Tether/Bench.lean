import Tether.Env.Basic
import Tether.Plugin.Roster

/-!
# Plugins without a device

A roster can be run without a device. Its plugins are told so, and whatever they ask for
comes to nothing: a reply is not accepted, and there is nothing to unpair or to switch.
-/

namespace Tether

/-- A roster that belongs to no device. -/
structure Bench where
  roster : Plugin.Roster := {}
  env : Env := {}

namespace Bench

/-- Decide which plugins are at work, and answer how many are. -/
def reload (b : Bench) (candidates : List Plugin.Candidate) : Nat × Bench :=
  let (roster, env) := b.env.call fun shop => b.roster.reload shop {} candidates
  (roster.loaded.length, ⟨roster, env⟩)

/-- What comes of what a plugin asks for. -/
def obey (i : Plugin.Instance) (e : Env) : Plugin.Request → Env
  | .reply _ => e.note i (.replied false)
  | .replyInPlace _ _ => e.record ((Callback.named i.key false).tell (.failure .notConnected))
  | .unpair | .setPlugin _ _ => e

/-- Give a packet to a plugin. -/
def give (p : Packet) (paired : Bool) (e : Env) (i : Plugin.Instance) : Env :=
  let (requests, e) := e.call fun shop => shop.handle i paired p
  requests.foldl (obey i) e

/-- Give a packet to every plugin that is to have it, and answer how many those are. -/
def dispatch (b : Bench) (p : Packet) (paired : Bool) : Nat × Bench :=
  let recipients := b.roster.recipients p.type paired
  (recipients.length, { b with env := recipients.foldl (give p paired) b.env })

/-- Finish every plugin. -/
def clear (b : Bench) : Bench :=
  let ((), env) := b.env.call fun shop => ((), b.roster.clear shop)
  ⟨{}, env⟩

end Bench

end Tether
