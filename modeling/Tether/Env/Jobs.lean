import Tether.Env.Basic

/-!
# Doing jobs

Jobs are done one after the other until everything waits. A job can lead to others, but
not without end: each is one of those that `Env.effort` counts.
-/

namespace Tether

/-- Do jobs until none is left, at most so many. -/
def doJobs {σ : Type} (next? : σ → Option (Job × σ)) (perform : σ → Job → σ) : Nat → σ → σ
  | 0, s => s
  | n + 1, s =>
      match next? s with
      | some (job, s) => doJobs next? perform n (perform s job)
      | none => s

end Tether
