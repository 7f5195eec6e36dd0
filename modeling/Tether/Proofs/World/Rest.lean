import Tether.Proofs.World.Apart

/-!
# Blocking sends come to rest

Jobs are done in the order in which they come up, and each job of a blocking send leaves less to do
for it: to begin leads to a transfer at most, a transfer or a permit leads to waking the caller at
most, and waking leads to nothing (`serve_toil`). So if jobs are done and nothing else happens,
there is nothing left to do for the send after a while (`comes_to_rest`), whatever other jobs there
are and however many these lead to.
-/

namespace Tether

/-- How much a job of a send can lead to. -/
def Job.toil : Job → Nat
  | .begin _ => 3
  | .transfer _ | .resume .. => 2
  | .wake _ => 1
  | .work _ | .report .. | .expire .. => 0

/-- How much is left to do for a send, at most. -/
def Slip.toil (slip : Slip) : Nat :=
  (slip.ready.map Job.toil).sum

namespace Env

variable (e : Env) (c : Nat)

theorem toil_giveBack (result : Option Bool) :
    ((e.giveBack c result).slip c).toil = (e.slip c).toil := by
  rw [giveBack]
  split
  · split
    · rw [slip_record]
      rfl
    · rfl
  · rfl

theorem toil_spawn {job : Job} (h : job.call? = some c) :
    ((e.spawn job).slip c).toil = (e.slip c).toil + job.toil := by
  rw [slip_spawn_own e h, Slip.toil, Slip.toil, List.map_append, List.sum_append]
  rfl

theorem toil_follow (runner : Runner) (run : Links → Delivery.Course) :
    ((e.follow runner run).2.slip c).toil = (e.slip c).toil := by
  have hsame : ({ e with links := (run e.links).links }.record (run e.links).events).slip c =
      e.slip c := slip_record _ _ c
  rw [← hsame]
  simp only [follow]
  split <;> rfl

/-- A delivery that comes to its next stop may wake the caller, and that is all. -/
theorem toil_proceed (call : Call) (run : Links → Delivery.Course) :
    ((e.proceed c call run).slip c).toil ≤ (e.slip c).toil + 1 := by
  have hstop : ∀ (f : Env) (result : Option Bool),
      ((if call.deadline.isNone then f.giveBack c result
        else (f.changeCall c fun call => { call with outcome := some (result.getD false) }).spawn
          (.wake c)).slip c).toil ≤ (f.slip c).toil + 1 := by
    intro f result
    split
    · rw [toil_giveBack]
      exact Nat.le_succ _
    · rw [toil_spawn _ c rfl]
      exact Nat.le_refl _
  rw [proceed, ← e.toil_follow c (.call c) run]
  cases (e.follow (.call c) run).1 with
  | ended delivered => exact hstop _ (some delivered)
  | crashed => exact hstop _ none
  | waiting w => exact Nat.le_succ _

theorem toil_begin (links : LinkSet) :
    ((e.begin c links).slip c).toil ≤ (e.slip c).toil + 2 := by
  rw [begin]
  split
  · omega
  · next call _ =>
      split
      · exact (e.toil_proceed c call _).trans (by omega)
      · have hset : (((e.changeCall c fun call => { call with links }).spawn (.transfer c)).slip
            c).toil = (e.slip c).toil + 2 := toil_spawn _ c rfl
        dsimp only
        split
        · rw [toil_giveBack, hset]
        · rw [hset]

theorem toil_transfer : ((e.transfer c).slip c).toil ≤ (e.slip c).toil + 1 := by
  rw [transfer]
  split
  · omega
  · exact e.toil_proceed c _ _

theorem toil_resumeCall (w : Delivery.Waiting) :
    ((e.resumeCall c w).slip c).toil ≤ (e.slip c).toil + 1 := by
  rw [resumeCall]
  split
  · omega
  · exact e.toil_proceed c _ _

theorem toil_wake : ((e.wake c).slip c).toil = (e.slip c).toil := by
  rw [wake]
  split
  · rfl
  · split
    · exact e.toil_giveBack c _
    · split
      · exact e.toil_giveBack c _
      · rfl
    · rfl

/-- A job that is done for a send leaves less to do for it. -/
theorem serve_toil (links : LinkSet) {job : Job} (h : job.call? = some c) :
    ((e.serve links job).slip c).toil < (e.slip c).toil + job.toil := by
  cases job with
  | begin c' =>
      cases h
      exact Nat.lt_of_le_of_lt (e.toil_begin c links) (Nat.lt_succ_self _)
  | transfer c' =>
      cases h
      exact Nat.lt_of_le_of_lt (e.toil_transfer c) (Nat.lt_succ_self _)
  | resume runner w =>
      cases runner with
      | worker o => cases h
      | call c' =>
          cases h
          exact Nat.lt_of_le_of_lt (e.toil_resumeCall c w) (Nat.lt_succ_self _)
  | wake c' =>
      cases h
      exact Nat.lt_of_le_of_lt (Nat.le_of_eq (e.toil_wake c)) (Nat.lt_succ_self _)
  | work _ | report _ _ | expire _ _ => cases h

end Env

namespace World

variable {site : Site} {w u : World} {c : Nat} {job : Job}

/-- There is nothing left to do for a send. -/
def Rests (w : World) (c : Nat) : Prop :=
  ∀ job ∈ w.env.ready, job.call? ≠ some c

instance (w : World) (c : Nat) : Decidable (w.Rests c) :=
  inferInstanceAs (Decidable (∀ job ∈ w.env.ready, job.call? ≠ some c))

theorem rests_iff : w.Rests c ↔ (w.env.slip c).ready = [] := by
  simp [Rests, Env.slip]

/-- A job of the send is done. -/
theorem toil_next (hnext : w.next? = some (job, u)) (hjob : job.call? = some c)
    (hc : c < w.env.calls.length) :
    ((w.move site .next).env.slip c).toil < (w.env.slip c).toil := by
  have htaken := Env.slip_next (next_eq hnext).1 c
  rw [if_pos hjob] at htaken
  have hthere : c < (u.env.serve (u.callLinks c) job).calls.length :=
    Nat.lt_of_lt_of_le hc <|
      (Env.avoids_next (next_eq hnext).1).grows.trans (u.env.leaves_serve _ hjob).grows
  have hserved := u.env.serve_toil c (u.callLinks c) hjob
  rw [move, hnext]
  show ((u.perform site job).env.slip c).toil < _
  rw [u.perform_call site hjob, slip_sweep hthere, htaken]
  refine Nat.lt_of_lt_of_eq hserved ?_
  rw [Nat.add_comm]
  rfl

theorem next?_ready {rest : List Job} (h : w.env.ready = job :: rest) :
    w.next? = some (job, { w with env := { w.env with ready := rest } }) := by
  rw [next?, Env.next?, h]
  rfl

/-- Whatever a job leads to is to be done after all that was to be done before. -/
theorem exists_ready_next (site : Site) {rest : List Job} (h : w.env.ready = job :: rest) :
    ∃ more, (w.move site .next).env.ready = rest ++ more := by
  rw [move, next?_ready h]
  obtain ⟨more, hmore⟩ :=
    (leaves_perform site { w with env := { w.env with ready := rest } } job).ready
  exact ⟨more, hmore.symm⟩

/-- A job of the send has its turn, after those that are before it. -/
theorem exists_toil_lt (site : Site) {before after : List Job}
    (hready : w.env.ready = before ++ job :: after)
    (hbefore : ∀ other ∈ before, other.call? ≠ some c) (hjob : job.call? = some c)
    (hc : c < w.env.calls.length) :
    ∃ n, ((w.run site (.replicate n .next)).env.slip c).toil < (w.env.slip c).toil ∧
      c < (w.run site (.replicate n .next)).env.calls.length := by
  induction before generalizing w after with
  | nil =>
      have hnext := next?_ready hready
      exact ⟨1, toil_next hnext hjob hc,
        Nat.lt_of_lt_of_le hc (avoids_move_next site hnext).grows⟩
  | cons other before ih =>
      obtain ⟨hother, hbefore⟩ := List.forall_mem_cons.mp hbefore
      rw [List.cons_append] at hready
      have havoids := avoids_move_next site (next?_ready hready)
      obtain ⟨more, hmore⟩ := exists_ready_next site hready
      rw [List.append_assoc, List.cons_append] at hmore
      obtain ⟨n, hless, hthere⟩ := ih hmore hbefore (Nat.lt_of_lt_of_le hc havoids.grows)
      rw [havoids.slips c hother (.inl hc)] at hless
      exact ⟨n + 1, hless, hthere⟩

/-- If jobs are done there is nothing left to do for a send after a while. -/
theorem comes_to_rest (site : Site) (hc : c < w.env.calls.length) :
    ∃ n, (w.run site (.replicate n .next)).Rests c := by
  generalize htoil : (w.env.slip c).toil = toil
  induction toil using Nat.strongRecOn generalizing w with
  | ind toil ih =>
      by_cases hrests : w.Rests c
      · exact ⟨0, hrests⟩
      · obtain ⟨job, hready, hjob⟩ : ∃ job ∈ w.env.ready, job.call? = some c := by
          simpa [Rests] using hrests
        -- the first such job comes after jobs of others
        have hfound : (w.env.ready.find? fun job => job.call? = some c).isSome = true :=
          List.find?_isSome.mpr ⟨job, hready, decide_eq_true hjob⟩
        obtain ⟨first, hfirst⟩ := Option.isSome_iff_exists.mp hfound
        obtain ⟨hown, before, after, hsplit, hbefore⟩ := List.find?_eq_some_iff_append.mp hfirst
        obtain ⟨n, hless, hthere⟩ := exists_toil_lt site hsplit
          (fun other hother => by simpa using hbefore other hother) (of_decide_eq_true hown) hc
        obtain ⟨k, hrests⟩ := ih _ (htoil ▸ hless) hthere rfl
        refine ⟨n + k, ?_⟩
        rw [← List.replicate_append_replicate, run_append]
        exact hrests

end World

end Tether
