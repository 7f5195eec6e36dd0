import Tether.Proofs.Env.Slip
import Tether.Proofs.Env.Tally

/-!
# What is done for a blocking send

A job of a send changes its slip and lets things happen, and nothing else of it matters
(`Env.Does`). There is one lemma for each way that a job can go: a delivery comes to a gate or to
its end, and a caller is woken for good or in vain.

Two more things come to a slip from without. A permit makes a job of a delivery that was parked
(`slip_permit`), and time makes jobs of alarms (`slip_moveTo`).
-/

namespace Tether.Env

/-- The environment after a job of a blocking send. One that begins takes the links that are
attached. -/
def serve (e : Env) (links : LinkSet) : Job → Env
  | .begin c => e.begin c links
  | .transfer c => e.transfer c
  | .resume (.call c) w => e.resumeCall c w
  | .wake c => e.wake c
  | .resume (.worker _) _ | .work _ | .report .. | .expire .. => e

variable {e f : Env} {c : Nat} {call : Call}

/-- A job of one send leaves the others alone. -/
theorem leaves_serve (e : Env) (links : LinkSet) {job : Job} (h : job.call? = some c) :
    e.Leaves (some c) (e.serve links job) := by
  have hother : ∀ {other}, some c ≠ some other → c ≠ other := fun hne heq => hne (congrArg some heq)
  cases job with
  | begin c' =>
      cases h
      exact (e.errands_begin c links).carries.leaves fun _ hc =>
        e.slip_begin_other (hother hc) links
  | transfer c' =>
      cases h
      exact (e.errands_transfer c).carries.leaves fun _ hc => e.slip_transfer_other (hother hc)
  | wake c' =>
      cases h
      exact (e.errands_wake c).carries.leaves fun _ hc => e.slip_wake_other (hother hc)
  | resume runner w =>
      cases runner with
      | worker o => cases h
      | call c' =>
          cases h
          exact (e.errands_resumeCall c w).carries.leaves fun _ hc =>
            e.slip_resumeCall_other (hother hc) w
  | work _ | report _ _ | expire _ _ => cases h

/-- What becomes of the slip of a send, and what happens meanwhile. -/
structure Does (e : Env) (c : Nat) (slip : Slip) (events : List Event) (f : Env) : Prop where
  slip : f.slip c = slip
  trace : f.trace = e.trace ++ events

/-! ## Callers -/

/-- A caller that waits comes back. -/
theorem giveBack_open (hcall : e.calls[c]? = some call) (hopen : call.isOpen = true)
    (result : Option Bool) :
    e.Does c { e.slip c with call := some { call with isOpen := false } }
      [.returned call.name result] (e.giveBack c result) := by
  rw [giveBack, hcall]
  dsimp only
  rw [if_pos hopen]
  exact ⟨by rw [slip_record, slip_changeCall_own hcall], rfl⟩

/-- A caller comes back once. -/
theorem giveBack_closed (hcall : e.calls[c]? = some call) (hclosed : call.isOpen = false)
    (result : Option Bool) : e.giveBack c result = e := by
  rw [giveBack, hcall]
  dsimp only
  rw [if_neg (Bool.eq_false_iff.mp hclosed)]

/-- Waking a caller that came back is in vain. -/
theorem wake_closed (hcall : e.calls[c]? = some call) (hclosed : call.isOpen = false) :
    e.wake c = e := by
  rw [wake, hcall]
  dsimp only
  split
  · exact giveBack_closed hcall hclosed _
  · split
    · exact giveBack_closed hcall hclosed _
    · rfl
  · rfl

/-- A caller that is woken after the delivery ended comes back with what came of it. -/
theorem wake_over (hcall : e.calls[c]? = some call) {delivered : Bool}
    (hover : call.outcome = some delivered) : e.wake c = e.giveBack c (some delivered) := by
  rw [wake, hcall]
  dsimp only
  rw [hover]

/-- A caller that is woken at the deadline comes back with nothing to show. -/
theorem wake_due (hcall : e.calls[c]? = some call) (hnot : call.outcome = none) {due : Nat}
    (hdue : call.deadline = some due) (hlate : due ≤ e.clock) :
    e.wake c = e.giveBack c (some false) := by
  rw [wake, hcall]
  dsimp only
  rw [hnot, hdue]
  exact if_pos hlate

/-- A caller that is woken too early waits on. -/
theorem wake_early (hcall : e.calls[c]? = some call) (hnot : call.outcome = none) {due : Nat}
    (hdue : call.deadline = some due) (hearly : e.clock < due) : e.wake c = e := by
  rw [wake, hcall]
  dsimp only
  rw [hnot, hdue]
  exact if_neg (Nat.not_le.mpr hearly)

/-! ## Deliveries -/

/-- Carry the delivery of a send to its next stop. -/
def proceed (e : Env) (c : Nat) (call : Call) (run : Links → Delivery.Course) : Env :=
  (e.follow (.call c) run).2.settleCall c call (e.follow (.call c) run).1

theorem begin_inPlace (hcall : e.calls[c]? = some call) (hnone : call.deadline = none)
    (links : LinkSet) : e.begin c links = e.proceed c call (callDelivery call links).run := by
  rw [begin, hcall]
  dsimp only
  rw [hnone]
  rfl

theorem transfer_eq (hcall : e.calls[c]? = some call) :
    e.transfer c = e.proceed c call (callDelivery call call.links).run := by
  rw [transfer, hcall]
  rfl

theorem resumeCall_eq (hcall : e.calls[c]? = some call) (w : Delivery.Waiting) :
    e.resumeCall c w = e.proceed c call w.resume := by
  rw [resumeCall, hcall]
  rfl

variable {run : Links → Delivery.Course}

theorem slip_park_own (e : Env) (c : Nat) (w : Delivery.Waiting) :
    Env.slip { e with parked := e.parked ++ [(.call c, w)] } c =
      { e.slip c with parked := (e.slip c).parked ++ [(.call c, w)] } := by
  simp [slip, List.filter_append, Runner.call?]

/-- A delivery that waits is parked. -/
theorem proceed_waiting (call : Call) {w : Delivery.Waiting} (h : (run e.links).halt = .waiting w) :
    e.Does c { e.slip c with parked := (e.slip c).parked ++ [(.call c, w)] } (run e.links).events
      (e.proceed c call run) := by
  have hfollow : e.follow (.call c) run =
      (.waiting w, { { e with links := (run e.links).links }.record (run e.links).events with
        parked := e.parked ++ [(.call c, w)] }) := by
    rw [follow]
    dsimp only
    rw [h]
    rfl
  have hslip := slip_record { e with links := (run e.links).links } (run e.links).events c
  rw [proceed, hfollow]
  refine ⟨(slip_park_own _ c w).trans ?_, rfl⟩
  rw [hslip]
  rfl

theorem follow_ended (runner : Runner) {delivered : Bool}
    (h : (run e.links).halt = .ended delivered) :
    ∃ f, e.follow runner run = (.ended delivered, f) ∧ f.calls = e.calls ∧
      f.trace = e.trace ++ (run e.links).events ∧ ∀ c, f.slip c = e.slip c :=
  ⟨{ e with links := (run e.links).links }.record (run e.links).events, by rw [follow, h], rfl, rfl,
    slip_record _ _⟩

/-- A delivery that ended is followed by whoever waited for it in place. -/
theorem settleCall_inPlace (e : Env) (c : Nat) (hnone : call.deadline = none) (delivered : Bool) :
    e.settleCall c call (.ended delivered) = e.giveBack c (some delivered) := by
  simp [settleCall, hnone]

/-- A delivery that ended wakes whoever waited for it elsewhere. -/
theorem settleCall_apart (e : Env) (c : Nat) {due : Nat} (hdue : call.deadline = some due)
    (delivered : Bool) :
    e.settleCall c call (.ended delivered) =
      (e.changeCall c fun call => { call with outcome := some delivered }).spawn (.wake c) := by
  simp [settleCall, hdue]

section Ended

variable {delivered : Bool} (hcall : e.calls[c]? = some call)
  (h : (run e.links).halt = .ended delivered)
include hcall h

theorem proceed_inPlace (hopen : call.isOpen = true) (hnone : call.deadline = none) :
    e.Does c { e.slip c with call := some { call with isOpen := false } }
      ((run e.links).events ++ [.returned call.name (some delivered)]) (e.proceed c call run) := by
  obtain ⟨followed, hfollow, hcalls, htrace, hslip⟩ := follow_ended (.call c) h
  rw [← hcalls] at hcall
  obtain ⟨hback, hsaid⟩ := giveBack_open hcall hopen (some delivered)
  rw [proceed, hfollow, settleCall_inPlace _ c hnone]
  rw [hslip] at hback
  rw [htrace, List.append_assoc] at hsaid
  exact ⟨hback, hsaid⟩

theorem proceed_apart {due : Nat} (hdue : call.deadline = some due) :
    e.Does c
      { e.slip c with
        call := some { call with outcome := some delivered }
        ready := (e.slip c).ready ++ [.wake c] }
      (run e.links).events (e.proceed c call run) := by
  obtain ⟨followed, hfollow, hcalls, htrace, hslip⟩ := follow_ended (.call c) h
  rw [← hcalls] at hcall
  rw [proceed, hfollow, settleCall_apart _ c hdue]
  refine ⟨?_, htrace⟩
  rw [slip_spawn_own _ rfl, slip_changeCall_own hcall, hslip]

end Ended

/-! ## The start -/

/-- A send with a deadline starts its transfer apart. -/
theorem begin_apart (hcall : e.calls[c]? = some call) {due : Nat} (hdue : call.deadline = some due)
    (links : LinkSet) :
    e.begin c links =
      let apart := (e.changeCall c fun call => { call with links }).spawn (.transfer c)
      if due ≤ e.clock then apart.giveBack c (some false) else apart := by
  rw [begin, hcall]
  dsimp only
  rw [hdue]
  rfl

/-- The caller waits if there is time. -/
theorem begin_early (hcall : e.calls[c]? = some call) {due : Nat} (hdue : call.deadline = some due)
    (hearly : e.clock < due) (links : LinkSet) :
    e.Does c
      { e.slip c with
        call := some { call with links }
        ready := (e.slip c).ready ++ [.transfer c] }
      [] (e.begin c links) := by
  rw [begin_apart hcall hdue, if_neg (Nat.not_le.mpr hearly)]
  refine ⟨?_, (List.append_nil _).symm⟩
  rw [slip_spawn_own _ rfl, slip_changeCall_own hcall]

/-- Without any time the caller does not wait, and the transfer starts all the same. -/
theorem begin_late (hcall : e.calls[c]? = some call) (hopen : call.isOpen = true) {due : Nat}
    (hdue : call.deadline = some due) (hlate : due ≤ e.clock) (links : LinkSet) :
    e.Does c
      { e.slip c with
        call := some { call with links, isOpen := false }
        ready := (e.slip c).ready ++ [.transfer c] }
      [.returned call.name (some false)] (e.begin c links) := by
  rw [begin_apart hcall hdue, if_pos hlate]
  have hapart : ((e.changeCall c fun call => { call with links }).spawn (.transfer c)).calls[c]? =
      some { call with links } := by
    simp [spawn, changeCall, hcall]
  obtain ⟨hslip, htrace⟩ := giveBack_open hapart hopen (some false)
  refine ⟨?_, htrace⟩
  rw [hslip, slip_spawn_own _ rfl, slip_changeCall_own hcall]

/-! ## From without -/

theorem next_eq {job : Job} (h : e.next? = some (job, f)) :
    ∃ rest, e.ready = job :: rest ∧ f = { e with ready := rest } := by
  rw [next?] at h
  split at h
  · cases h
  · next head rest hready =>
      cases h
      exact ⟨rest, hready, rfl⟩

/-- A job that is taken is struck from the slip of its send. -/
theorem slip_next {job : Job} (h : e.next? = some (job, f)) (c : Nat) :
    e.slip c =
      { f.slip c with
        ready := (if job.call? = some c then [job] else []) ++ (f.slip c).ready } := by
  obtain ⟨rest, hready, rfl⟩ := next_eq h
  simp only [slip, hready, List.filter_cons]
  split <;> simp_all

theorem avoids_next {job : Job} (h : e.next? = some (job, f)) : e.Avoids job.call? f := by
  have hslip := slip_next h
  obtain ⟨rest, -, rfl⟩ := next_eq h
  exact .of_slips rfl rfl rfl fun c hc => by rw [hslip c, if_neg hc]; rfl

/-- Time makes jobs of the alarms that are due. -/
theorem slip_moveTo (e : Env) (time c : Nat) :
    (e.moveTo time).slip c = (e.slip c).moveTo time := by
  have hcomm : ∀ p q : Alarm → Bool, (e.alarms.filter p).filter q = (e.alarms.filter q).filter p :=
    fun p q => by simp only [List.filter_filter, Bool.and_comm]
  simp only [moveTo, Slip.moveTo, slip, List.partition_eq_filter_filter, List.filter_append,
    List.filter_map]
  congr 1
  · congr 2
    exact hcomm _ _
  · refine (hcomm _ _).trans (List.filter_congr fun a _ => ?_)
    rw [Function.comp_apply, ← decide_not, decide_eq_decide]
    exact Nat.not_le

/-- A permit adds no send, and lets no time pass. Links answer as before. -/
theorem permit_eq (e : Env) (id : String) :
    (e.permit id).calls = e.calls ∧ (e.permit id).clock = e.clock ∧
      ∀ other, ((e.permit id).links.link other).answer = (e.links.link other).answer := by
  rw [permit]
  split
  · exact ⟨rfl, rfl, fun _ => rfl⟩
  · have hleaves := e.leaves_change id (f := fun l => { l with permits := l.permits + 1 })
      fun _ => rfl
    exact ⟨rfl, rfl, hleaves.answers⟩

/-- A permit makes a job of a delivery that was parked, or it is kept for later. -/
theorem slip_permit (e : Env) (id : String) (c : Nat) :
    (e.permit id).slip c = e.slip c ∨
      ∃ pre runner w post, (e.slip c).parked = pre ++ (runner, w) :: post ∧
        (e.permit id).slip c =
          { e.slip c with
            parked := pre ++ post
            ready := (e.slip c).ready ++ [.resume runner w] } := by
  rw [permit]
  split
  · next runner w rest hunpark =>
      obtain ⟨pre, post, hparked, rfl⟩ := unpark_eq_some hunpark
      by_cases hcall : (Job.resume runner w).call? = some c
      · refine .inr ⟨pre.filter fun p => p.1.call? = some c, runner, w,
          post.filter fun p => p.1.call? = some c, ?_, ?_⟩
        · have hrunner : runner.call? = some c := hcall
          simp [slip, hparked, hrunner]
        · rw [slip_spawn_own _ hcall]
          simp [slip]
      · refine .inl ?_
        have hrunner : runner.call? ≠ some c := hcall
        rw [slip_spawn_other _ hcall]
        simp [slip, hparked, hrunner]
  · exact .inl rfl

end Tether.Env
