import Tether.Proofs.Env.Carried
import Tether.Proofs.Link.Failover

/-!
# What belongs to one blocking send

A blocking send has an entry of its own, and jobs, alarms and deliveries that bear its number.
They lie among those of everybody else, and to follow one send is to look at these alone
(`Env.slip`).

Whoever works for somebody else leaves them as they are, and the clock, and what the links answer
(`Env.Avoids`). As long as the next job is not taken, what was to be done is still the first to be
done (`Env.Leaves`). For a job of traffic that follows from whose it is: a worker sets no job of a
send, and a send sets only its own.
-/

namespace Tether

/-- The blocking send that somebody works for. -/
def Runner.call? : Runner → Option Nat
  | .worker _ => none
  | .call c => some c

/-- The blocking send that a job is done for. -/
def Job.call? : Job → Option Nat
  | .begin c | .transfer c | .wake c => some c
  | .resume runner _ => runner.call?
  | .work _ | .report .. | .expire .. => none

/-- All there is of a blocking send: its entry, its delivery if that waits for a permit, the jobs
that can be done for it, and what waits for a time. -/
structure Slip where
  call : Option Call
  parked : List (Runner × Delivery.Waiting)
  ready : List Job
  alarms : List Alarm

/-- The slip of a send after some time. What waited for it can be done. -/
def Slip.moveTo (slip : Slip) (time : Nat) : Slip where
  call := slip.call
  parked := slip.parked
  ready := slip.ready ++ (slip.alarms.filter (·.due ≤ time)).map Alarm.job
  alarms := slip.alarms.filter (time < ·.due)

namespace Env

/-- What there is of a blocking send. -/
def slip (e : Env) (c : Nat) : Slip where
  call := e.calls[c]?
  parked := e.parked.filter fun p => p.1.call? = some c
  ready := e.ready.filter fun job => job.call? = some c
  alarms := e.alarms.filter fun a => a.job.call? = some c

/-- Nothing of any send is touched but of one's own, if it was there or still is not. The clock
stands, and links answer as before. -/
structure Avoids (own : Option Nat) (e f : Env) : Prop where
  clock : f.clock = e.clock
  answers : ∀ id, (f.links.link id).answer = (e.links.link id).answer
  grows : e.calls.length ≤ f.calls.length
  slips : ∀ c, own ≠ some c → c < e.calls.length ∨ f.calls.length ≤ c → f.slip c = e.slip c

/-- All sends are left alone but one's own. What was to be done is still to be done, before anything
else. -/
structure Leaves (own : Option Nat) (e f : Env) : Prop extends Avoids own e f where
  ready : e.ready <+: f.ready

variable {own : Option Nat} {e f g : Env} {c : Nat}

theorem Avoids.refl (own : Option Nat) (e : Env) : e.Avoids own e :=
  ⟨rfl, fun _ => rfl, Nat.le_refl _, fun _ _ _ => rfl⟩

theorem Avoids.trans (h : e.Avoids own f) (h' : f.Avoids own g) : e.Avoids own g := by
  refine ⟨h'.clock.trans h.clock, fun id => (h'.answers id).trans (h.answers id),
    h.grows.trans h'.grows, fun c hc hrange => ?_⟩
  have hlater : g.slip c = f.slip c :=
    h'.slips c hc (hrange.imp_left fun hlt => Nat.lt_of_lt_of_le hlt h.grows)
  have hearlier : f.slip c = e.slip c :=
    h.slips c hc (hrange.imp_right fun hle => h'.grows.trans hle)
  exact hlater.trans hearlier

/-- Whoever leaves the slips of all others alone, and the links. -/
theorem Avoids.of_slips (hclock : f.clock = e.clock) (hlinks : f.links = e.links)
    (hcalls : f.calls.length = e.calls.length) (h : ∀ c, own ≠ some c → f.slip c = e.slip c) :
    e.Avoids own f :=
  ⟨hclock, fun id => by rw [hlinks], Nat.le_of_eq hcalls.symm, fun c hc _ => h c hc⟩

theorem Leaves.refl (own : Option Nat) (e : Env) : e.Leaves own e :=
  ⟨.refl own e, List.prefix_rfl⟩

theorem Leaves.trans (h : e.Leaves own f) (h' : f.Leaves own g) : e.Leaves own g :=
  ⟨h.toAvoids.trans h'.toAvoids, h.ready.trans h'.ready⟩

theorem Leaves.of_none (h : e.Leaves none f) (own : Option Nat) : e.Leaves own f :=
  ⟨⟨h.clock, h.answers, h.grows, fun c _ => h.slips c nofun⟩, h.ready⟩

/-- A send that was not there is nobody's. -/
theorem Leaves.of_new (h : e.Leaves (some e.calls.length) f)
    (hnew : e.calls.length < f.calls.length) : e.Leaves none f := by
  refine ⟨⟨h.clock, h.answers, h.grows, fun c _ hrange => h.slips c ?_ hrange⟩, h.ready⟩
  intro heq
  cases heq
  exact hrange.elim (Nat.lt_irrefl _) (Nat.not_le.mpr hnew)

/-! ## Small steps -/

@[simp] theorem slip_record (e : Env) (events : List Event) (c : Nat) :
    (e.record events).slip c = e.slip c := by
  have hnone : (events.filterMap job?).filter (fun job => job.call? = some c) = [] := by
    rw [List.filter_eq_nil_iff]
    intro job hjob
    obtain ⟨event, -, hevent⟩ := List.mem_filterMap.mp hjob
    cases event <;> cases hevent
    exact of_decide_eq_false rfl
  simp [slip, record, hnone]

theorem slip_spawn (e : Env) (job : Job) (c : Nat) :
    (e.spawn job).slip c =
      { e.slip c with
        ready := (e.slip c).ready ++ if job.call? = some c then [job] else [] } := by
  simp [slip, spawn, List.filter_append, List.filter_singleton]

theorem slip_spawn_other (e : Env) {job : Job} (h : job.call? ≠ some c) :
    (e.spawn job).slip c = e.slip c := by
  rw [slip_spawn, if_neg h, List.append_nil]

theorem slip_spawn_own (e : Env) {job : Job} (h : job.call? = some c) :
    (e.spawn job).slip c = { e.slip c with ready := (e.slip c).ready ++ [job] } := by
  rw [slip_spawn, if_pos h]

theorem slip_changeCall_own {call : Call} (h : e.calls[c]? = some call) (f : Call → Call) :
    (e.changeCall c f).slip c = { e.slip c with call := some (f call) } := by
  simp [slip, changeCall, h]

theorem slip_changeCall_other (e : Env) {other : Nat} (h : other ≠ c) (f : Call → Call) :
    (e.changeCall other f).slip c = e.slip c := by
  have hcall : (e.calls.modify other f)[c]? = e.calls[c]? := List.getElem?_modify_ne f e.calls h
  rw [slip, changeCall, hcall, slip]

@[simp] theorem slip_setOutbox (e : Env) (o : Nat) (box : Outbox) (c : Nat) :
    (e.setOutbox o box).slip c = e.slip c :=
  rfl

theorem slip_setAlarm_other (e : Env) (wait : Nat) {job : Job} (h : job.call? ≠ some c) :
    (e.setAlarm wait job).slip c = e.slip c := by
  rw [setAlarm]
  split
  · exact e.slip_spawn_other h
  · simp [slip, List.filter_append, h]

theorem leaves_record (e : Env) (events : List Event) : e.Leaves none (e.record events) :=
  ⟨.of_slips rfl rfl rfl fun c _ => e.slip_record events c, List.prefix_append _ _⟩

theorem leaves_setOutbox (e : Env) (o : Nat) (box : Outbox) : e.Leaves none (e.setOutbox o box) :=
  ⟨.of_slips rfl rfl rfl fun _ _ => rfl, List.prefix_rfl⟩

theorem leaves_spawn (e : Env) {job : Job} (h : job.call? = own) : e.Leaves own (e.spawn job) :=
  ⟨.of_slips rfl rfl rfl fun _ hc => e.slip_spawn_other (h ▸ hc), List.prefix_append _ _⟩

theorem leaves_setAlarm (e : Env) (wait : Nat) {job : Job} (h : job.call? = own) :
    e.Leaves own (e.setAlarm wait job) := by
  have hslip : ∀ c, own ≠ some c → (e.setAlarm wait job).slip c = e.slip c :=
    fun _ hc => e.slip_setAlarm_other wait (h ▸ hc)
  rw [setAlarm] at hslip ⊢
  split
  · exact e.leaves_spawn h
  · next hwait =>
      rw [if_neg hwait] at hslip
      exact ⟨.of_slips rfl rfl rfl hslip, List.prefix_rfl⟩

theorem slip_setAlarm_own (e : Env) {wait : Nat} (hwait : 0 < wait) {job : Job}
    (h : job.call? = some c) :
    (e.setAlarm wait job).slip c =
      { e.slip c with alarms := (e.slip c).alarms ++ [⟨e.clock + wait, job⟩] } := by
  simp [setAlarm, Nat.ne_of_gt hwait, slip, List.filter_append, h]

/-- Add a send. It is to begin when it is its turn. -/
def ask (e : Env) (call : Call) : Env :=
  { e with calls := e.calls ++ [call] }.spawn (.begin e.calls.length)

theorem slip_ask (e : Env) (call : Call) :
    (e.ask call).slip e.calls.length =
      { e.slip e.calls.length with
        call := some call
        ready := (e.slip e.calls.length).ready ++ [.begin e.calls.length] } := by
  rw [ask, slip_spawn_own _ rfl]
  simp [slip]

theorem leaves_ask (e : Env) (call : Call) : e.Leaves (some e.calls.length) (e.ask call) := by
  have hadded : e.Leaves (some e.calls.length) { e with calls := e.calls ++ [call] } := by
    refine ⟨⟨rfl, fun _ => rfl, by simp, fun c hc _ => ?_⟩, List.prefix_rfl⟩
    have hne : e.calls.length ≠ c := fun heq => hc (congrArg some heq)
    have hcall : (e.calls ++ [call])[c]? = e.calls[c]? := by
      rw [List.getElem?_append]
      split
      · rfl
      · next hlt =>
          have hlast : 1 ≤ c - e.calls.length := by omega
          rw [List.getElem?_eq_none (Nat.not_lt.mp hlt)]
          exact List.getElem?_eq_none hlast
    show Slip.mk (e.calls ++ [call])[c]? _ _ _ = e.slip c
    rw [hcall]
    rfl
  exact hadded.trans (leaves_spawn _ rfl)

theorem leaves_closeOutbox (e : Env) (o : Nat) : e.Leaves none (e.closeOutbox o) :=
  (e.leaves_setOutbox o _).trans (leaves_record _ _)

/-- A link may change as long as it answers as before. -/
theorem leaves_change (e : Env) (id : String) {f : Link → Link}
    (hf : ∀ l, (f l).answer = l.answer) : e.Leaves none { e with links := e.links.change id f } :=
  ⟨⟨rfl, fun other => e.links.answer_change id other hf, Nat.le_refl _, fun _ _ _ => rfl⟩,
    List.prefix_rfl⟩

theorem worker_other (o c : Nat) : (Runner.worker o).call? ≠ some c := by
  rw [Runner.call?]
  exact nofun

/-- What is followed for somebody else is parked for somebody else. -/
theorem slip_follow_other (e : Env) {runner : Runner} (h : runner.call? ≠ some c)
    (run : Links → Delivery.Course) : (e.follow runner run).2.slip c = e.slip c := by
  have hcourse : ({ e with links := (run e.links).links }.record (run e.links).events).slip c =
      e.slip c := slip_record _ _ c
  simp only [follow]
  split
  · rw [← hcourse]
    simp [slip, List.filter_append, h]
  · exact hcourse

/-- Traffic leaves the clock and the answers of links alone, and adds no send. What was to be done
stays in its place. -/
theorem Carry.leaves (h : Carry e f) :
    f.clock = e.clock ∧ (∀ id, (f.links.link id).answer = (e.links.link id).answer) ∧
      f.calls.length = e.calls.length ∧ e.ready <+: f.ready := by
  cases h with
  | pass hpass => exact ⟨rfl, Links.answer_pass hpass, rfl, List.prefix_rfl⟩
  | call c f => exact ⟨rfl, fun _ => rfl, List.length_modify .., List.prefix_rfl⟩
  | park | pop | worker => exact ⟨rfl, fun _ => rfl, rfl, List.prefix_rfl⟩
  | record | spawn => exact ⟨rfl, fun _ => rfl, rfl, List.prefix_append _ _⟩

/-- Traffic leaves the slips alone that its steps leave alone. -/
theorem Carries.leaves (h : e.Carries f) (hslip : ∀ c, own ≠ some c → f.slip c = e.slip c) :
    e.Leaves own f := by
  have hsame : f.clock = e.clock ∧ (∀ id, (f.links.link id).answer = (e.links.link id).answer) ∧
      f.calls.length = e.calls.length ∧ e.ready <+: f.ready := by
    clear hslip
    induction h with
    | refl => exact ⟨rfl, fun _ => rfl, rfl, List.prefix_rfl⟩
    | tail _ hstep ih =>
        obtain ⟨hclock, hanswers, hcalls, hready⟩ := hstep.leaves
        obtain ⟨hclock', hanswers', hcalls', hready'⟩ := ih
        exact ⟨hclock.trans hclock', fun id => (hanswers id).trans (hanswers' id),
          hcalls.trans hcalls', hready'.trans hready⟩
  obtain ⟨hclock, hanswers, hcalls, hready⟩ := hsame
  exact ⟨⟨hclock, hanswers, Nat.le_of_eq hcalls.symm, fun c hc _ => hslip c hc⟩, hready⟩

/-! ## Workers -/

theorem slip_settleWorker (e : Env) (o : Nat) (halt : Delivery.Halt) (c : Nat) :
    (e.settleWorker o halt).2.slip c = e.slip c := by
  cases halt <;> rfl

theorem slip_workOnce (e : Env) (o : Nat) (links : LinkSet) (c : Nat) :
    (e.workOnce o links).2.slip c = e.slip c := by
  rw [workOnce]
  split
  · rfl
  · rw [slip_settleWorker, slip_follow_other _ (worker_other o c), slip_setOutbox]

theorem slip_workAtMost (o : Nat) (links : LinkSet) (n : Nat) (e : Env) (c : Nat) :
    (workAtMost o links n e).slip c = e.slip c := by
  induction n generalizing e with
  | zero => rfl
  | succ n ih =>
      have honce := e.slip_workOnce o links c
      rw [workAtMost]
      split
      · next heq =>
          rw [heq] at honce
          exact (ih _).trans honce
      · next heq =>
          rw [heq] at honce
          exact honce

theorem slip_work (e : Env) (o : Nat) (links : LinkSet) (c : Nat) :
    (e.work o links).slip c = e.slip c :=
  slip_workAtMost o links _ e c

theorem slip_resumeWork (e : Env) (o : Nat) (links : LinkSet) (w : Delivery.Waiting) (c : Nat) :
    (e.resumeWork o links w).slip c = e.slip c := by
  have hsettle : ((e.follow (.worker o) w.resume).2.settleWorker o
      (e.follow (.worker o) w.resume).1).2.slip c = e.slip c := by
    rw [slip_settleWorker, slip_follow_other _ (worker_other o c)]
  simp only [resumeWork]
  split
  · next heq =>
      rw [heq] at hsettle
      exact (slip_work _ o links c).trans hsettle
  · next heq =>
      rw [heq] at hsettle
      exact hsettle

/-! ## Sends of others -/

section Others

variable (e) {other : Nat} (h : other ≠ c)
include h

theorem slip_giveBack_other (result : Option Bool) :
    (e.giveBack other result).slip c = e.slip c := by
  rw [giveBack]
  split
  · split
    · rw [slip_record, slip_changeCall_other _ h]
    · rfl
  · rfl

theorem slip_settleCall_other (call : Call) (halt : Delivery.Halt) :
    (e.settleCall other call halt).slip c = e.slip c := by
  have hwake : (Job.wake other).call? ≠ some c := fun heq => h (Option.some.inj heq)
  have hstop : ∀ result : Option Bool,
      (if call.deadline.isNone then e.giveBack other result
      else (e.changeCall other fun call => { call with outcome := some (result.getD false) }).spawn
        (.wake other)).slip c = e.slip c := by
    intro result
    split
    · exact e.slip_giveBack_other h result
    · rw [slip_spawn_other _ hwake, slip_changeCall_other _ h]
  cases halt with
  | ended delivered => exact hstop (some delivered)
  | crashed => exact hstop none
  | waiting w => rfl

theorem slip_followed_other (call : Call) (run : Links → Delivery.Course) :
    ((e.follow (.call other) run).2.settleCall other call (e.follow (.call other) run).1).slip c =
      e.slip c := by
  have hrunner : (Runner.call other).call? ≠ some c := fun heq => h (Option.some.inj heq)
  rw [slip_settleCall_other _ h, slip_follow_other _ hrunner]

theorem slip_begin_other (links : LinkSet) : (e.begin other links).slip c = e.slip c := by
  have htransfer : (Job.transfer other).call? ≠ some c := fun heq => h (Option.some.inj heq)
  have hspawn :
      ((e.changeCall other fun call => { call with links }).spawn (.transfer other)).slip c =
        e.slip c := by
    rw [slip_spawn_other _ htransfer, slip_changeCall_other _ h]
  rw [begin]
  split
  · rfl
  · split
    · exact e.slip_followed_other h _ _
    · dsimp only
      split
      · rw [slip_giveBack_other _ h, hspawn]
      · exact hspawn

theorem slip_transfer_other : (e.transfer other).slip c = e.slip c := by
  rw [transfer]
  split
  · rfl
  · exact e.slip_followed_other h _ _

theorem slip_resumeCall_other (w : Delivery.Waiting) :
    (e.resumeCall other w).slip c = e.slip c := by
  rw [resumeCall]
  split
  · rfl
  · exact e.slip_followed_other h _ _

theorem slip_wake_other : (e.wake other).slip c = e.slip c := by
  rw [wake]
  split
  · rfl
  · split
    · exact e.slip_giveBack_other h _
    · split
      · exact e.slip_giveBack_other h _
      · rfl
    · rfl

end Others

end Env

end Tether
