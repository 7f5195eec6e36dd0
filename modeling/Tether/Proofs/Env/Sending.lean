import Tether.Proofs.Env.Slip
import Tether.Proofs.Link.Stops

/-!
# A blocking send, its delivery and its caller

Two things go on while a send is blocking. Its delivery goes from stop to stop and then is over
(`Sending.Carried`), and its caller waits and then comes back. Without a deadline the caller comes
back when the delivery is over, and not before (`Sending.InPlace`). With a deadline the two go on
apart (`Sending.Apart`): the end of the delivery wakes the caller, and so does the alarm, and
whichever is first decides what the caller comes back with. The delivery does not care.

All this is to be seen in the slip of the send, in the time and in what was said so far. This module
says what becomes of the two when the delivery is carried on and when time passes.
-/

namespace Tether

/-! ## What is said -/

/-- Events at a time. -/
def stamp (time : Nat) (events : List Event) : List (Nat × Event) :=
  events.map fun event => (time, event)

/-- What was said of a packet. -/
def told (said : List (Nat × Event)) : List (Nat × Event) :=
  said.filter fun p => !p.2.isReturn

/-- What callers came back with. -/
def returns (said : List (Nat × Event)) : List (Nat × Event) :=
  said.filter fun p => p.2.isReturn

/-- The last words about a packet. -/
def lastWords (said : List (Nat × Event)) : List (Nat × Event) :=
  said.filter fun p => p.2.isLastWord

/-- Callers do not have the last word. -/
theorem lastWords_told (said : List (Nat × Event)) : lastWords (told said) = lastWords said := by
  rw [lastWords, told, List.filter_filter, lastWords]
  refine List.filter_congr fun p _ => ?_
  cases p.2 <;> simp [Event.isLastWord, Event.isReturn]

theorem snd_stamp (time : Nat) (events : List Event) :
    (stamp time events).map Prod.snd = events := by
  simp [stamp, Function.comp_def]

theorem filter_stamp (time : Nat) (events : List Event) (p : Event → Bool) :
    (stamp time events).filter (fun q => p q.2) = stamp time (events.filter p) := by
  rw [stamp, stamp, List.filter_map]
  rfl

section

variable (said : List (Nat × Event)) (now : Nat)

/-- All that a delivery lets happen is about the packet. -/
theorem told_course {c : Delivery.Course} (h : c.Reserved) :
    told (said ++ stamp now c.events) = told said ++ stamp now c.events := by
  have hall : c.events.filter (fun event => !event.isReturn) = c.events :=
    List.filter_eq_self.mpr fun event hevent => by rw [h.unreturned event hevent]; rfl
  rw [told, told, List.filter_append, filter_stamp now c.events fun event => !event.isReturn, hall]

theorem returns_course {c : Delivery.Course} (h : c.Reserved) :
    returns (said ++ stamp now c.events) = returns said := by
  have hnone : c.events.filter Event.isReturn = [] :=
    List.filter_eq_nil_iff.mpr fun event hevent => Bool.eq_false_iff.mp (h.unreturned event hevent)
  rw [returns, returns, List.filter_append, filter_stamp now c.events Event.isReturn, hnone]
  exact List.append_nil _

theorem told_return (name : String) (result : Option Bool) :
    told (said ++ stamp now [.returned name result]) = told said := by
  simp [told, stamp, Event.isReturn]

theorem returns_return (name : String) (result : Option Bool) :
    returns (said ++ stamp now [.returned name result]) =
      returns said ++ [(now, .returned name result)] := by
  simp [returns, stamp, Event.isReturn]

end

/-! ## The send -/

/-- A blocking send that has begun: what it was asked for, and the time, the links that were
attached, and the state of all links when it began. -/
structure Sending where
  number : Nat
  call : Call
  start : Nat
  attached : LinkSet
  links : Links

namespace Sending

/-- The delivery of the packet. -/
def delivery (b : Sending) : Delivery :=
  Env.callDelivery b.call b.attached

/-- Whether the packet arrives. -/
def delivered (b : Sending) : Bool :=
  b.delivery.arrives b.links

/-- How far the delivery has come. -/
inductive Stage where
  | fresh
  | parked (w : Delivery.Waiting)
  | permitted (w : Delivery.Waiting)
  | ended (time : Nat)

namespace Stage

/-- When the delivery was over. -/
def ended? : Stage → Option Nat
  | ended time => some time
  | fresh | parked _ | permitted _ => none

/-- What is parked for a send. -/
def gate (c : Nat) : Stage → List (Runner × Delivery.Waiting)
  | parked w => [(.call c, w)]
  | fresh | permitted _ | ended _ => []

/-- The job that carries the delivery on. -/
def strand (c : Nat) : Stage → List Job
  | fresh => [.transfer c]
  | permitted w => [.resume (.call c) w]
  | parked _ | ended _ => []

end Stage

variable (b : Sending)

/-- What was said of the packet by now. -/
def Tells (now : Nat) (said : List (Nat × Event)) : Stage → Prop
  | .fresh => said = []
  | .parked w | .permitted w =>
      ∃ c, b.delivery.Reaches b.links c ∧ c.halt = .waiting w ∧ said.map Prod.snd = c.events
  | .ended time =>
      b.start ≤ time ∧ time ≤ now ∧ said.map Prod.snd = b.delivery.story b.links ∧
        lastWords said = stamp time (b.delivery.callback.tell (b.delivery.verdict b.links))

/-- The delivery, with the one job that carries it on. Only with a deadline is the start such a
job. -/
structure Carried (stage : Stage) (slip : Slip) (now : Nat) (said : List (Nat × Event)) : Prop where
  apart : stage = .fresh → b.call.deadline ≠ none
  gate : slip.parked = stage.gate b.number
  strand : slip.ready.filter (· ≠ .wake b.number) = stage.strand b.number
  tells : b.Tells now (told said) stage

/-- The caller waits for the delivery, and comes back when it is over. -/
structure InPlace (ended : Option Nat) (back : Option (Nat × Bool)) (slip : Slip)
    (said : List (Nat × Event)) : Prop where
  call : slip.call = some { b.call with outcome := none, isOpen := back.isNone }
  alarms : slip.alarms = []
  unwoken : .wake b.number ∉ slip.ready
  back : back = ended.map fun time => (time, b.delivered)
  last : ∀ time, ended = some time →
    said.getLast? = some (time, .returned b.call.name (some b.delivered))

/-- What a caller comes back with at a time: nothing at the deadline, if the delivery is not over
before, or what came of the delivery at its end, if the deadline is not before. -/
def First (due : Nat) (ended : Option Nat) (now time : Nat) (result : Bool) : Prop :=
  time = due ∧ result = false ∧ due ≤ now ∧ (∀ end', ended = some end' → due ≤ end') ∨
    ended = some time ∧ result = b.delivered ∧ time ≤ due

/-- The caller waits for the delivery or the deadline. It is awake when one of them has come, and
it comes back with what was first. -/
structure Apart (due : Nat) (ended : Option Nat) (back : Option (Nat × Bool)) (slip : Slip)
    (now : Nat) : Prop where
  call : slip.call = some
    { b.call with
      links := b.attached, outcome := ended.map fun _ => b.delivered, isOpen := back.isNone }
  alarms : ∀ a ∈ slip.alarms, a = ⟨due, .wake b.number⟩
  waits : back = none →
    (slip.alarms ≠ [] ∧ now < due ∨ .wake b.number ∈ slip.ready ∧ now = due) ∧
      ∀ time, ended = some time → .wake b.number ∈ slip.ready ∧ time = now
  came : ∀ time result, back = some (time, result) → b.First due ended now time result

/-- The caller, with or without a deadline. -/
def Awaited (ended : Option Nat) (back : Option (Nat × Bool)) (slip : Slip) (now : Nat)
    (said : List (Nat × Event)) : Prop :=
  match b.call.deadline with
  | none => b.InPlace ended back slip said
  | some due => b.Apart due ended back slip now

variable {b} {stage : Stage} {ended : Option Nat} {back : Option (Nat × Bool)} {slip slip' : Slip}
  {now now' due : Nat} {said said' past : List (Nat × Event)}

/-! ## Deliveries -/

theorem Tells.later (h : b.Tells now said stage) (hnow : now ≤ now') : b.Tells now' said stage := by
  cases stage with
  | ended time => exact ⟨h.1, h.2.1.trans hnow, h.2.2⟩
  | fresh | parked _ | permitted _ => exact h

variable (b) in
/-- The course on which a delivery is carried on from the start or from a gate. -/
inductive Onward : Stage → (Links → Delivery.Course) → Prop where
  | start : Onward .fresh b.delivery.run
  | pass (w : Delivery.Waiting) : Onward (.permitted w) w.resume

variable (b) in
/-- A course brings the delivery to a gate or to its end. -/
structure Comes (now : Nat) (past : List (Nat × Event)) (c : Delivery.Course) : Prop where
  reserved : c.Reserved
  stop : (∃ w, c.halt = .waiting w ∧ b.Tells now (past ++ stamp now c.events) (.parked w)) ∨
    c.halt = .ended b.delivered ∧ b.Tells now (past ++ stamp now c.events) (.ended now)

theorem comes_of_reaches (hsane : b.links.Sane b.attached) (hnow : b.start ≤ now)
    {c : Delivery.Course} (hreserved : c.Reserved)
    (hreach : b.delivery.Reaches b.links (c.after (past.map Prod.snd)))
    (hcalm : Delivery.Calm (past.map Prod.snd)) : b.Comes now past c := by
  have hall : (past ++ stamp now c.events).map Prod.snd = past.map Prod.snd ++ c.events := by
    rw [List.map_append, snd_stamp]
  refine ⟨hreserved, ?_⟩
  rcases hreach.over hsane with ⟨w, hw⟩ | ⟨hhalt, hstory⟩
  · exact .inl ⟨w, hw, _, hreach, hw, hall⟩
  · refine .inr ⟨hhalt, hnow, Nat.le_refl now, hall.trans hstory, ?_⟩
    -- nobody had the last word before, so it is spoken now
    have hpast : lastWords past = [] := by
      refine List.filter_eq_nil_iff.mpr fun p hp => ?_
      rw [hcalm p.2 (List.mem_map_of_mem hp)]
      exact Bool.false_ne_true
    have hwords : (past.map Prod.snd ++ c.events).filter Event.isLastWord =
        b.delivery.callback.tell (b.delivery.verdict b.links) := by
      rw [← b.delivery.lastWords_story b.links, ← hstory]
      rfl
    rw [List.filter_append, hcalm.filter, List.nil_append] at hwords
    rw [lastWords] at hpast
    rw [lastWords, List.filter_append, hpast, List.nil_append,
      filter_stamp now c.events Event.isLastWord, hwords]

/-- A delivery that is carried on comes to a gate or to its end. -/
theorem Tells.comes (h : b.Tells now past stage) (hsane : b.links.Sane b.attached)
    (hnow : b.start ≤ now) {links : Links} (halike : Links.Alike b.attached b.links links)
    {run : Links → Delivery.Course} (hrun : b.Onward stage run) : b.Comes now past (run links) := by
  cases hrun with
  | start =>
      obtain rfl : past = [] := h
      have hcalm : Delivery.Calm (([] : List (Nat × Event)).map Prod.snd) := List.forall_mem_nil _
      exact comes_of_reaches hsane hnow (b.delivery.reserved_run links) (.run halike) hcalm
  | pass w =>
      obtain ⟨c, hreach, hw, hpast⟩ := h
      refine comes_of_reaches hsane hnow (Delivery.reserved_resume w links) ?_ ?_
      · rw [hpast]
        exact hreach.resume hw halike
      · rw [hpast]
        exact hreach.calm hw

/-! ## Callers -/

theorem awaited_inPlace (h : b.call.deadline = none) :
    b.Awaited ended back slip now said ↔ b.InPlace ended back slip said := by
  rw [Awaited, h]

theorem awaited_apart (h : b.call.deadline = some due) :
    b.Awaited ended back slip now said ↔ b.Apart due ended back slip now := by
  rw [Awaited, h]

/-- The send of the caller is there, whatever became of it. -/
theorem Awaited.exists_call (h : b.Awaited ended back slip now said) :
    ∃ call, slip.call = some call ∧
      (b.call.deadline ≠ none → Env.callDelivery call call.links = b.delivery) := by
  cases hdeadline : b.call.deadline with
  | none =>
      rw [awaited_inPlace hdeadline] at h
      exact ⟨_, h.call, fun hsome => absurd rfl hsome⟩
  | some due =>
      rw [awaited_apart hdeadline] at h
      exact ⟨_, h.call, fun _ => rfl⟩

/-- All that a send waits for is to wake its caller. -/
theorem Awaited.wakes (h : b.Awaited ended back slip now said) :
    ∀ a ∈ slip.alarms, a.job = .wake b.number := by
  cases hdeadline : b.call.deadline with
  | none =>
      rw [((awaited_inPlace hdeadline).mp h).alarms]
      exact List.forall_mem_nil _
  | some due =>
      intro a ha
      rw [((awaited_apart hdeadline).mp h).alarms a ha]

/-- A caller does not care for gates, nor for the jobs that carry the delivery on. -/
theorem Awaited.of_slip (h : b.Awaited none back slip now said)
    (hcall : slip'.call = slip.call) (halarms : slip'.alarms = slip.alarms)
    (hwoken : .wake b.number ∈ slip'.ready ↔ .wake b.number ∈ slip.ready) :
    b.Awaited none back slip' now said' := by
  cases hdeadline : b.call.deadline with
  | none =>
      rw [awaited_inPlace hdeadline] at h ⊢
      exact ⟨hcall.trans h.call, halarms.trans h.alarms, fun hwake => h.unwoken (hwoken.mp hwake),
        h.back, nofun⟩
  | some due =>
      rw [awaited_apart hdeadline] at h ⊢
      refine ⟨hcall.trans h.call, halarms ▸ h.alarms, fun hback => ?_, h.came⟩
      rw [halarms, hwoken]
      exact h.waits hback

/-- A caller in place comes back with the end of the delivery. -/
theorem InPlace.over (h : b.InPlace none back slip said) (time : Nat)
    (said' : List (Nat × Event)) :
    b.InPlace (some time) (some (time, b.delivered))
      { slip with call := some { b.call with outcome := none, isOpen := false } }
      (said' ++ [(time, .returned b.call.name (some b.delivered))]) := by
  refine ⟨rfl, h.alarms, h.unwoken, rfl, fun time' htime => ?_⟩
  cases htime
  exact List.getLast?_concat

/-- A caller that waits elsewhere is woken by the end of the delivery, unless it came back at the
deadline. -/
theorem Apart.over (h : b.Apart due none back slip now) :
    b.Apart due (some now) back
      { slip with
        call := some { b.call with
          links := b.attached, outcome := some b.delivered, isOpen := back.isNone }
        ready := slip.ready ++ [.wake b.number] } now := by
  have hwoken : Job.wake b.number ∈ slip.ready ++ [.wake b.number] := by simp
  refine ⟨rfl, h.alarms, fun hback => ⟨?_, fun time htime => ?_⟩, fun time result hback => ?_⟩
  · exact (h.waits hback).1.imp_right fun ⟨_, hnow⟩ => ⟨hwoken, hnow⟩
  · cases htime
    exact ⟨hwoken, rfl⟩
  · rcases h.came time result hback with ⟨htime, hresult, hlate, -⟩ | ⟨hover, -⟩
    · refine .inl ⟨htime, hresult, hlate, fun end' hover => ?_⟩
      cases hover
      exact hlate
    · cases hover

/-! ## Time -/

theorem InPlace.moveTo (h : b.InPlace ended back slip said) (time : Nat) :
    b.InPlace ended back (slip.moveTo time) said := by
  obtain ⟨hcall, halarms, hunwoken, hback, hlast⟩ := h
  have hsame : slip.moveTo time = { slip with alarms := [] } := by
    simp [Slip.moveTo, halarms]
  rw [hsame]
  exact ⟨hcall, rfl, hunwoken, hback, hlast⟩

/-- Time passes when nobody is awake, and no alarm is passed over: whatever is waited for has not
come yet, and if the time is the deadline, the alarm goes off. -/
theorem Apart.moveTo {time : Nat} (h : b.Apart due ended back slip now)
    (hready : slip.ready = []) (hnow : now ≤ time) (halarms : ∀ a ∈ slip.alarms, time ≤ a.due) :
    b.Apart due ended back (slip.moveTo time) time := by
  refine ⟨h.call, fun a ha => h.alarms a (List.mem_of_mem_filter ha), fun hback => ?_,
    fun time' result hback => ?_⟩
  · obtain ⟨hwait, hended⟩ := h.waits hback
    have hasleep : .wake b.number ∉ slip.ready := by
      rw [hready]
      exact List.not_mem_nil
    obtain ⟨hleft, -⟩ := hwait.resolve_right fun hwoken => hasleep hwoken.1
    obtain ⟨a, ha⟩ := List.exists_mem_of_ne_nil _ hleft
    have hdue := halarms a ha
    obtain rfl := h.alarms a ha
    refine ⟨?_, fun time' htime => absurd (hended time' htime).1 hasleep⟩
    rcases Nat.lt_or_eq_of_le hdue with hearly | hlate
    · exact .inl ⟨List.ne_nil_of_mem (List.mem_filter.mpr ⟨ha, by simpa using hearly⟩), hearly⟩
    · have hgone : ⟨due, .wake b.number⟩ ∈ slip.alarms.filter (·.due ≤ time) :=
        List.mem_filter.mpr ⟨ha, by simpa using Nat.le_of_eq hlate.symm⟩
      exact .inr ⟨List.mem_append_right _ (List.mem_map_of_mem hgone), hlate⟩
  · rcases h.came time' result hback with ⟨htime, hresult, hlate, hended⟩ | hfirst
    · exact .inl ⟨htime, hresult, hlate.trans hnow, hended⟩
    · exact .inr hfirst

end Sending

end Tether
