import Mathlib.Logic.Relation
import Tether.Env.Work

/-!
# The small steps of traffic

Workers and blocking sends take packets through many hands, but all that they do to an environment
is made of a few small steps: a packet passes a link or is parked at it, a packet is taken out of an
outbox, something is noted of a worker or of a send, something happens, and a job is set.
`Env.Carry` lists them, and each job of traffic is a number of them, one after the other.

What traffic leaves alone is to be read off the small steps. Blocking sends go past the outboxes, so
those are small steps of which none touches an outbox (`Env.Errands`).
-/

namespace Tether

/-- Packets passed, and used up permits. -/
abbrev Links.Passed : Links → Links → Prop :=
  Relation.ReflTransGen fun ls ls' => ∃ id, ls.pass? id = some ls'

namespace Delivery

theorem passed_hand (d : Delivery) (id : String) {ls : Links} {next : String → Course}
    (hnext : ∀ reason, ls.Passed (next reason).links) : ls.Passed (d.hand id ls next).links := by
  simp only [hand]
  split
  · exact .refl
  · exact hnext _
  · exact hnext _
  · exact .refl

theorem passed_tryLinks (d : Delivery) (rest : LinkSet) (ls : Links) (failures : List String) :
    ls.Passed (d.tryLinks rest ls failures).links := by
  induction rest generalizing ls failures with
  | nil => exact .refl
  | cons id rest ih =>
      rw [tryLinks]
      cases hpass : ls.pass? id with
      | none => exact .refl
      | some ls' => exact .head ⟨id, hpass⟩ (d.passed_hand id fun _ => ih ls' _)

theorem passed_run (d : Delivery) (ls : Links) : ls.Passed (d.run ls).links :=
  d.passed_tryLinks d.links ls []

theorem passed_resume (w : Waiting) (ls : Links) : ls.Passed (w.resume ls).links :=
  w.delivery.passed_hand w.link fun _ => w.delivery.passed_tryLinks w.rest ls _

end Delivery

namespace Env

/-- A small step of traffic. -/
inductive Carry : Env → Env → Prop where
  | pass {e : Env} {id : String} {links : Links} (h : e.links.pass? id = some links) :
      Carry e { e with links }
  | park (e : Env) (p : Runner × Delivery.Waiting) : Carry e { e with parked := e.parked ++ [p] }
  | pop {e : Env} {o : Nat} {item : Outbox.Item} {box : Outbox}
      (h : (e.outbox o).pop? = some (item, box)) : Carry e (e.setOutbox o box)
  | worker (e : Env) (o : Nat) (worker : Outbox.Worker) : Carry e (e.setWorker o worker)
  | call (e : Env) (c : Nat) (f : Call → Call) : Carry e (e.changeCall c f)
  | record (e : Env) (events : List Event) : Carry e (e.record events)
  | spawn (e : Env) (job : Job) : Carry e (e.spawn job)

/-- Any number of small steps, one after the other. -/
abbrev Carries : Env → Env → Prop :=
  Relation.ReflTransGen Carry

/-- Any number of small steps that touch no outbox. -/
abbrev Errands : Env → Env → Prop :=
  Relation.ReflTransGen fun e f => e.Carry f ∧ f.outboxes = e.outboxes

section

variable {e f : Env}

theorem Errands.carries (h : e.Errands f) : e.Carries f :=
  Relation.ReflTransGen.mono (fun _ _ hstep => hstep.1) _ _ h

theorem Errands.outboxes (h : e.Errands f) : f.outboxes = e.outboxes := by
  induction h with
  | refl => rfl
  | tail _ hstep ih => exact hstep.2.trans ih

/-- What was said is said still. -/
theorem Carries.trace (h : e.Carries f) : e.trace <+: f.trace := by
  induction h with
  | refl => exact List.prefix_rfl
  | tail _ hstep ih =>
      refine ih.trans ?_
      cases hstep with
      | record events => exact List.prefix_append _ _
      | pass | park | pop | worker | call | spawn => exact List.prefix_rfl

end

variable (e : Env)

theorem errands_passed {links : Links} (h : e.links.Passed links) : e.Errands { e with links } :=
  h.lift (fun links => { e with links }) fun _ _ ⟨_, hpass⟩ => ⟨.pass hpass, rfl⟩

theorem errands_follow (runner : Runner) {run : Links → Delivery.Course}
    (hrun : ∀ ls : Links, ls.Passed (run ls).links) : e.Errands (e.follow runner run).2 := by
  have hcourse := (e.errands_passed (hrun e.links)).tail ⟨.record _ (run e.links).events, rfl⟩
  simp only [follow]
  split
  · next w _ => exact hcourse.tail ⟨.park _ (runner, w), rfl⟩
  · exact hcourse

/-! ## Workers -/

theorem carries_settleWorker (o : Nat) (halt : Delivery.Halt) :
    e.Carries (e.settleWorker o halt).2 := by
  cases halt with
  | crashed => exact .single (.worker e o .stopped)
  | ended _ | waiting _ => exact .refl

theorem carries_workOnce (o : Nat) (links : LinkSet) : e.Carries (e.workOnce o links).2 := by
  rw [workOnce]
  split
  · exact .single (.worker e o _)
  · next item box hpop =>
      have htaken : e.Carries (e.setOutbox o box) := .single (.pop hpop)
      exact (htaken.trans (errands_follow _ (.worker o) (Delivery.passed_run _)).carries).trans
        (carries_settleWorker _ o _)

theorem carries_workAtMost (o : Nat) (links : LinkSet) (n : Nat) (e : Env) :
    e.Carries (workAtMost o links n e) := by
  induction n generalizing e with
  | zero => exact .refl
  | succ n ih =>
      have honce := e.carries_workOnce o links
      rw [workAtMost]
      split
      · next heq =>
          rw [heq] at honce
          exact honce.trans (ih _)
      · next heq =>
          rw [heq] at honce
          exact honce

theorem carries_work (o : Nat) (links : LinkSet) : e.Carries (e.work o links) :=
  carries_workAtMost o links _ e

theorem carries_resumeWork (o : Nat) (links : LinkSet) (w : Delivery.Waiting) :
    e.Carries (e.resumeWork o links w) := by
  have hsettle := (e.errands_follow (.worker o) (Delivery.passed_resume w)).carries.trans
    (carries_settleWorker _ o (e.follow (.worker o) w.resume).1)
  simp only [resumeWork]
  split
  · next heq =>
      rw [heq] at hsettle
      exact hsettle.trans (carries_work _ o links)
  · next heq =>
      rw [heq] at hsettle
      exact hsettle

/-! ## Blocking sends -/

theorem errands_giveBack (c : Nat) (result : Option Bool) : e.Errands (e.giveBack c result) := by
  rw [giveBack]
  split
  · split
    · exact (Relation.ReflTransGen.single ⟨.call e c _, rfl⟩).tail ⟨.record _ _, rfl⟩
    · exact .refl
  · exact .refl

theorem errands_settleCall (c : Nat) (call : Call) (halt : Delivery.Halt) :
    e.Errands (e.settleCall c call halt) := by
  have hstop : ∀ result : Option Bool, e.Errands
      (if call.deadline.isNone then e.giveBack c result
      else (e.changeCall c fun call => { call with outcome := some (result.getD false) }).spawn
        (.wake c)) := by
    intro result
    split
    · exact e.errands_giveBack c result
    · exact (Relation.ReflTransGen.single ⟨.call e c _, rfl⟩).tail ⟨.spawn _ _, rfl⟩
  cases halt with
  | ended delivered => exact hstop (some delivered)
  | crashed => exact hstop none
  | waiting w => exact .refl

theorem errands_begin (c : Nat) (links : LinkSet) : e.Errands (e.begin c links) := by
  rw [begin]
  split
  · exact .refl
  · split
    · exact (errands_follow _ _ (Delivery.passed_run _)).trans (errands_settleCall _ _ _ _)
    · have hspawn :
          e.Errands ((e.changeCall c fun call => { call with links }).spawn (.transfer c)) :=
        (Relation.ReflTransGen.single ⟨.call e c _, rfl⟩).tail ⟨.spawn _ _, rfl⟩
      dsimp only
      split
      · exact hspawn.trans (errands_giveBack _ c _)
      · exact hspawn

theorem errands_transfer (c : Nat) : e.Errands (e.transfer c) := by
  rw [transfer]
  split
  · exact .refl
  · exact (errands_follow _ _ (Delivery.passed_run _)).trans (errands_settleCall _ _ _ _)

theorem errands_resumeCall (c : Nat) (w : Delivery.Waiting) : e.Errands (e.resumeCall c w) := by
  rw [resumeCall]
  split
  · exact .refl
  · exact (errands_follow _ _ (Delivery.passed_resume w)).trans (errands_settleCall _ _ _ _)

theorem errands_wake (c : Nat) : e.Errands (e.wake c) := by
  rw [wake]
  split
  · exact .refl
  · split
    · exact errands_giveBack _ _ _
    · split
      · exact errands_giveBack _ _ _
      · exact .refl
    · exact .refl

end Env

end Tether
