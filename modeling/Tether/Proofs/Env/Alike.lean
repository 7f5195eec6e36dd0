import Tether.Env.Basic
import Tether.Proofs.Plugin.Conduct

/-!
# What goes on around a device without concerning it

Most of what is done to an environment is traffic: packets are queued and handed out,
jobs and alarms are set, plugins are called. Three things in an environment matter to
whoever reasons about trust: the settings, the notices that somebody was given, and
what plugins are going to ask for. Two environments are alike if they have these in
common, and all traffic leads to an environment that is alike.

A notice is an event that lets someone look around: an observer being told of pairing,
or a listener being told of plugins.
-/

namespace Tether

/-- Someone is told and may look around. -/
def Event.isNotice : Event → Bool
  | .pairing .. | .pluginsChanged .. => true
  | _ => false

/-- Someone is told how a packet fared, or a device is going to be. -/
def Event.isReport : Event → Bool
  | .told .. | .undelivered .. => true
  | _ => false

theorem Callback.isReport_of_mem_tell {c : Callback} {r : Report} {event : Event}
    (h : event ∈ c.tell r) : event.isReport = true := by
  cases c with
  | named name quiet => cases r <;> cases quiet <;> simp_all [tell, Event.isReport]
  | log type => cases h
  | pairing device => cases r <;> simp_all [tell, Event.isReport]

/-- All that queues tell is how packets fared. -/
theorem Outbox.isReport_of_mem_add {o : Outbox} {p : Packet} {replace : Option Nat}
    {c : Callback} {event : Event} (h : event ∈ (o.add p replace c).2.2) :
    event.isReport = true := by
  rw [Outbox.add] at h
  split at h
  · exact Callback.isReport_of_mem_tell h
  · dsimp only at h
    split at h <;> cases h

theorem Outbox.isReport_of_mem_close {o : Outbox} {event : Event} (h : event ∈ o.close.2) :
    event.isReport = true := by
  rw [Outbox.close] at h
  split at h
  · cases h
  · obtain ⟨i, -, hi⟩ := List.mem_flatMap.mp h
    exact Callback.isReport_of_mem_tell hi

theorem notices_of_reports {events : List Event}
    (h : ∀ event ∈ events, event.isReport = true) : events.filter Event.isNotice = [] := by
  rw [List.filter_eq_nil_iff]
  intro event hevent
  have hreport := h event hevent
  cases event <;> simp_all [Event.isReport, Event.isNotice]

namespace Env

/-- The notices given so far. -/
def notices (e : Env) : List Event :=
  e.trace.filter Event.isNotice

/-- How the plugins of each maker answer. -/
def conducts (e : Env) : String → Plugin.Conduct :=
  Plugin.Shop.conducts ⟨e.makers, []⟩

/-- The settings, the notices and the conduct of plugins are the same. -/
structure Alike (e f : Env) : Prop where
  ledger : f.ledger = e.ledger
  notices : f.notices = e.notices
  conducts : f.conducts = e.conducts

theorem Alike.refl (e : Env) : e.Alike e :=
  ⟨rfl, rfl, rfl⟩

theorem Alike.trans {e f g : Env} (h : e.Alike f) (h' : f.Alike g) : e.Alike g :=
  ⟨h'.ledger.trans h.ledger, h'.notices.trans h.notices, h'.conducts.trans h.conducts⟩

@[simp] theorem notices_record (e : Env) (events : List Event) :
    (e.record events).notices = e.notices ++ events.filter Event.isNotice := by
  simp [record, notices]

theorem alike_record (e : Env) {events : List Event}
    (h : events.filter Event.isNotice = []) : e.Alike (e.record events) :=
  ⟨rfl, by rw [notices_record, h, List.append_nil], rfl⟩

theorem alike_spawn (e : Env) (job : Job) : e.Alike (e.spawn job) :=
  ⟨rfl, rfl, rfl⟩

theorem alike_setAlarm (e : Env) (wait : Nat) (job : Job) :
    e.Alike (e.setAlarm wait job) := by
  rw [setAlarm]
  split
  · exact e.alike_spawn job
  · exact ⟨rfl, rfl, rfl⟩

theorem alike_newId (e : Env) : e.Alike e.newId.2 :=
  ⟨rfl, rfl, rfl⟩

theorem alike_note (e : Env) (i : Plugin.Instance) (n : Plugin.Note) :
    e.Alike (e.note i n) :=
  e.alike_record rfl

/-- A call of plugins is alike if it changes no conduct. -/
theorem alike_call (e : Env) {α : Type} {f : Plugin.Shop → α × Plugin.Shop}
    (hf : ∀ shop, (f shop).2.conducts = shop.conducts) : e.Alike (e.call f).2 := by
  have hnotes : ∀ notes : List (Plugin.Instance × Plugin.Note),
      (notes.map fun n => Event.plugin n.1 n.2).filter Event.isNotice = [] := by
    intro notes
    rw [List.filter_eq_nil_iff]
    intro event hevent
    obtain ⟨n, -, rfl⟩ := List.mem_map.mp hevent
    exact Bool.false_ne_true
  refine ⟨rfl, ?_, hf _⟩
  exact (e.alike_record (hnotes _)).notices

theorem alike_setOutbox (e : Env) (o : Nat) (box : Outbox) :
    e.Alike (e.setOutbox o box) :=
  ⟨rfl, rfl, rfl⟩

theorem alike_openOutbox (e : Env) (device : String) :
    e.Alike (e.openOutbox device).2 :=
  ⟨rfl, rfl, rfl⟩

theorem alike_submit (e : Env) (o : Nat) (p : Packet) (replace : Option Nat)
    (c : Callback) : e.Alike (e.submit o p replace c) := by
  have hreports : ∀ event ∈ ((e.outbox o).add p replace c).2.2, event.isReport = true :=
    fun _ => Outbox.isReport_of_mem_add
  have hadd := notices_of_reports hreports
  have hqueue := (e.alike_setOutbox o ((e.outbox o).add p replace c).2.1).trans
    (alike_record _ hadd)
  rw [submit]
  dsimp only
  split
  · exact hqueue.trans ((alike_setOutbox _ _ _).trans (alike_spawn _ _))
  · exact hqueue

theorem alike_takeFrom (e : Env) (o replace : Nat) :
    e.Alike (e.takeFrom o replace).2 :=
  ⟨rfl, rfl, rfl⟩

theorem alike_closeOutbox (e : Env) (o : Nat) : e.Alike (e.closeOutbox o) :=
  (e.alike_setOutbox o _).trans (alike_record _ (notices_of_reports fun _ => Outbox.isReport_of_mem_close))

theorem alike_closeLink (e : Env) (id : String) : e.Alike (e.closeLink id) :=
  Alike.trans (f := { e with links := e.links.change id _ }) ⟨rfl, rfl, rfl⟩
    (alike_record _ rfl)

end Env

end Tether
