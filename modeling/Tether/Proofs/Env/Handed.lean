import Tether.Proofs.Env.Alike

/-!
# Packets handed to plugins

Everything that plugins are called for is in the trace, so the packets that plugins were
ever handed are a reading of the trace, in order, each with whether it came from a paired
device. Only a call can add to them. Traffic adds nothing: what queues tell are reports, and
a report is no call.
-/

namespace Tether

/-- The packet that a plugin was handed. -/
def Event.handed? : Event → Option (Plugin.Instance × Bool × Packet)
  | .plugin i n => n.packet?.map (i, ·)
  | _ => none

theorem handed_of_reports {events : List Event}
    (h : ∀ event ∈ events, event.isReport = true) : events.filterMap Event.handed? = [] := by
  rw [List.filterMap_eq_nil_iff]
  intro event hevent
  have hreport := h event hevent
  cases event <;> simp_all [Event.isReport, Event.handed?]

theorem handed_of_notices {events : List Event}
    (h : ∀ event ∈ events, event.isNotice = true) : events.filterMap Event.handed? = [] := by
  rw [List.filterMap_eq_nil_iff]
  intro event hevent
  have hnotice := h event hevent
  cases event <;> simp_all [Event.isNotice, Event.handed?]

namespace Env

/-- The packets that plugins were handed so far. -/
def handed (e : Env) : List (Plugin.Instance × Bool × Packet) :=
  e.trace.filterMap Event.handed?

theorem handed_record (e : Env) (events : List Event) :
    (e.record events).handed = e.handed ++ events.filterMap Event.handed? := by
  simp [record, handed]

theorem handed_record_reports (e : Env) {events : List Event}
    (h : ∀ event ∈ events, event.isReport = true) : (e.record events).handed = e.handed := by
  rw [handed_record, handed_of_reports h, List.append_nil]

theorem handed_record_notices (e : Env) {events : List Event}
    (h : ∀ event ∈ events, event.isNotice = true) : (e.record events).handed = e.handed := by
  rw [handed_record, handed_of_notices h, List.append_nil]

/-- A call adds what it hands out. -/
theorem handed_call (e : Env) {α : Type} (f : Plugin.Shop → α × Plugin.Shop) :
    (e.call f).2.handed = e.handed ++ (f ⟨e.makers, []⟩).2.handed := by
  show (e.record _).handed = _
  rw [handed_record, List.filterMap_map]
  rfl

/-- A reload hands out nothing. -/
theorem handed_call_untouched (e : Env) {α : Type} {f : Plugin.Shop → α × Plugin.Shop}
    (hf : ∀ shop, (f shop).2.handed = shop.handed) : (e.call f).2.handed = e.handed := by
  rw [handed_call, hf]
  exact List.append_nil _

theorem handed_setAlarm (e : Env) (wait : Nat) (job : Job) :
    (e.setAlarm wait job).handed = e.handed := by
  rw [setAlarm]
  split <;> rfl

theorem handed_submit (e : Env) (o : Nat) (p : Packet) (replace : Option Nat)
    (c : Callback) : (e.submit o p replace c).handed = e.handed := by
  have hreports : ∀ event ∈ ((e.outbox o).add p replace c).2.2, event.isReport = true :=
    fun _ => Outbox.isReport_of_mem_add
  have hadd := (e.setOutbox o ((e.outbox o).add p replace c).2.1).handed_record_reports hreports
  rw [submit]
  dsimp only
  split
  · exact hadd
  · exact hadd

theorem handed_closeOutbox (e : Env) (o : Nat) : (e.closeOutbox o).handed = e.handed :=
  handed_record_reports (e.setOutbox o _) fun _ => Outbox.isReport_of_mem_close

theorem handed_closeLink (e : Env) (id : String) : (e.closeLink id).handed = e.handed := by
  rw [closeLink, handed_record]
  exact List.append_nil _

end Env

end Tether
