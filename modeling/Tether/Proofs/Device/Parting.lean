import Tether.Hub
import Tether.Proofs.Device.Fastened
import Tether.Proofs.Device.Remembered
import Tether.Proofs.Link.Failover

/-!
# How a device takes leave

A device takes leave in three steps: trust ends, its plugins are finished, and its links are asked
to close. Here it is said what is left of the device and of its settings after that
(`leave_device`, `leave_store`), and what becomes of the reject by which the other side would learn
of it: it is put behind everything that waits in the outbox (`bidFarewell_items`), and no step hands
anything to a link (`Scene.Queues`).

What a session or a plugin does to a device comes to no more than that either. Packets are put
behind those that wait, in the outbox of the device and in no other.
-/

namespace Tether

namespace Env

/-- No link was handed anything and none has changed, and what waited waits still, in its place. -/
structure Queues (e f : Env) : Prop where
  links : f.links = e.links
  trace : ∃ new, f.trace = e.trace ++ new ∧ ∀ event ∈ new, event.attempted? = none
  items : ∀ o, (e.outbox o).items <+: (f.outbox o).items

variable {e f g : Env}

theorem Queues.refl (e : Env) : e.Queues e :=
  ⟨rfl, ⟨[], by simp⟩, fun _ => List.prefix_rfl⟩

theorem Queues.trans (h : e.Queues f) (h' : f.Queues g) : e.Queues g := by
  obtain ⟨new, hnew, hnone⟩ := h.trace
  obtain ⟨more, hmore, hnone'⟩ := h'.trace
  refine ⟨h'.links.trans h.links, ⟨new ++ more, ?_, ?_⟩, fun o => (h.items o).trans (h'.items o)⟩
  · rw [hmore, hnew, List.append_assoc]
  · exact List.forall_mem_append.mpr ⟨hnone, hnone'⟩

theorem queues_record (e : Env) {events : List Event}
    (h : ∀ event ∈ events, event.attempted? = none) : e.Queues (e.record events) :=
  ⟨rfl, ⟨events, rfl, h⟩, fun _ => List.prefix_rfl⟩

theorem queues_spawn (e : Env) (job : Job) : e.Queues (e.spawn job) :=
  ⟨rfl, ⟨[], by simp [spawn]⟩, fun _ => List.prefix_rfl⟩

theorem queues_setAlarm (e : Env) (wait : Nat) (job : Job) : e.Queues (e.setAlarm wait job) := by
  rw [setAlarm]
  split
  · exact e.queues_spawn job
  · exact ⟨rfl, ⟨[], by simp⟩, fun _ => List.prefix_rfl⟩

theorem queues_call (e : Env) {α : Type} (f : Plugin.Shop → α × Plugin.Shop) :
    e.Queues (e.call f).2 := by
  refine ⟨rfl, ⟨_, rfl, fun event hevent => ?_⟩, fun _ => List.prefix_rfl⟩
  obtain ⟨n, -, rfl⟩ := List.mem_map.mp hevent
  rfl

/-- An outbox may be exchanged for one in which more waits. -/
theorem queues_setOutbox (e : Env) {o : Nat} {box : Outbox}
    (h : (e.outbox o).items <+: box.items) : e.Queues (e.setOutbox o box) := by
  refine ⟨rfl, ⟨[], by simp [setOutbox]⟩, fun other => ?_⟩
  by_cases hlt : o < e.outboxes.length
  · by_cases heq : o = other
    · subst heq
      rw [e.outbox_setOutbox hlt]
      exact h
    · rw [e.outbox_setOutbox_of_ne heq]
  · rw [e.setOutbox_of_le (Nat.le_of_not_lt hlt)]

/-- A packet that is submitted is added to its outbox, and the worker may be woken. -/
theorem submit_eq (e : Env) (o : Nat) (p : Packet) (replace : Option Nat) (c : Callback) :
    ∃ worker jobs, e.submit o p replace c =
      { (e.setOutbox o { ((e.outbox o).add p replace c).2.1 with worker }).record
          ((e.outbox o).add p replace c).2.2 with
        ready := e.ready ++ jobs } := by
  rw [submit]
  dsimp only
  generalize (e.outbox o).add p replace c = added
  split
  · refine ⟨.awake, added.2.2.filterMap job? ++ [.work o], ?_⟩
    simp [spawn, setOutbox, record]
  · exact ⟨added.2.1.worker, added.2.2.filterMap job?, rfl⟩

/-- A packet without a number goes behind all others, or is refused. -/
theorem queues_submit (e : Env) (o : Nat) (p : Packet) (c : Callback) :
    e.Queues (e.submit o p none c) ∧
      ∀ other, o ≠ other → (e.submit o p none c).outbox other = e.outbox other := by
  have hreports : ∀ event ∈ ((e.outbox o).add p none c).2.2, event.attempted? = none :=
    fun event hevent =>
      Delivery.attempted?_of_isReport event (Outbox.isReport_of_mem_add hevent)
  have hitems : (e.outbox o).items <+: ((e.outbox o).add p none c).2.1.items := by
    rcases (e.outbox o).add_cases p none c with
      ⟨-, hadd⟩ | ⟨-, n, pre, i, post, hslot, -⟩ | ⟨-, -, hadd⟩
    · rw [hadd]
    · cases hslot
    · rw [hadd]
      exact List.prefix_append _ _
  obtain ⟨worker, jobs, hsubmit⟩ := e.submit_eq o p none c
  rw [hsubmit]
  generalize (e.outbox o).add p none c = added at hreports hitems ⊢
  have hput : e.Queues (e.setOutbox o { added.2.1 with worker }) := e.queues_setOutbox hitems
  have htold := hput.trans (queues_record _ hreports)
  exact ⟨⟨htold.links, htold.trace, htold.items⟩,
    fun other hne => e.outbox_setOutbox_of_ne hne _⟩

end Env

namespace Scene

variable {site : Site} {s t u : Scene}

/-- Packets were put behind those that wait in the outbox of the device, and no link was handed
any. -/
structure Queues (s t : Scene) : Prop extends s.env.Queues t.env where
  outbox : t.device.outbox = s.device.outbox
  others : ∀ o, s.device.outbox ≠ some o → t.env.outbox o = s.env.outbox o

theorem Queues.refl (s : Scene) : s.Queues s :=
  ⟨.refl s.env, rfl, fun _ _ => rfl⟩

theorem Queues.trans (h : s.Queues t) (h' : t.Queues u) : s.Queues u := by
  refine ⟨h.toQueues.trans h'.toQueues, h'.outbox.trans h.outbox, fun o ho => ?_⟩
  rw [h'.others o (h.outbox ▸ ho), h.others o ho]

/-- Outboxes are left alone. -/
theorem Queues.of_env (h : s.env.Queues t.env) (houtbox : t.device.outbox = s.device.outbox)
    (hsame : t.env.outboxes = s.env.outboxes) : s.Queues t :=
  ⟨h, houtbox, fun o _ => by rw [Env.outbox, hsame, Env.outbox]⟩

theorem queues_send (s : Scene) (p : Packet) (c : Callback) : s.Queues (s.send p none c) := by
  rw [send]
  split
  · next o houtbox =>
      obtain ⟨hqueues, hother⟩ := s.env.queues_submit o p c
      exact ⟨hqueues, rfl, fun other hne => hother other fun heq => hne (heq ▸ houtbox)⟩
  · refine .of_env (s.env.queues_record fun event hevent => ?_) rfl rfl
    exact Delivery.attempted?_of_isReport event (Callback.isReport_of_mem_tell hevent)

theorem queues_writes (changes : List Store.Change) (s : Scene) :
    s.Queues (changes.foldl tryWrite s) := by
  induction changes generalizing s with
  | nil => exact .refl s
  | cons c rest ih =>
      have hwrite : s.Queues (s.tryWrite c) :=
        .of_env ⟨rfl, ⟨[], by simp [tryWrite, Env.tryWrite]⟩, fun _ => List.prefix_rfl⟩ rfl rfl
      exact hwrite.trans (ih _)

/-- Whoever is told of pairing or of plugins is handed no packet. -/
theorem queues_record (s : Scene) {events : List Event}
    (h : ∀ event ∈ events, event.attempted? = none) : s.Queues (s.record events) :=
  .of_env (s.env.queues_record h) rfl rfl

theorem queues_reload (site : Site) (s : Scene) : s.Queues (s.reload site) := by
  have hcall : s.Queues (s.settlePlugins site) :=
    .of_env (s.env.queues_call fun shop =>
      s.device.roster.reload shop s.owner (s.candidates site)) rfl rfl
  refine hcall.trans (queues_record _ fun event hevent => ?_)
  obtain ⟨l, -, rfl⟩ := List.mem_map.mp hevent
  rfl

theorem queues_shutdownPlugins (s : Scene) : s.Queues s.shutdownPlugins :=
  .of_env (s.env.queues_call fun shop => ((), s.device.roster.clear shop)) rfl rfl

theorem queues_onPairing (site : Site) (s : Scene) (event : PairingEvent) :
    s.Queues (s.onPairing site event) := by
  have htell (u : Scene) : u.Queues (u.tellObservers event) := by
    refine u.queues_record fun e he => ?_
    obtain ⟨o, -, rfl⟩ := List.mem_map.mp he
    rfl
  cases event with
  | successful =>
      exact ((queues_writes (trusting s.device) s).trans (queues_reload site _)).trans (htell _)
  | unpaired =>
      exact ((queues_writes (forgetting s.device) s).trans (queues_reload site _)).trans (htell _)
  | incomingRequest | failed _ => exact htell s

theorem queues_perform (site : Site) (s : Scene) (a : Pairing.Action) :
    s.Queues (s.perform site a) := by
  have hsession : s.Queues { s with device.session := s.device.session.perform a } :=
    .of_env (.refl _) rfl rfl
  cases a with
  | enter _ | cancelTimer => exact hsession
  | startTimer =>
      have halarm (e : Env) (wait : Nat) (job : Job) :
          (e.setAlarm wait job).outboxes = e.outboxes := by
        rw [Env.setAlarm]
        split <;> rfl
      exact hsession.trans (.of_env (Env.queues_setAlarm _ _ _) rfl (halarm _ _ _))
  | send pair =>
      have hid : s.Queues { s with env := s.env.newId.2 } :=
        .of_env ⟨rfl, ⟨[], by simp [Env.newId]⟩, fun _ => List.prefix_rfl⟩ rfl rfl
      exact hid.trans (queues_send _ _ _)
  | emit event => exact hsession.trans (queues_onPairing site _ event)

/-- Whatever happens to the session of a device, packets of pairing are put behind all others. -/
theorem queues_pair (site : Site) (s : Scene) (i : Pairing.Input) : s.Queues (s.pair site i) := by
  rw [pair]
  generalize s.device.session.actions s.around i = acts
  induction acts generalizing s with
  | nil => exact .refl s
  | cons a rest ih => exact (queues_perform site s a).trans (ih _)

/-! ## The end of trust -/

/-- The session when trust ends. -/
def unpaired (s : Scene) : Scene :=
  { s with device.session := ⟨.unpaired, s.device.session.generation + 1⟩ }

/-- The packet that tells the other side of the end of trust. -/
def farewell (s : Scene) : Packet :=
  Pairing.packet s.env.newId.1 false

/-- Tell the other side, if there is a link to it. -/
def bidFarewell (s : Scene) : Scene :=
  if s.device.isReachable then
    { s with env := s.env.newId.2 }.send s.farewell none (.pairing s.device.ref)
  else s

theorem pair_unpair (site : Site) (s : Scene) :
    s.pair site .unpair =
      (s.unpaired.bidFarewell.eraseTrust.reload site).tellObservers .unpaired := by
  rw [pair, bidFarewell]
  have haround : s.around.reachable = s.unpaired.device.isReachable := rfl
  simp only [Pairing.Session.actions, haround]
  split <;> rfl

theorem ofPacket_farewell (s : Scene) : Pairing.ofPacket s.farewell = .ok false :=
  Pairing.ofPacket_packet _ _

theorem bidFarewell_device (s : Scene) : s.bidFarewell.device = s.device := by
  rw [bidFarewell]
  split
  · exact send_device { s with env := s.env.newId.2 } _ _ _
  · rfl

theorem bidFarewell_ledger (s : Scene) : s.bidFarewell.env.ledger = s.env.ledger := by
  rw [bidFarewell]
  split
  · exact (quiet_send { s with env := s.env.newId.2 } _ _ _).env.ledger
  · rfl

/-- Of a device that took leave there are no plugins left, and it is not paired. -/
theorem leave_device (site : Site) (s : Scene) :
    (Hub.leave site s).device =
      { s.device with
        session := ⟨.unpaired, s.device.session.generation + 1⟩
        roster := {} } := by
  have hpair : (s.pair site .unpair).device =
      { s.unpaired.device with roster := (s.pair site .unpair).device.roster } := by
    have hdevice := s.unpaired.bidFarewell_device
    rw [pair_unpair]
    generalize s.unpaired.bidFarewell = t at hdevice ⊢
    rw [← hdevice]
    rfl
  show { (s.pair site .unpair).device with roster := {} } = _
  rw [hpair]
  rfl

/-- Settings lose the trust in the device and its scope, and nothing else. -/
theorem leave_store (site : Site) (hl : s.env.ledger.Reliable) :
    (Hub.leave site s).env.store =
      (s.env.store.apply (.setTrusted s.device.id false)).apply (.clearScope s.device.id) := by
  have hclosed : (Hub.leave site s).env.ledger = (s.pair site .unpair).env.ledger :=
    (quiet_disconnect _).env.ledger
  have hfarewell := bidFarewell_ledger s.unpaired
  have hpair : (s.pair site .unpair).env.store = s.unpaired.bidFarewell.eraseTrust.env.store := by
    rw [pair_unpair]
    rfl
  rw [Env.store, hclosed]
  refine hpair.trans ?_
  rw [eraseTrust_eq, writes_store _ (hfarewell ▸ hl), Env.store, hfarewell, bidFarewell_device]
  rfl

theorem disconnect_trace (s : Scene) :
    s.disconnect.env.trace = s.env.trace ++ s.device.links.map .closing := by
  rw [disconnect]
  generalize s.device.links = links
  generalize s.env = env
  dsimp only
  induction links generalizing env with
  | nil => simp
  | cons id rest ih =>
      rw [List.foldl_cons, ih]
      simp [Env.closeLink, Env.record]

theorem disconnect_outboxes (s : Scene) : s.disconnect.env.outboxes = s.env.outboxes := by
  rw [disconnect]
  generalize s.device.links = links
  generalize s.env = env
  dsimp only
  induction links generalizing env with
  | nil => rfl
  | cons id rest ih => exact ih _

theorem keeps_bidFarewell (s : Scene) : s.Keeps s.unpaired.bidFarewell := by
  have hunpaired : s.Keeps s.unpaired := ⟨rfl, rfl, rfl, .refl s.env⟩
  rw [bidFarewell]
  split
  · exact (hunpaired.trans (keeps_env _ s.env.passes_newId)).trans (keeps_send _ _ _ _)
  · exact hunpaired

theorem queues_bidFarewell (s : Scene) : s.Queues s.unpaired.bidFarewell := by
  rw [bidFarewell]
  split
  · have hid : s.Queues { s.unpaired with env := s.env.newId.2 } :=
      .of_env ⟨rfl, ⟨[], by simp [Env.newId]⟩, fun _ => List.prefix_rfl⟩ rfl rfl
    exact hid.trans (queues_send _ _ _)
  · exact .of_env (.refl s.env) rfl rfl

/-- The reject by which the other side would learn of the end of trust waits behind everything that
waited before. -/
theorem bidFarewell_items {o : Nat} (hlinks : s.device.links ≠ [])
    (houtbox : s.device.outbox = some o) (hopen : (s.env.outbox o).closed = false) :
    (s.unpaired.bidFarewell.env.outbox o).items =
      (s.env.outbox o).items ++ [⟨s.farewell, none, .pairing s.device.ref⟩] := by
  have hreachable : s.unpaired.device.isReachable = true := by
    simpa [unpaired, Device.isReachable, List.isEmpty_iff] using hlinks
  have houtbox' : ({ s.unpaired with env := s.unpaired.env.newId.2 } : Scene).device.outbox =
      some o := houtbox
  obtain ⟨worker, jobs, hsubmit⟩ := s.env.newId.2.submit_eq o s.unpaired.farewell none
    (.pairing s.device.ref)
  have hadd : ((s.env.newId.2.outbox o).add s.unpaired.farewell none (.pairing s.device.ref)).2.1 =
      { s.env.outbox o with
        items := (s.env.outbox o).items ++ [⟨s.farewell, none, .pairing s.device.ref⟩] } := by
    have hopen' : (s.env.newId.2.outbox o).closed = false := hopen
    rw [Outbox.add, if_neg (by rw [hopen']; exact Bool.false_ne_true)]
    rfl
  rw [hadd] at hsubmit
  have hbox : (s.env.newId.2.submit o s.unpaired.farewell none (.pairing s.device.ref)).outbox o =
      _ := (congrArg (·.outbox o) hsubmit).trans (Env.outbox_setOutbox _ (Env.lt_of_open hopen) _)
  rw [bidFarewell, if_pos hreachable, send, houtbox']
  exact congrArg Outbox.items hbox

end Scene

end Tether
