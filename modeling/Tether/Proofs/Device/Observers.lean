import Tether.Proofs.Device.Remembered

/-!
# What observers make of what they are told

Observers are told of events and not of states. Whoever keeps an account of pairing from the
events alone takes it to be idle, or pending once the other side asked, or active. That this side
asked is no event, so someone who asked and someone who did not are both idle.

The account is a partial function (`Outlook.after`): an event that cannot come in an outlook has no
answer there. So to follow the events of a run is already to say that none of them was out of
place, and what is proved is that they can be followed, and that whoever does so ends up with the
outlook that fits the state.

Within a turn of the session the two disagree, since a state is entered before it is announced. So
the turn is the least step for which the statement holds (`follow_actions`); what operations do
besides takes no turn and tells observers nothing (`Tells`). Who is registered changes by two
operations only, and these tell nothing either. Whether an observer crashes does not enter at all.
-/

namespace Tether

/-- What pairing has come to for someone who knows its events and nothing else. -/
inductive Outlook where
  | idle
  /-- The other side asked. -/
  | pending
  | active
deriving DecidableEq, Repr

namespace Outlook

/-- The outlook that fits a state. -/
def of : PairingState → Outlook
  | .unpaired | .requested => idle
  | .requestedByPeer => pending
  | .paired => active

/-- The outlook after an event, if the event can come. -/
def after : Outlook → PairingEvent → Option Outlook
  | idle, .incomingRequest => some pending
  | idle, .successful | pending, .successful => some active
  | idle, .unpaired | pending, .unpaired | active, .unpaired => some idle
  | idle, .failed .alreadyPaired => none
  | idle, .failed _ => some idle
  | pending, .failed .timeout | pending, .failed .rejectedByPeer
  | pending, .failed .cancelledByUser | pending, .failed (.sendFailed _) => some idle
  | active, .failed .alreadyPaired => some active
  | _, _ => none

/-- The outlook after events, if they can come in this order. -/
def follow (o : Outlook) (events : List PairingEvent) : Option Outlook :=
  events.foldlM after o

theorem follow_append {o o' o'' : Outlook} {events more : List PairingEvent}
    (h : o.follow events = some o') (h' : o'.follow more = some o'') :
    o.follow (events ++ more) = some o'' := by
  rw [follow] at h h' ⊢
  rw [List.foldlM_append, h]
  exact h'

end Outlook

/-! ## Turns -/

namespace Pairing

/-- The event that an action tells of. -/
def Action.event? : Action → Option PairingEvent
  | .emit event => some event
  | _ => none

/-- Whoever follows the events of a turn from the state before it gets to the state after it. -/
theorem Session.follow_actions (s : Session) (around : Surroundings) (i : Input) :
    (Outlook.of s.state).follow ((s.actions around i).filterMap Action.event?) =
      some (.of (s.turn ⟨around, i⟩).state) := by
  obtain ⟨state, generation⟩ := s
  rw [turn, step]
  cases i with
  | received p =>
      simp only [actions]
      cases ofPacket p with
      | error f => rfl
      | ok pair => cases pair <;> cases state <;> rfl
  | request =>
      cases state with
      | unpaired =>
          simp only [actions, onRequest]
          split
          · split <;> rfl
          · rfl
      | requested | requestedByPeer | paired => rfl
  | accept | cancel | sendFailed reason => cases state <;> rfl
  | unpair =>
      simp only [actions]
      split <;> cases state <;> rfl
  | expired g =>
      simp only [actions]
      split
      · cases state <;> rfl
      · rfl

end Pairing

/-! ## What is told -/

/-- The event of pairing that someone was told of. -/
def Event.heard? (name : String) : Event → Option PairingEvent
  | .pairing o event _ => if o.name = name then some event else none
  | _ => none

/-- The events of pairing that someone was told of, in order. -/
def Env.heard (e : Env) (name : String) : List PairingEvent :=
  e.trace.filterMap (Event.heard? name)

/-- How often someone is registered to be told of pairing. -/
def Device.registered (d : Device) (name : String) : Nat :=
  d.observers.countP fun o => o.name = name

theorem Env.heard_record (e : Env) (events : List Event) (name : String) :
    (e.record events).heard name = e.heard name ++ events.filterMap (Event.heard? name) :=
  List.filterMap_append

theorem Env.heard_of_notices {e f : Env} (h : f.notices = e.notices) (name : String) :
    f.heard name = e.heard name := by
  have hnotices : ∀ e : Env, e.heard name = e.notices.filterMap (Event.heard? name) := by
    intro e
    rw [heard, notices, List.filterMap_filter]
    refine List.filterMap_congr fun event _ => ?_
    cases event <;> rfl
  rw [hnotices, h, hnotices]

/-- Each observer is told as often as it is registered. -/
theorem heard_notifyPairing (observers : List Observer) (event : PairingEvent) (seen : Glimpse)
    (name : String) :
    (notifyPairing observers event seen).filterMap (Event.heard? name) =
      List.replicate (observers.countP fun o => o.name = name) event := by
  induction observers with
  | nil => rfl
  | cons o rest ih =>
      rw [notifyPairing] at ih ⊢
      rw [List.map_cons, List.filterMap_cons, ih, Event.heard?]
      by_cases hname : o.name = name
      · simp [hname, List.replicate_succ]
      · simp [hname]

namespace Scene

/-- Observers were told of events and of nothing else, and the same are registered. -/
structure Tells (s t : Scene) (events : List PairingEvent) : Prop where
  observers : t.device.observers = s.device.observers
  told : ∀ name, t.env.heard name =
    s.env.heard name ++ events.flatMap (List.replicate (s.device.registered name))

variable {site : Site} {s t u : Scene}

theorem Tells.trans {events more : List PairingEvent} (h : s.Tells t events)
    (h' : t.Tells u more) : s.Tells u (events ++ more) := by
  refine ⟨h'.observers.trans h.observers, ?_⟩
  intro name
  have hsame : t.device.registered name = s.device.registered name :=
    congrArg (List.countP _) h.observers
  rw [h'.told, h.told, hsame, List.flatMap_append, List.append_assoc]

theorem Tells.of_notices (ho : t.device.observers = s.device.observers)
    (hn : t.env.notices = s.env.notices) : s.Tells t [] := by
  refine ⟨ho, ?_⟩
  intro name
  rw [Env.heard_of_notices hn, List.flatMap_nil, List.append_nil]

theorem tells_reload (site : Site) (s : Scene) : s.Tells (s.reload site) [] := by
  refine ⟨rfl, ?_⟩
  intro name
  have hlisteners : (s.device.listeners.map fun l =>
      Event.pluginsChanged l s.device.id (s.settlePlugins site).glimpse).filterMap
        (Event.heard? name) = [] := by
    simp [Event.heard?]
  rw [reload_eq, tellListeners, record, Env.heard_record,
    Env.heard_of_notices (s.quiet_settlePlugins site).env.notices]
  exact congrArg _ hlisteners

theorem tells_writes (changes : List Store.Change) (s : Scene) :
    s.Tells (changes.foldl tryWrite s) [] := by
  induction changes generalizing s with
  | nil => exact .of_notices rfl rfl
  | cons c rest ih =>
      have hwrite : s.Tells (s.tryWrite c) [] := .of_notices rfl rfl
      exact hwrite.trans (ih (s.tryWrite c))

theorem tells_observers (s : Scene) (event : PairingEvent) :
    s.Tells (s.tellObservers event) [event] := by
  refine ⟨rfl, ?_⟩
  intro name
  rw [tellObservers, record, Env.heard_record, heard_notifyPairing]
  simp [Device.registered]

/-- Whatever an event calls for is done before observers are told of it, and tells them nothing. -/
theorem tells_onPairing (site : Site) (s : Scene) (event : PairingEvent) :
    s.Tells (s.onPairing site event) [event] := by
  cases event with
  | successful =>
      have hstore : s.Tells s.storeTrust [] := tells_writes (trusting s.device) s
      exact (hstore.trans (tells_reload site _)).trans (tells_observers _ _)
  | unpaired =>
      have herase : s.Tells s.eraseTrust [] := tells_writes (forgetting s.device) s
      exact (herase.trans (tells_reload site _)).trans (tells_observers _ _)
  | incomingRequest | failed _ => exact tells_observers s _

theorem tells_perform (site : Site) (s : Scene) (a : Pairing.Action) :
    s.Tells (s.perform site a) a.event?.toList := by
  rcases s.perform_cases site a with ⟨event, rfl⟩ | ⟨hsilent, hquiet⟩
  · exact tells_onPairing site s event
  · have hobservers : (s.perform site a).device.observers = s.device.observers := by
      cases a with
      | emit event => exact absurd rfl (hsilent event)
      | enter _ | startTimer | cancelTimer => rfl
      | send pair => exact congrArg Device.observers (send_device _ _ _ _)
    have hnone : a.event? = none := by
      cases a with
      | emit event => exact absurd rfl (hsilent event)
      | enter _ | startTimer | cancelTimer | send _ => rfl
    rw [hnone]
    exact .of_notices hobservers hquiet.env.notices

theorem tells_performAll (site : Site) (acts : List Pairing.Action) (s : Scene) :
    s.Tells (acts.foldl (perform site) s) (acts.filterMap Pairing.Action.event?) := by
  induction acts generalizing s with
  | nil => exact .of_notices rfl rfl
  | cons a rest ih =>
      have hrest := (tells_perform site s a).trans (ih (s.perform site a))
      rw [List.foldl_cons, List.filterMap_cons]
      cases a with
      | emit event => exact hrest
      | enter _ | startTimer | cancelTimer | send _ => exact hrest

/-! ## Operations -/

/-- Observers were told of events that lead from the state before to the state after. -/
def Announces (s t : Scene) : Prop :=
  ∃ events, s.Tells t events ∧
    (Outlook.of s.device.session.state).follow events = some (.of t.device.session.state)

theorem Announces.trans (h : s.Announces t) (h' : t.Announces u) : s.Announces u := by
  obtain ⟨events, htells, hfollow⟩ := h
  obtain ⟨more, htells', hfollow'⟩ := h'
  exact ⟨events ++ more, htells.trans htells', Outlook.follow_append hfollow hfollow'⟩

/-- What tells nothing and takes no turn. -/
theorem Tells.announces (h : s.Tells t []) (hs : t.device.session = s.device.session) :
    s.Announces t :=
  ⟨[], h, by rw [hs]; rfl⟩

theorem announces_of_eq (ho : t.device.observers = s.device.observers)
    (hs : t.device.session = s.device.session) (hn : t.env.notices = s.env.notices) :
    s.Announces t :=
  (Tells.of_notices ho hn).announces hs

theorem Quiet.announces (h : s.Quiet t) (ho : t.device.observers = s.device.observers) :
    s.Announces t :=
  announces_of_eq ho h.session h.env.notices

theorem announces_refl (s : Scene) : s.Announces s :=
  announces_of_eq rfl rfl rfl

theorem announces_reload (site : Site) (s : Scene) : s.Announces (s.reload site) :=
  (tells_reload site s).announces rfl

theorem announces_pair (site : Site) (s : Scene) (i : Pairing.Input) :
    s.Announces (s.pair site i) := by
  refine ⟨_, tells_performAll site (s.device.session.actions s.around i) s, ?_⟩
  rw [pair_session]
  exact s.device.session.follow_actions s.around i

theorem announces_foldl {α : Type} {f : Scene → α → Scene}
    (h : ∀ (s : Scene) (a : α), s.Announces (f s a))
    (items : List α) (s : Scene) : s.Announces (items.foldl f s) := by
  induction items generalizing s with
  | nil => exact announces_refl s
  | cons a rest ih => exact (h s a).trans (ih (f s a))

theorem announces_learn (s : Scene) (i : PeerIdentity) : s.Announces (s.learn i) := by
  obtain ⟨changes, hfollow, -⟩ := s.follow_eq i
  have hwrites := tells_writes changes s
  rw [← hfollow] at hwrites
  have hlearn : (s.follow i).Tells (s.learn i) [] := .of_notices rfl rfl
  refine (hwrites.trans hlearn).announces ?_
  rw [learn_device]

theorem announces_setPlugin (site : Site) (s : Scene) (key : String) (enabled : Bool) :
    s.Announces (s.setPlugin site key enabled).2 := by
  rw [setPlugin]
  split
  · exact announces_of_eq rfl rfl rfl
  · next ledger _ =>
      have hwrite : s.Announces { s with env.ledger := ledger } := announces_of_eq rfl rfl rfl
      exact hwrite.trans (announces_reload site _)

theorem announces_reloadOnce (site : Site) (s : Scene) : s.Announces (s.reloadOnce site) := by
  rw [reloadOnce]
  split
  · have hcleared : s.Announces { s with device.reloadOnPacket := false } :=
      announces_of_eq rfl rfl rfl
    exact hcleared.trans (announces_reload site _)
  · exact announces_refl s

theorem announces_env (s : Scene) {env : Env} (h : s.env.Alike env) :
    s.Announces { s with env } :=
  (s.quiet_env h).announces rfl

theorem announces_send (s : Scene) (p : Packet) (replace : Option Nat) (c : Callback) :
    s.Announces (s.send p replace c) :=
  (s.quiet_send p replace c).announces (congrArg Device.observers (s.send_device p replace c))

theorem announces_obey (site : Site) (i : Plugin.Instance) (p : Packet) (s : Scene)
    (r : Plugin.Request) : s.Announces (obey site i p s r) := by
  cases r with
  | reply type =>
      exact (s.announces_send _ none _).trans (announces_env _ (Env.alike_note _ _ _))
  | replyInPlace type replace => exact s.announces_send _ _ _
  | unpair => exact announces_pair site s .unpair
  | setPlugin key enabled =>
      exact (announces_setPlugin site s key enabled).trans
        (announces_env _ (Env.alike_note _ _ _))

theorem announces_dispatch (site : Site) (s : Scene) (p : Packet) (paired : Bool) :
    s.Announces (s.dispatch site p paired) := by
  refine announces_foldl ?_ _ s
  intro s i
  have hcall : s.env.Alike (s.env.call fun shop => shop.handle i paired p).2 :=
    s.env.alike_call fun shop => shop.conducts_handle i paired p
  exact (s.announces_env hcall).trans (announces_foldl (announces_obey site i p) _ _)

theorem announces_receive (site : Site) (s : Scene) (p : Packet) :
    s.Announces (s.receive site p) := by
  rw [receive]
  split
  · exact announces_pair site s _
  · split
    · exact (announces_reloadOnce site s).trans (announces_dispatch site _ p true)
    · exact (announces_pair site s .unpair).trans (announces_dispatch site _ p false)

theorem openOutbox_observers (s : Scene) :
    s.openOutbox.device.observers = s.device.observers := by
  rw [openOutbox]
  split <;> rfl

theorem closeOutbox_observers (s : Scene) :
    s.closeOutbox.device.observers = s.device.observers := by
  rw [closeOutbox]
  split <;> rfl

theorem announces_attach (site : Site) (s : Scene) (i : PeerIdentity) (link : String) :
    s.Announces (s.attach site i link).2 := by
  rw [attach]
  split
  · exact announces_refl s
  · refine (announces_learn s i).trans ?_
    generalize s.learn i = t
    dsimp only
    split
    · exact announces_refl t
    · next links _ =>
        have hlinks : t.Announces { t with device.links := links } :=
          announces_of_eq rfl rfl rfl
        have hopen := (quiet_openOutbox { t with device.links := links }).announces
          (openOutbox_observers _)
        refine (hlinks.trans hopen).trans (Announces.trans ?_ (announces_reload site _))
        generalize { t with device.links := links }.openOutbox = v
        split <;> exact announces_of_eq rfl rfl rfl

theorem announces_detach (site : Site) (s : Scene) (link : String) :
    s.Announces (s.detach site link).2 := by
  rw [detach]
  split
  · exact announces_refl s
  · next links _ =>
      have hlinks : s.Announces { s with
          device.links := links
          env.links := s.env.links.removeReceiver link s.device.ref } :=
        announces_of_eq rfl rfl rfl
      refine (hlinks.trans ?_).trans (announces_reload site _)
      split
      · have hclose := (quiet_closeOutbox { s with
            device.links := links
            env.links := s.env.links.removeReceiver link s.device.ref }).announces
          (closeOutbox_observers _)
        exact hclose.trans (announces_of_eq rfl rfl rfl)
      · exact announces_refl _

/-- Unless it is about observers, an operation announces what it does to the state. -/
theorem announces_apply (site : Site) (s : Scene) (op : Op) :
    (∃ o, op = .addObserver o) ∨ (∃ name, op = .removeObserver name) ∨
      s.Announces (s.apply site op) := by
  cases op with
  | addObserver o => exact .inl ⟨o, rfl⟩
  | removeObserver name => exact .inr (.inl ⟨name, rfl⟩)
  | attach i link => exact .inr (.inr (announces_attach site s i link))
  | detach link => exact .inr (.inr (announces_detach site s link))
  | disconnect => exact .inr (.inr (s.quiet_disconnect.announces rfl))
  | receive p => exact .inr (.inr (announces_receive site s p))
  | pairing i => exact .inr (.inr (announces_pair site s i))
  | setPlugin key enabled => exact .inr (.inr (announces_setPlugin site s key enabled))
  | reload => exact .inr (.inr (announces_reload site s))
  | shutdownPlugins => exact .inr (.inr (s.quiet_shutdownPlugins.announces rfl))
  | send p replace callback => exact .inr (.inr (s.announces_send p replace callback))
  | takeBack replace =>
      have hobservers := congrArg Device.observers (s.takeBack_device replace)
      exact .inr (.inr ((s.quiet_takeBack replace).announces hobservers))
  | sendBlocking name p callback sameThread =>
      have hquiet := quiet_sendBlocking site s name p callback sameThread
      have hdevice := sendBlocking_device site s name p callback sameThread
      exact .inr (.inr (hquiet.announces (congrArg Device.observers hdevice)))
  | addListener _ | removeListener _ => exact .inr (.inr (announces_of_eq rfl rfl rfl))
  | elsewhere env => exact .inr (.inr (announces_of_eq rfl rfl (s.elsewhere_notices env)))

/-! ## Runs -/

end Scene

/-- An operation may change how often someone is registered to be told of pairing. -/
def Op.Registers (name : String) : Op → Prop
  | .addObserver o => o.name = name
  | .removeObserver other => other = name
  | _ => False

namespace Scene

/-- The events of an operation lead from the state before it to the state after it, and who is
registered before and after is told of them. -/
theorem apply_told (site : Site) (s : Scene) (op : Op) :
    ∃ events, (Outlook.of s.device.session.state).follow events =
        some (.of (s.apply site op).device.session.state) ∧
      ∀ name, ¬op.Registers name →
        (s.apply site op).device.registered name = s.device.registered name ∧
        (s.apply site op).env.heard name =
          s.env.heard name ++ events.flatMap (List.replicate (s.device.registered name)) := by
  rcases announces_apply site s op with ⟨o, rfl⟩ | ⟨other, rfl⟩ | ⟨events, htells, hfollow⟩
  · refine ⟨[], rfl, ?_⟩
    intro name hname
    have hother : ¬o.name = name := hname
    simp [apply, addObserver, Device.registered, hother]
  · refine ⟨[], rfl, ?_⟩
    intro name hname
    have hother : ¬other = name := hname
    refine ⟨?_, by simp [apply, removeObserver]⟩
    show List.countP _ (s.device.observers.filter _) = List.countP _ s.device.observers
    rw [List.countP_filter]
    refine List.countP_congr fun o _ => ?_
    by_cases ho : o.name = name <;> simp [ho, Ne.symm hother]
  · refine ⟨events, hfollow, ?_⟩
    intro name _
    exact ⟨congrArg (List.countP _) htells.observers, htells.told name⟩

theorem run_told (site : Site) (s : Scene) (ops : List Op) :
    ∃ events, (Outlook.of s.device.session.state).follow events =
        some (.of (s.run site ops).device.session.state) ∧
      ∀ name, (∀ op ∈ ops, ¬op.Registers name) → (s.run site ops).env.heard name =
        s.env.heard name ++ events.flatMap (List.replicate (s.device.registered name)) := by
  induction ops generalizing s with
  | nil => exact ⟨[], rfl, fun name _ => by simp⟩
  | cons op rest ih =>
      obtain ⟨events, hfollow, hall⟩ := apply_told site s op
      obtain ⟨more, hfollow', hall'⟩ := ih (s.apply site op)
      refine ⟨events ++ more, Outlook.follow_append hfollow hfollow', ?_⟩
      intro name hspared
      obtain ⟨hop, hrest⟩ := List.forall_mem_cons.mp hspared
      obtain ⟨hsame, htold⟩ := hall name hop
      rw [run_cons, hall' name hrest, hsame, htold, List.flatMap_append, List.append_assoc]

/-- Observers can follow what happens. For every run of a device that starts unpaired there are
events that can be followed, and that lead from idle to the outlook that fits the state after the
run. Every observer that is registered once and stays so is told of just these events, in order,
whichever observers there are besides and whichever of them crash. -/
theorem observers_follow (site : Site) {s : Scene} (h : s.device.session.state = .unpaired)
    (ops : List Op) :
    ∃ events, Outlook.idle.follow events =
        some (.of (s.run site ops).device.session.state) ∧
      ∀ name, s.device.registered name = 1 → (∀ op ∈ ops, ¬op.Registers name) →
        (s.run site ops).env.heard name = s.env.heard name ++ events := by
  obtain ⟨events, hfollow, htold⟩ := run_told site s ops
  rw [h] at hfollow
  refine ⟨events, hfollow, ?_⟩
  intro name hname hspared
  have honce : events.flatMap (List.replicate 1) = events := List.flatMap_singleton' events
  rw [htold name hspared, hname, honce]

/-- A window that crashes whenever it is told of something follows a device that is paired, is asked
for what it has, forgets, asks again, and cannot be told. A badge that comes late is told of the
rest, and changes nothing for the window. -/
theorem observers_follow_crashing :
    let peer : PeerIdentity := { id := "peer" }
    let window : Observer := { name := "window", crashes := true }
    let s : Scene := { device := { Device.ofIdentity 0 peer with observers := [window] }, env := {} }
    let ops : List Op :=
      [.attach peer "lan", .pairing .request, .receive (Pairing.packet 1 true), .pairing .request,
        .addObserver { name := "badge" }, .receive (Pairing.packet 2 true),
        .pairing (.sendFailed "lost")]
    let events : List PairingEvent :=
      [.successful, .failed .alreadyPaired, .unpaired, .incomingRequest,
        .failed (.sendFailed "lost")]
    s.device.session.state = .unpaired ∧ s.device.registered "window" = 1 ∧
      (∀ op ∈ ops, ¬op.Registers "window") ∧ (s.run {} ops).env.heard "window" = events ∧
      (s.run {} ops).env.heard "badge" = events.drop 2 ∧ Outlook.idle.follow events = some .idle := by
  intro peer window s ops events
  have hspared : ∀ op ∈ ops, ¬op.Registers "window" := by simp [ops, Op.Registers]
  have htold : (s.run {} ops).env.heard "window" = events := by decide
  obtain ⟨events', hfollow, hall⟩ := @observers_follow {} s rfl ops
  have hwindow := hall "window" rfl hspared
  rw [htold, show s.env.heard "window" = [] from rfl, List.nil_append] at hwindow
  rw [← hwindow, show (s.run {} ops).device.session.state = .unpaired by decide] at hfollow
  exact ⟨rfl, rfl, hspared, htold, by decide, hfollow⟩

end Scene

end Tether
