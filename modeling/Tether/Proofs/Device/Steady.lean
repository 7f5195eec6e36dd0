import Tether.Device.Attachment
import Tether.Device.Inbound
import Tether.Proofs.Env.Alike
import Tether.Proofs.Pairing.Run
import Tether.Proofs.Settings.Reads

/-!
# What the parts of a device's operations leave alone

Two measures of how little something does. A quiet step does nothing that pairing or
trust could notice: the session, what is known of the device, settings and notices are
as before. A steady step may do all of that, but still neither the device nor what is
known of it becomes another, and plugins ask for the same things as before.

Sending, attaching and finishing are quiet. A reload is quiet but for one notice for
each listener. Whatever a session does is steady, and of the session itself it does
exactly what the session alone would do.
-/

namespace Tether.Scene

/-- Nothing happened that concerns pairing. -/
structure Quiet (s t : Scene) : Prop where
  id : t.device.id = s.device.id
  session : t.device.session = s.device.session
  details : t.device.details = s.device.details
  env : s.env.Alike t.env

/-- The device, what is known of it, and what plugins ask for are the same. -/
structure Steady (s t : Scene) : Prop where
  id : t.device.id = s.device.id
  details : t.device.details = s.device.details
  conducts : t.env.conducts = s.env.conducts

theorem Quiet.trans {s t u : Scene} (h : s.Quiet t) (h' : t.Quiet u) : s.Quiet u :=
  ⟨h'.id.trans h.id, h'.session.trans h.session, h'.details.trans h.details,
    h.env.trans h'.env⟩

theorem Quiet.steady {s t : Scene} (h : s.Quiet t) : s.Steady t :=
  ⟨h.id, h.details, h.env.conducts⟩

theorem Steady.refl (s : Scene) : s.Steady s :=
  ⟨rfl, rfl, rfl⟩

theorem Steady.trans {s t u : Scene} (h : s.Steady t) (h' : t.Steady u) : s.Steady u :=
  ⟨h'.id.trans h.id, h'.details.trans h.details, h'.conducts.trans h.conducts⟩

theorem Quiet.store {s t : Scene} (h : s.Quiet t) : t.env.store = s.env.store := by
  rw [Env.store, h.env.ledger, Env.store]

/-- A change of the environment alone is quiet if it leads to one that is alike. -/
theorem quiet_env (s : Scene) {env : Env} (h : s.env.Alike env) :
    s.Quiet { s with env } :=
  ⟨rfl, rfl, rfl, h⟩

theorem quiet_send (s : Scene) (p : Packet) (replace : Option Nat) (c : Callback) :
    s.Quiet (s.send p replace c) := by
  rw [send]
  split
  · exact s.quiet_env (s.env.alike_submit _ p replace c)
  · exact s.quiet_env (s.env.alike_record (notices_of_reports fun _ => Callback.isReport_of_mem_tell))

theorem quiet_takeBack (s : Scene) (replace : Nat) :
    s.Quiet (s.takeBack replace).2 := by
  rw [takeBack]
  split
  · exact s.quiet_env (s.env.alike_takeFrom _ replace)
  · exact s.quiet_env (.refl _)

theorem quiet_sendBlocking (site : Site) (s : Scene) (name : String) (p : Packet)
    (c : Callback) (sameThread : Bool) :
    s.Quiet (s.sendBlocking site name p c sameThread) := by
  simp only [sendBlocking]
  have hbegin : ∀ calls job, s.env.Alike ({ s.env with calls }.spawn job) :=
    fun _ _ => ⟨rfl, rfl, rfl⟩
  split
  · exact s.quiet_env ((hbegin _ _).trans (Env.alike_setAlarm _ _ _))
  · exact s.quiet_env (hbegin _ _)

theorem quiet_openOutbox (s : Scene) : s.Quiet s.openOutbox := by
  rw [openOutbox]
  split
  · exact s.quiet_env (.refl _)
  · exact ⟨rfl, rfl, rfl, s.env.alike_openOutbox _⟩

theorem quiet_closeOutbox (s : Scene) : s.Quiet s.closeOutbox := by
  rw [closeOutbox]
  split
  · exact ⟨rfl, rfl, rfl, s.env.alike_closeOutbox _⟩
  · exact s.quiet_env (.refl _)

theorem quiet_shutdownPlugins (s : Scene) : s.Quiet s.shutdownPlugins :=
  ⟨rfl, rfl, rfl, s.env.alike_call (f := fun shop => ((), s.device.roster.clear shop))
    fun shop => Plugin.Roster.conducts_clear s.device.roster shop⟩

theorem quiet_disconnect (s : Scene) : s.Quiet s.disconnect := by
  refine s.quiet_env ?_
  generalize s.device.links = links
  have hfold : ∀ env : Env, env.Alike (links.foldl Env.closeLink env) := by
    induction links with
    | nil => exact Env.Alike.refl
    | cons id rest ih => exact fun env => (env.alike_closeLink id).trans (ih _)
  exact hfold s.env

/-! ## Reloads -/

/-- The plugins of a device after a reload, before listeners are told. -/
def settlePlugins (site : Site) (s : Scene) : Scene :=
  let (roster, env) := s.env.call fun shop =>
    s.device.roster.reload shop s.owner (s.candidates site)
  { device := { s.device with roster }, env }

theorem reload_eq (site : Site) (s : Scene) :
    s.reload site = (s.settlePlugins site).tellListeners := rfl

theorem quiet_settlePlugins (site : Site) (s : Scene) : s.Quiet (s.settlePlugins site) :=
  ⟨rfl, rfl, rfl, s.env.alike_call fun shop =>
    Plugin.Roster.conducts_reload s.device.roster shop s.owner (s.candidates site)⟩

theorem Quiet.glimpse {s t : Scene} (h : s.Quiet t) : t.glimpse = s.glimpse := by
  simp only [Scene.glimpse, h.session, h.details, h.store]

theorem steady_record (s : Scene) (events : List Event) : s.Steady (s.record events) :=
  ⟨rfl, rfl, rfl⟩

theorem steady_reload (site : Site) (s : Scene) : s.Steady (s.reload site) :=
  (s.quiet_settlePlugins site).steady.trans (steady_record _ _)

/-- Each listener is told once, and sees what could be seen before the reload. -/
theorem reload_notices (site : Site) (s : Scene) :
    (s.reload site).env.notices = s.env.notices ++
      s.device.listeners.map fun l => .pluginsChanged l s.device.id s.glimpse := by
  have hquiet := s.quiet_settlePlugins site
  have hall : ∀ listeners : List Observer,
      (listeners.map fun l => Event.pluginsChanged l s.device.id s.glimpse).filter
          Event.isNotice =
        listeners.map fun l => Event.pluginsChanged l s.device.id s.glimpse := by
    intro listeners
    rw [List.filter_eq_self]
    intro event hevent
    obtain ⟨l, -, rfl⟩ := List.mem_map.mp hevent
    rfl
  rw [reload_eq, tellListeners, record, Env.notices_record, hquiet.env.notices,
    hquiet.glimpse]
  exact congrArg _ (hall _)

/-! ## Writes -/

@[simp] theorem writes_device (changes : List Store.Change) (s : Scene) :
    (changes.foldl tryWrite s).device = s.device := by
  induction changes generalizing s with
  | nil => rfl
  | cons c rest ih => exact ih _

/-- What an identity tells of one thing is written once or not at all. -/
theorem writes_of_field (s : Scene) (key old : String) (new : Option String) :
    ∃ changes : List Store.Change,
      (new.elim s fun new =>
        if s.device.isPaired ∧ new ≠ old then
          s.tryWrite (.putString s.device.id key new)
        else s) = changes.foldl tryWrite s ∧
      ∀ c ∈ changes, ∃ value, c = .putString s.device.id key value := by
  cases new with
  | none => exact ⟨[], rfl, nofun⟩
  | some new =>
      rw [Option.elim_some]
      split
      · exact ⟨[.putString s.device.id key new], rfl,
          fun c hc => ⟨new, List.mem_singleton.mp hc⟩⟩
      · exact ⟨[], rfl, nofun⟩

/-- Settings of a trusted device follow its name and its class, and nothing else. -/
theorem follow_eq (s : Scene) (i : PeerIdentity) :
    ∃ changes : List Store.Change, s.follow i = changes.foldl tryWrite s ∧
      ∀ c ∈ changes, ∃ key value, c = .putString s.device.id key value ∧
        (key = Store.nameKey ∨ key = Store.kindKey) := by
  obtain ⟨names, hnames, hname⟩ :=
    writes_of_field s Store.nameKey s.device.details.name i.name
  obtain ⟨kinds, hkinds, hkind⟩ :=
    writes_of_field (names.foldl tryWrite s) Store.kindKey s.device.details.kind.word
      (i.kind.map DeviceKind.word)
  rw [writes_device] at hkinds hkind
  refine ⟨names ++ kinds, ?_, ?_⟩
  · rw [List.foldl_append, ← hkinds, ← hnames, follow]
    cases i.name <;> cases i.kind <;> rfl
  · intro c hc
    rcases List.mem_append.mp hc with hmem | hmem
    · obtain ⟨value, rfl⟩ := hname c hmem
      exact ⟨_, value, rfl, .inl rfl⟩
    · obtain ⟨value, rfl⟩ := hkind c hmem
      exact ⟨_, value, rfl, .inr rfl⟩

theorem steady_tryWrite (s : Scene) (c : Store.Change) : s.Steady (s.tryWrite c) :=
  ⟨rfl, rfl, rfl⟩

theorem steady_writes (changes : List Store.Change) (s : Scene) :
    s.Steady (changes.foldl tryWrite s) := by
  induction changes generalizing s with
  | nil => exact .refl s
  | cons c rest ih => exact (s.steady_tryWrite c).trans (ih _)

theorem learn_device (s : Scene) (i : PeerIdentity) :
    (s.learn i).device = { s.device with details := s.device.details.merge i } := by
  obtain ⟨changes, hfollow, -⟩ := s.follow_eq i
  rw [learn, hfollow]
  simp only [writes_device]

theorem learn_conducts (s : Scene) (i : PeerIdentity) :
    (s.learn i).env.conducts = s.env.conducts := by
  obtain ⟨changes, hfollow, -⟩ := s.follow_eq i
  rw [learn, hfollow]
  exact (steady_writes changes s).conducts

/-! ## Sessions -/

@[simp] theorem tryWrite_device (s : Scene) (c : Store.Change) :
    (s.tryWrite c).device = s.device := rfl

theorem steady_onPairing (site : Site) (s : Scene) (event : PairingEvent) :
    s.Steady (s.onPairing site event) := by
  cases event with
  | successful =>
      have hstore : s.Steady s.storeTrust := ⟨rfl, rfl, rfl⟩
      exact (hstore.trans (steady_reload site _)).trans (steady_record _ _)
  | unpaired =>
      have herase : s.Steady s.eraseTrust := ⟨rfl, rfl, rfl⟩
      exact (herase.trans (steady_reload site _)).trans (steady_record _ _)
  | incomingRequest | failed _ => exact steady_record _ _

@[simp] theorem onPairing_session (site : Site) (s : Scene) (event : PairingEvent) :
    (s.onPairing site event).device.session = s.device.session := by
  cases event <;> rfl

/-- An action tells of an event, or carrying it out is quiet but for the session. -/
theorem perform_cases (site : Site) (s : Scene) (a : Pairing.Action) :
    (∃ event, a = .emit event) ∨
      (∀ event, a ≠ .emit event) ∧
        { s with device.session := s.device.session.perform a }.Quiet (s.perform site a) := by
  cases a with
  | emit event => exact .inl ⟨event, rfl⟩
  | enter state => exact .inr ⟨nofun, quiet_env _ (.refl _)⟩
  | startTimer => exact .inr ⟨nofun, quiet_env _ (Env.alike_setAlarm _ _ _)⟩
  | cancelTimer => exact .inr ⟨nofun, quiet_env _ (.refl _)⟩
  | send pair =>
      exact .inr ⟨nofun, (quiet_env _ (Env.alike_newId _)).trans (quiet_send _ _ _ _)⟩

@[simp] theorem perform_session (site : Site) (s : Scene) (a : Pairing.Action) :
    (s.perform site a).device.session = s.device.session.perform a := by
  rcases s.perform_cases site a with ⟨event, rfl⟩ | ⟨-, hquiet⟩
  · exact onPairing_session site s event
  · exact hquiet.session

theorem steady_perform (site : Site) (s : Scene) (a : Pairing.Action) :
    s.Steady (s.perform site a) := by
  rcases s.perform_cases site a with ⟨event, rfl⟩ | ⟨-, hquiet⟩
  · exact steady_onPairing site s event
  · exact ⟨hquiet.id, hquiet.details, hquiet.env.conducts⟩

theorem steady_performAll (site : Site) (acts : List Pairing.Action) (s : Scene) :
    s.Steady (acts.foldl (perform site) s) := by
  induction acts generalizing s with
  | nil => exact .refl s
  | cons a rest ih => exact (s.steady_perform site a).trans (ih _)

theorem steady_pair (site : Site) (s : Scene) (i : Pairing.Input) :
    s.Steady (s.pair site i) :=
  s.steady_performAll site _

/-- The session of a device takes a turn as it would take it alone. -/
theorem pair_session (site : Site) (s : Scene) (i : Pairing.Input) :
    (s.pair site i).device.session = s.device.session.turn ⟨s.around, i⟩ := by
  have hfold : ∀ (acts : List Pairing.Action) (s : Scene),
      (acts.foldl (perform site) s).device.session =
        acts.foldl Pairing.Session.perform s.device.session := by
    intro acts
    induction acts with
    | nil => exact fun _ => rfl
    | cons a rest ih =>
        intro s
        rw [List.foldl_cons, ih, perform_session, List.foldl_cons]
  exact hfold _ s

end Tether.Scene
