import Tether.Proofs.Device.Trust
import Tether.Proofs.Env.Handed

/-!
# What operations do to plugins

Which plugins are at work is not computed when it is asked for but kept, and six things
that it depends on can change. So there are moments in which what is kept is out of date:
the device is paired and its plugins do not know yet, a link is attached and nobody was
loaded for it. What saves the matter is that a reload follows every such change within the
same operation.

This is said here once, as a principle of induction (`Upkept`). A statement about devices,
and about whether the device was paired at the last reload, holds after every operation if
it survives what does not concern plugins, the names that an identity leaves in settings,
and a reload whatever became of settings and of pairing. That the session announces each way
into and out of the paired state is what makes the two readings of being paired agree again
in the end.

What only some operations do, such as attaching a link, is left to whoever applies the
principle (`Op.Spares`).
-/

namespace Tether

namespace Scene

/-- Nothing changed on which it depends which plugins are at work, except for pairing. -/
structure Idle (s t : Scene) : Prop where
  id : t.device.id = s.device.id
  links : t.device.links = s.device.links
  supported : t.device.supported = s.device.supported
  roster : t.device.roster = s.device.roster
  store : t.env.store = s.env.store
  conducts : t.env.conducts = s.env.conducts
  handed : t.env.handed = s.env.handed

variable {site : Site} {s t u : Scene} {P : Bool → Scene → Prop}

theorem Idle.refl (s : Scene) : s.Idle s :=
  ⟨rfl, rfl, rfl, rfl, rfl, rfl, rfl⟩

theorem Idle.trans (h : s.Idle t) (h' : t.Idle u) : s.Idle u :=
  ⟨h'.id.trans h.id, h'.links.trans h.links, h'.supported.trans h.supported,
    h'.roster.trans h.roster, h'.store.trans h.store, h'.conducts.trans h.conducts,
    h'.handed.trans h.handed⟩

theorem idle_env (s : Scene) {env : Env} (h : s.env.Alike env)
    (hh : env.handed = s.env.handed) : s.Idle { s with env } := by
  refine ⟨rfl, rfl, rfl, rfl, ?_, h.conducts, hh⟩
  rw [Env.store, h.ledger, Env.store]

theorem idle_reports (s : Scene) {events : List Event}
    (h : ∀ event ∈ events, event.isReport = true) : s.Idle (s.record events) :=
  ⟨rfl, rfl, rfl, rfl, rfl, rfl, s.env.handed_record_reports h⟩

theorem idle_notices (s : Scene) {events : List Event}
    (h : ∀ event ∈ events, event.isNotice = true) : s.Idle (s.record events) :=
  ⟨rfl, rfl, rfl, rfl, rfl, rfl, s.env.handed_record_notices h⟩

theorem idle_send (s : Scene) (p : Packet) (replace : Option Nat) (c : Callback) :
    s.Idle (s.send p replace c) := by
  rw [send]
  split
  · exact s.idle_env (s.env.alike_submit _ p replace c) (s.env.handed_submit _ p replace c)
  · exact s.idle_reports fun _ => Callback.isReport_of_mem_tell

theorem idle_takeBack (s : Scene) (replace : Nat) : s.Idle (s.takeBack replace).2 := by
  rw [takeBack]
  split
  · exact s.idle_env (s.env.alike_takeFrom _ replace) rfl
  · exact .refl s

theorem idle_sendBlocking (site : Site) (s : Scene) (name : String) (p : Packet)
    (c : Callback) (sameThread : Bool) : s.Idle (s.sendBlocking site name p c sameThread) := by
  simp only [sendBlocking]
  have hbegin : ∀ calls job, s.env.Alike ({ s.env with calls }.spawn job) :=
    fun _ _ => ⟨rfl, rfl, rfl⟩
  split
  · exact s.idle_env ((hbegin _ _).trans (Env.alike_setAlarm _ _ _)) (Env.handed_setAlarm _ _ _)
  · exact s.idle_env (hbegin _ _) rfl

theorem idle_openOutbox (s : Scene) : s.Idle s.openOutbox := by
  rw [openOutbox]
  split <;> exact ⟨rfl, rfl, rfl, rfl, rfl, rfl, rfl⟩

theorem idle_closeOutbox (s : Scene) : s.Idle s.closeOutbox := by
  rw [closeOutbox]
  split
  · exact ⟨rfl, rfl, rfl, rfl, rfl, rfl, s.env.handed_closeOutbox _⟩
  · exact .refl s

theorem idle_disconnect (s : Scene) : s.Idle s.disconnect := by
  suffices hfold : ∀ (links : LinkSet) (env : Env),
      env.Alike (links.foldl Env.closeLink env) ∧
        (links.foldl Env.closeLink env).handed = env.handed by
    obtain ⟨halike, hhanded⟩ := hfold s.device.links s.env
    exact s.idle_env halike hhanded
  intro links
  induction links with
  | nil => exact fun env => ⟨.refl env, rfl⟩
  | cons id rest ih =>
      intro env
      obtain ⟨halike, hhanded⟩ := ih (env.closeLink id)
      exact ⟨(env.alike_closeLink id).trans halike, hhanded.trans (env.handed_closeLink id)⟩

theorem idle_tellObservers (s : Scene) (event : PairingEvent) :
    s.Idle (s.tellObservers event) := by
  refine s.idle_notices fun notice hnotice => ?_
  obtain ⟨o, -, rfl⟩ := List.mem_map.mp hnotice
  rfl

theorem idle_tellListeners (s : Scene) : s.Idle s.tellListeners := by
  refine s.idle_notices fun notice hnotice => ?_
  obtain ⟨l, -, rfl⟩ := List.mem_map.mp hnotice
  rfl

/-- Of the actions of a session only telling of an event may concern plugins. -/
theorem idle_perform (site : Site) (s : Scene) {a : Pairing.Action}
    (h : a ≠ .emit .successful) (h' : a ≠ .emit .unpaired) : s.Idle (s.perform site a) := by
  cases a with
  | enter state => exact ⟨rfl, rfl, rfl, rfl, rfl, rfl, rfl⟩
  | startTimer =>
      have halarm := s.env.alike_setAlarm site.pairingWait
      exact ⟨rfl, rfl, rfl, rfl, congrArg Ledger.store (halarm _).ledger, (halarm _).conducts,
        Env.handed_setAlarm _ _ _⟩
  | cancelTimer => exact ⟨rfl, rfl, rfl, rfl, rfl, rfl, rfl⟩
  | send pair =>
      have hid : s.Idle { s with env := s.env.newId.2 } := ⟨rfl, rfl, rfl, rfl, rfl, rfl, rfl⟩
      exact hid.trans (idle_send _ _ _ _)
  | emit event =>
      cases event with
      | successful => exact absurd rfl h
      | unpaired => exact absurd rfl h'
      | incomingRequest | failed _ => exact s.idle_tellObservers _

/-! ## A principle of induction -/

/-- Anything may have changed that a reload takes into account, but for the plugins at work
and for how plugins answer. -/
structure Moved (s t : Scene) : Prop where
  id : t.device.id = s.device.id
  roster : t.device.roster = s.device.roster
  conducts : t.env.conducts = s.env.conducts
  handed : t.env.handed = s.env.handed

/-- A statement about a device, and whether it was paired at the last reload, that
operations keep up. -/
structure Upkept (site : Site) (P : Bool → Scene → Prop) : Prop where
  idle : ∀ {paired s t}, s.Idle t → P paired s → P paired t
  named : ∀ {paired s key} (value : String), key = Store.nameKey ∨ key = Store.kindKey →
    P paired s → P paired (s.tryWrite (.putString s.device.id key value))
  reload : ∀ {paired s t}, s.Moved t → t.device.links = s.device.links →
    t.device.supported = s.device.supported → P paired s → P t.device.isPaired (t.reload site)

theorem moved_writes (changes : List Store.Change) (s : Scene) :
    s.Moved (changes.foldl tryWrite s) := by
  induction changes generalizing s with
  | nil => exact ⟨rfl, rfl, rfl, rfl⟩
  | cons c rest ih =>
      have hrest := ih (s.tryWrite c)
      exact ⟨hrest.id, hrest.roster, hrest.conducts, hrest.handed⟩

namespace Upkept

variable {paired : Bool}

/-- When a session has carried out what it announced, plugins know what it came to. -/
theorem performAll (h : Upkept site P) (acts : List Pairing.Action)
    (ha : s.device.session.Announced paired acts) (hs : P paired s) :
    P (acts.foldl (perform site) s).device.isPaired (acts.foldl (perform site) s) := by
  induction acts generalizing s paired with
  | nil =>
      have heq : paired = s.device.isPaired := by
        rw [Bool.eq_iff_iff, Device.isPaired, decide_eq_true_eq]
        exact ha
      show P s.device.isPaired s
      rw [← heq]
      exact hs
  | cons a rest ih =>
      obtain ⟨hagree, hrest⟩ := ha
      rw [← perform_session site] at hrest
      refine ih hrest ?_
      -- An event is told of when the state and what is told agree.
      have hreload : ∀ changes : List Store.Change, ∀ event,
          (Pairing.Session.trustAfter paired a = true ↔ s.device.session.state = .paired) →
          P (Pairing.Session.trustAfter paired a)
            (((changes.foldl tryWrite s).reload site).tellObservers event) := by
        intro changes event hstate
        have hpaired : Pairing.Session.trustAfter paired a =
            (changes.foldl tryWrite s).device.isPaired := by
          rw [writes_device, Bool.eq_iff_iff, Device.isPaired, decide_eq_true_eq]
          exact hstate
        rw [hpaired]
        refine h.idle (idle_tellObservers _ event) (h.reload (moved_writes changes s) ?_ ?_ hs)
        · rw [writes_device]
        · rw [writes_device]
      by_cases hsuccess : a = .emit .successful
      · subst hsuccess
        exact hreload (trusting s.device) _ (hagree _ rfl)
      · by_cases hend : a = .emit .unpaired
        · subst hend
          exact hreload (forgetting s.device) _ (hagree _ rfl)
        · have hsame : Pairing.Session.trustAfter paired a = paired := by
            cases a with
            | emit event => cases event <;> simp_all [Pairing.Session.trustAfter]
            | enter _ | startTimer | cancelTimer | send _ => rfl
          rw [hsame]
          exact h.idle (idle_perform site s hsuccess hend) hs

theorem pair (h : Upkept site P) (i : Pairing.Input) (hs : P s.device.isPaired s) :
    P (s.pair site i).device.isPaired (s.pair site i) := by
  refine h.performAll _ (Pairing.Session.announced_actions ?_ s.around i) hs
  rw [Device.isPaired, decide_eq_true_eq]

theorem learn (h : Upkept site P) (i : PeerIdentity) (hs : P s.device.isPaired s) :
    P (s.learn i).device.isPaired (s.learn i) := by
  have hnames : ∀ (changes : List Store.Change) (s : Scene), P s.device.isPaired s →
      (∀ c ∈ changes, ∃ key value, c = .putString s.device.id key value ∧
        (key = Store.nameKey ∨ key = Store.kindKey)) →
      P s.device.isPaired (changes.foldl tryWrite s) := by
    intro changes
    induction changes with
    | nil => exact fun _ hs _ => hs
    | cons c rest ih =>
        intro s hs hall
        obtain ⟨key, value, rfl, hkey⟩ := hall c List.mem_cons_self
        exact ih (s.tryWrite _) (h.named value hkey hs)
          fun c hc => hall c (List.mem_cons_of_mem _ hc)
  obtain ⟨changes, hfollow, hall⟩ := s.follow_eq i
  have hlast := hnames changes s hs hall
  rw [← hfollow] at hlast
  have hidle : (s.follow i).Idle (s.learn i) := ⟨rfl, rfl, rfl, rfl, rfl, rfl, rfl⟩
  have hpaired : (s.learn i).device.isPaired = s.device.isPaired := by rw [learn_device]; rfl
  rw [hpaired]
  exact h.idle hidle hlast

/-- A reload leaves it as it is whether the device is paired. -/
theorem reloaded (h : Upkept site P) (ht : s.Moved t)
    (hlinks : t.device.links = s.device.links)
    (hsupported : t.device.supported = s.device.supported) (hs : P paired s) :
    P (t.reload site).device.isPaired (t.reload site) :=
  h.reload ht hlinks hsupported hs

theorem setPlugin (h : Upkept site P) (key : String) (enabled : Bool)
    (hs : P s.device.isPaired s) :
    P (s.setPlugin site key enabled).2.device.isPaired (s.setPlugin site key enabled).2 := by
  rw [Scene.setPlugin, Ledger.write]
  cases s.env.ledger.refusal s.env.ledger.writes with
  | some fault => exact h.idle (s := s) ⟨rfl, rfl, rfl, rfl, rfl, rfl, rfl⟩ hs
  | none => exact h.reloaded (s := s) ⟨rfl, rfl, rfl, rfl⟩ rfl rfl hs

theorem reloadOnce (h : Upkept site P) (hs : P s.device.isPaired s) :
    P (s.reloadOnce site).device.isPaired (s.reloadOnce site) := by
  rw [Scene.reloadOnce]
  split
  · exact h.reloaded (s := s) ⟨rfl, rfl, rfl, rfl⟩ rfl rfl hs
  · exact hs

theorem calm (h : Upkept site P) (hidle : s.Idle t) (hsession : t.device.session = s.device.session)
    (hs : P s.device.isPaired s) : P t.device.isPaired t := by
  have hpaired : t.device.isPaired = s.device.isPaired := by
    rw [Device.isPaired, hsession, Device.isPaired]
  rw [hpaired]
  exact h.idle hidle hs

theorem note (h : Upkept site P) (i : Plugin.Instance) {n : Plugin.Note}
    (hn : n.packet? = none) (hs : P s.device.isPaired s) :
    P s.device.isPaired { s with env := s.env.note i n } := by
  refine h.idle (s.idle_env (s.env.alike_note i n) ?_) hs
  rw [Env.note, Env.handed_record]
  simp [Event.handed?, hn]

theorem send (h : Upkept site P) (p : Packet) (replace : Option Nat) (c : Callback)
    (hs : P s.device.isPaired s) :
    P (s.send p replace c).device.isPaired (s.send p replace c) :=
  h.calm (s.idle_send p replace c) (s.quiet_send p replace c).session hs

theorem obey (h : Upkept site P) (i : Plugin.Instance) (p : Packet) (r : Plugin.Request)
    (hs : P s.device.isPaired s) :
    P (Scene.obey site i p s r).device.isPaired (Scene.obey site i p s r) := by
  cases r with
  | reply type => exact h.note i rfl (h.send _ _ _ hs)
  | replyInPlace type replace => exact h.send _ _ _ hs
  | unpair => exact h.pair _ hs
  | setPlugin key enabled => exact h.note i rfl (h.setPlugin key enabled hs)

end Upkept

/-- Handing a packet to a plugin keeps a statement up. -/
def HandsOut (P : Bool → Scene → Prop) : Prop :=
  ∀ paired s (i : Plugin.Instance) (trusted : Bool) (p : Packet), P paired s →
    P paired { s with env := (s.env.call fun shop => shop.handle i trusted p).2 }

end Scene

/-- What an operation does besides keeping plugins in step, a statement survives. -/
def Op.Spares (site : Site) (P : Bool → Scene → Prop) : Op → Prop
  | .attach .. => ∀ paired s t, s.Moved t →
      t.device.supported = Scene.fitting site t.device.details → P paired s →
      P t.device.isPaired (t.reload site)
  | .detach _ => ∀ paired s t, s.Moved t → t.device.supported = s.device.supported →
      P paired s → P t.device.isPaired (t.reload site)
  | .shutdownPlugins => ∀ paired s, P paired s → P paired s.shutdownPlugins
  | .elsewhere env => ∀ paired s, P paired s → P paired (s.elsewhere env)
  | _ => True

namespace Scene.Upkept

variable {site : Site} {s t : Scene} {P : Bool → Scene → Prop}

theorem attach (h : Upkept site P) {i : PeerIdentity} {link : String}
    (hop : (Op.attach i link).Spares site P) (hs : P s.device.isPaired s) :
    P (s.attach site i link).2.device.isPaired (s.attach site i link).2 := by
  have hreload : ∀ t, (s.learn i).Moved t →
      t.device.supported = fitting site t.device.details →
      P (t.reload site).device.isPaired (t.reload site) :=
    fun t hmoved hfitting => hop _ _ t hmoved hfitting (h.learn i hs)
  rw [Scene.attach]
  split
  · exact hs
  · have hlearn := h.learn i hs
    generalize s.learn i = s at hlearn hreload
    cases hadd : s.device.links.add? link with
    | none =>
        simp only [hadd]
        exact hlearn
    | some links =>
        simp only [hadd]
        have hopen := idle_openOutbox { s with device.links := links }
        refine hreload _ ?_ ?_
        · split <;> exact ⟨hopen.id, hopen.roster, hopen.conducts, hopen.handed⟩
        · split <;> rfl

theorem detach {link : String} (hop : (Op.detach link).Spares site P)
    (hs : P s.device.isPaired s) :
    P (s.detach site link).2.device.isPaired (s.detach site link).2 := by
  have hreload : ∀ t, s.Moved t → t.device.supported = s.device.supported →
      P (t.reload site).device.isPaired (t.reload site) :=
    fun t hmoved hsupported => hop _ _ t hmoved hsupported hs
  rw [Scene.detach]
  split
  · exact hs
  · next links _ =>
      have hclose := idle_closeOutbox { s with
        device.links := links
        env.links := s.env.links.removeReceiver link s.device.ref }
      dsimp only
      split
      · exact hreload _ ⟨hclose.id, hclose.roster, hclose.conducts, hclose.handed⟩
          hclose.supported
      · exact hreload _ ⟨rfl, rfl, rfl, rfl⟩ rfl

theorem give (h : Upkept site P) (hout : HandsOut P) (p : Packet) (trusted : Bool)
    (i : Plugin.Instance) (hs : P s.device.isPaired s) :
    P (Scene.give site p trusted s i).device.isPaired (Scene.give site p trusted s i) := by
  have hobey : ∀ (requests : List Plugin.Request) (s : Scene), P s.device.isPaired s →
      P (requests.foldl (Scene.obey site i p) s).device.isPaired
        (requests.foldl (Scene.obey site i p) s) := by
    intro requests
    induction requests with
    | nil => exact fun _ hs => hs
    | cons r rest ih => exact fun s hs => ih _ (h.obey i p r hs)
  exact hobey _ _ (hout _ s i trusted p hs)

theorem dispatch (h : Upkept site P) (hout : HandsOut P) (p : Packet) (trusted : Bool)
    (hs : P s.device.isPaired s) :
    P (s.dispatch site p trusted).device.isPaired (s.dispatch site p trusted) := by
  rw [Scene.dispatch]
  generalize s.device.roster.recipients p.type trusted = recipients
  induction recipients generalizing s with
  | nil => exact hs
  | cons i rest ih => exact ih (h.give hout p trusted i hs)

theorem receive (h : Upkept site P) (hout : HandsOut P) (p : Packet)
    (hs : P s.device.isPaired s) :
    P (s.receive site p).device.isPaired (s.receive site p) := by
  rw [Scene.receive]
  split
  · exact h.pair _ hs
  · split
    · exact h.dispatch hout p true (h.reloadOnce hs)
    · exact h.dispatch hout p false (h.pair _ hs)

theorem apply (h : Upkept site P) (hout : HandsOut P) {op : Op} (hop : op.Spares site P)
    (hs : P s.device.isPaired s) :
    P (s.apply site op).device.isPaired (s.apply site op) := by
  cases op with
  | attach i link => exact h.attach hop hs
  | detach link => exact detach hop hs
  | disconnect => exact h.calm s.idle_disconnect rfl hs
  | receive p => exact h.receive hout p hs
  | pairing i => exact h.pair i hs
  | setPlugin key enabled => exact h.setPlugin key enabled hs
  | reload => exact h.reloaded (s := s) ⟨rfl, rfl, rfl, rfl⟩ rfl rfl hs
  | shutdownPlugins => exact hop _ s hs
  | send p replace c => exact h.send p replace c hs
  | takeBack replace =>
      exact h.calm (s.idle_takeBack replace) (s.quiet_takeBack replace).session hs
  | sendBlocking name p c sameThread =>
      exact h.calm (idle_sendBlocking site s name p c sameThread)
        (quiet_sendBlocking site s name p c sameThread).session hs
  | addObserver _ | removeObserver _ | addListener _ | removeListener _ =>
      exact h.calm (s := s) ⟨rfl, rfl, rfl, rfl, rfl, rfl, rfl⟩ rfl hs
  | elsewhere env => exact hop _ s hs

theorem run (h : Upkept site P) (hout : HandsOut P) {ops : List Op}
    (hops : ∀ op ∈ ops, op.Spares site P) (hs : P s.device.isPaired s) :
    P (s.run site ops).device.isPaired (s.run site ops) := by
  induction ops generalizing s with
  | nil => exact hs
  | cons op rest ih =>
      exact ih (fun op hop => hops op (List.mem_cons_of_mem _ hop))
        (h.apply hout (hops op List.mem_cons_self) hs)

end Scene.Upkept

end Tether
