import Tether.Proofs.Device.Operation

/-!
# Trust follows pairing

The session decides who is paired, and settings say who is trusted. Neither reads the
other once a device has come into being: what keeps them together is that the session
announces every way into and out of the paired state, and that settings are written
when it does.

While a session carries out its actions the two do disagree, from the action that
enters a state to the one that announces it. Nobody gets to see that. A session
disagrees with trust only where it tells nothing (`announced_actions`), and the device
writes settings before it tells anyone. So the statement about runs has two halves: the
two agree after each operation, and whoever is told of pairing or of plugins sees them
agree.
-/

namespace Tether

namespace Pairing.Session

/-- Whether a device is trusted once an action is carried out. -/
def trustAfter (trusted : Bool) : Action → Bool
  | .emit .successful => true
  | .emit .unpaired => false
  | _ => trusted

/-- The state and trust agree whenever actions tell of an event, and when all of them
are carried out. -/
def Announced (s : Session) (trusted : Bool) : List Action → Prop
  | [] => trusted = true ↔ s.state = .paired
  | a :: rest =>
      (∀ event, a = .emit event → (trustAfter trusted a = true ↔ s.state = .paired)) ∧
        (s.perform a).Announced (trustAfter trusted a) rest

theorem announced_actions {s : Session} {trusted : Bool}
    (h : trusted = true ↔ s.state = .paired) (around : Surroundings) (i : Input) :
    s.Announced trusted (s.actions around i) := by
  obtain ⟨state, generation⟩ := s
  cases i with
  | received p =>
      cases hp : ofPacket p with
      | error f => simpa [actions, hp, Announced] using h
      | ok pair =>
          cases pair <;> cases state <;>
            simp_all [actions, onBit, incoming, Announced, perform, trustAfter]
  | request =>
      cases state with
      | unpaired =>
          simp only [actions, onRequest]
          split
          · split <;> simp_all [Announced, perform, trustAfter]
          · exact h
      | requested | requestedByPeer | paired =>
          simp_all [actions, onRequest, agree, Announced, perform, trustAfter]
  | accept =>
      cases state <;> simp_all [actions, agree, Announced, perform, trustAfter]
  | cancel =>
      cases state <;> simp_all [actions, Announced, perform, trustAfter]
  | unpair =>
      simp only [actions]
      split <;> simp [Announced, perform, trustAfter]
  | sendFailed reason =>
      cases state <;> simp_all [actions, onSendFailed, Announced, perform, trustAfter]
  | expired g =>
      simp only [actions]
      split
      · cases state <;> simp_all [onTimeout, Announced, perform, trustAfter]
      · exact h

end Pairing.Session

/-! ## What is seen -/

/-- A device is seen to be trusted exactly if it is seen to be paired. -/
def Glimpse.Honest (id : String) (g : Glimpse) : Prop :=
  g.store.isTrusted id = true ↔ g.state = .paired

/-- Settings are seen to hold what is known of the device. -/
structure Glimpse.Kept (id : String) (g : Glimpse) : Prop where
  certificate : g.store.find? id Store.certificateKey =
    some (.str (Text.Base64.encode g.details.certificate))
  name : g.store.find? id Store.nameKey = some (.str g.details.name)
  kind : g.store.find? id Store.kindKey = some (.str g.details.kind.word)

/-- Whoever is told looks at an honest device, and when told of success at one that
settings hold. -/
def Event.Honest (id : String) : Event → Prop
  | .pairing _ event seen => seen.Honest id ∧ (event = .successful → seen.Kept id)
  | .pluginsChanged _ _ seen => seen.Honest id
  | _ => True

namespace Scene

/-- Writes do not fail, and trust and pairing agree. -/
structure Sound (s : Scene) : Prop where
  reliable : s.env.ledger.Reliable
  honest : s.glimpse.Honest s.device.id

/-- From one scene to a later one, all notices were honest. -/
structure Fair (s t : Scene) : Prop where
  id : t.device.id = s.device.id
  reliable : t.env.ledger.Reliable
  notices : ∃ new, t.env.notices = s.env.notices ++ new ∧
    ∀ event ∈ new, event.Honest s.device.id

variable {site : Site} {s t u : Scene}

theorem Fair.of_eq (hid : t.device.id = s.device.id) (hl : t.env.ledger.Reliable)
    (hn : t.env.notices = s.env.notices) : s.Fair t :=
  ⟨hid, hl, [], by rw [hn, List.append_nil], fun _ h => by cases h⟩

theorem Fair.trans (h : s.Fair t) (h' : t.Fair u) : s.Fair u := by
  obtain ⟨new, hnew, hhonest⟩ := h.notices
  obtain ⟨more, hmore, hhonest'⟩ := h'.notices
  refine ⟨h'.id.trans h.id, h'.reliable, new ++ more, ?_, ?_⟩
  · rw [hmore, hnew, List.append_assoc]
  · intro event hevent
    rcases List.mem_append.mp hevent with hmem | hmem
    · exact hhonest event hmem
    · rw [← h.id]
      exact hhonest' event hmem

theorem Quiet.fair (h : s.Quiet t) (hl : s.env.ledger.Reliable) : s.Fair t :=
  .of_eq h.id (by rw [h.env.ledger]; exact hl) h.env.notices

theorem Quiet.sound (h : s.Quiet t) (hs : s.Sound) : t.Sound := by
  refine ⟨(h.fair hs.reliable).reliable, ?_⟩
  rw [h.glimpse, h.id]
  exact hs.honest

/-! ## Writing

What a device writes is a list of changes, one after the other.
-/

/-- What settings are told of a device that becomes trusted. -/
def trusting (d : Device) : List Store.Change :=
  [.putString d.id Store.certificateKey (Text.Base64.encode d.details.certificate),
    .putString d.id Store.nameKey d.details.name,
    .putString d.id Store.kindKey d.details.kind.word,
    .setTrusted d.id true]

/-- What settings are told of a device that is no longer trusted. -/
def forgetting (d : Device) : List Store.Change :=
  [.setTrusted d.id false, .clearScope d.id]

theorem storeTrust_eq (s : Scene) :
    s.storeTrust = (trusting s.device).foldl tryWrite s := rfl

theorem eraseTrust_eq (s : Scene) :
    s.eraseTrust = (forgetting s.device).foldl tryWrite s := rfl

/-- Writes change settings, and nobody notices. -/
theorem fair_writes (changes : List Store.Change) (h : s.env.ledger.Reliable) :
    s.Fair (changes.foldl tryWrite s) := by
  induction changes generalizing s with
  | nil => exact .of_eq rfl h rfl
  | cons c rest ih =>
      have hwrite : s.Fair (s.tryWrite c) := .of_eq rfl (h.write c) rfl
      exact hwrite.trans (ih hwrite.reliable)

theorem writes_store (changes : List Store.Change) (h : s.env.ledger.Reliable) :
    (changes.foldl tryWrite s).env.store = changes.foldl Store.apply s.env.store := by
  induction changes generalizing s with
  | nil => rfl
  | cons c rest ih =>
      have hwrite : (s.tryWrite c).env.store = s.env.store.apply c := by
        show (s.env.ledger.write c).2.store = _
        rw [h.write_eq]
        rfl
      rw [List.foldl_cons, ih (h.write c), hwrite, List.foldl_cons]

theorem storeTrust_trusted (h : s.env.ledger.Reliable) :
    s.storeTrust.env.store.isTrusted s.device.id = true := by
  rw [storeTrust_eq, writes_store _ h]
  simp [trusting]

theorem eraseTrust_trusted (h : s.env.ledger.Reliable) :
    s.eraseTrust.env.store.isTrusted s.device.id = false := by
  rw [eraseTrust_eq, writes_store _ h]
  simp [forgetting]

/-- A device that becomes trusted is held by settings. -/
theorem storeTrust_kept (h : s.env.ledger.Reliable) :
    s.storeTrust.glimpse.Kept s.device.id := by
  have hstore : s.storeTrust.glimpse.store = _ := writes_store (trusting s.device) h
  have hdetails : s.storeTrust.glimpse.details = s.device.details := rfl
  have hname : Store.nameKey ≠ Store.certificateKey := by decide
  have hkind : Store.kindKey ≠ Store.certificateKey := by decide
  have hboth : Store.kindKey ≠ Store.nameKey := by decide
  constructor <;> rw [hstore, hdetails] <;>
    simp [trusting, Store.Change.putString, Store.find?_put_other, hname, hkind, hboth]

/-! ## Actions -/

theorem fair_tellObservers (h : s.env.ledger.Reliable) {event : PairingEvent}
    (hs : s.glimpse.Honest s.device.id)
    (hk : event = .successful → s.glimpse.Kept s.device.id) :
    s.Fair (s.tellObservers event) := by
  refine ⟨rfl, h, (notifyPairing s.device.observers event s.glimpse).filter _,
    Env.notices_record _ _, ?_⟩
  intro notice hnotice
  obtain ⟨o, -, rfl⟩ := List.mem_map.mp (List.mem_filter.mp hnotice).1
  exact ⟨hs, hk⟩

theorem fair_reload (h : s.Sound) : s.Fair (s.reload site) := by
  refine ⟨rfl, h.reliable, _, s.reload_notices site, ?_⟩
  intro notice hnotice
  obtain ⟨l, -, rfl⟩ := List.mem_map.mp hnotice
  exact h.honest

theorem Sound.reload (h : s.Sound) : (s.reload site).Sound :=
  ⟨h.reliable, h.honest⟩

/-- Listeners are told first and observers last, and both see the same. -/
theorem fair_announce (site : Site) (h : s.Sound) {event : PairingEvent}
    (hk : event = .successful → s.glimpse.Kept s.device.id) :
    s.Fair ((s.reload site).tellObservers event) := by
  have hreload : s.Fair (s.reload site) := fair_reload h
  have htell : (s.reload site).Fair ((s.reload site).tellObservers event) :=
    fair_tellObservers hreload.reliable h.reload.honest hk
  exact hreload.trans htell

theorem perform_successful (site : Site) (s : Scene) :
    s.perform site (.emit .successful) =
      (s.storeTrust.reload site).tellObservers .successful := rfl

theorem perform_unpaired (site : Site) (s : Scene) :
    s.perform site (.emit .unpaired) =
      (s.eraseTrust.reload site).tellObservers .unpaired := rfl

/-- After an action trust is what the action makes of it. -/
theorem perform_trusted (site : Site) (h : s.env.ledger.Reliable) (a : Pairing.Action) :
    (s.perform site a).env.store.isTrusted s.device.id =
      Pairing.Session.trustAfter (s.env.store.isTrusted s.device.id) a := by
  rcases s.perform_cases site a with ⟨event, rfl⟩ | ⟨hsilent, hquiet⟩
  · cases event with
    | successful =>
        have htrusted := storeTrust_trusted h
        rw [perform_successful]
        exact htrusted
    | unpaired =>
        have htrusted := eraseTrust_trusted h
        rw [perform_unpaired]
        exact htrusted
    | incomingRequest | failed _ => rfl
  · rw [hquiet.store]
    cases a with
    | emit event => exact absurd rfl (hsilent event)
    | enter _ | startTimer | cancelTimer | send _ => rfl

/-- An action is fair if it tells nothing, or if state and trust agree after it. -/
theorem fair_perform (site : Site) (h : s.env.ledger.Reliable) {a : Pairing.Action}
    (ha : ∀ event, a = .emit event →
      (Pairing.Session.trustAfter (s.env.store.isTrusted s.device.id) a = true ↔
        s.device.session.state = .paired)) :
    s.Fair (s.perform site a) := by
  rcases s.perform_cases site a with ⟨event, rfl⟩ | ⟨-, hquiet⟩
  · have hagree := ha event rfl
    cases event with
    | successful =>
        have hstore : s.Fair s.storeTrust := fair_writes (trusting s.device) h
        have hkept := storeTrust_kept h
        have hsound : s.storeTrust.Sound := by
          refine ⟨hstore.reliable, ?_⟩
          show s.storeTrust.env.store.isTrusted s.device.id = true ↔ _
          rw [storeTrust_trusted h]
          exact hagree
        rw [perform_successful]
        exact hstore.trans (fair_announce site hsound fun _ => hkept)
    | unpaired =>
        have herase : s.Fair s.eraseTrust := fair_writes (forgetting s.device) h
        have hsound : s.eraseTrust.Sound := by
          refine ⟨herase.reliable, ?_⟩
          show s.eraseTrust.env.store.isTrusted s.device.id = true ↔ _
          rw [eraseTrust_trusted h]
          exact hagree
        rw [perform_unpaired]
        exact herase.trans (fair_announce site hsound nofun)
    | incomingRequest | failed _ =>
        exact fair_tellObservers h hagree nofun
  · have hstart : s.Fair { s with device.session := s.device.session.perform a } :=
      .of_eq rfl h rfl
    exact hstart.trans (hquiet.fair h)

/-- Actions that were announced are fair, and state and trust agree after them. -/
theorem sound_performAll (acts : List Pairing.Action) (h : s.env.ledger.Reliable)
    (ha : s.device.session.Announced (s.env.store.isTrusted s.device.id) acts) :
    s.Fair (acts.foldl (perform site) s) ∧ (acts.foldl (perform site) s).Sound := by
  induction acts generalizing s with
  | nil => exact ⟨.of_eq rfl h rfl, h, ha⟩
  | cons a rest ih =>
      have hfair := fair_perform site h ha.1
      have hrest : (s.perform site a).device.session.Announced
          ((s.perform site a).env.store.isTrusted (s.perform site a).device.id) rest := by
        rw [hfair.id, perform_trusted site h, perform_session]
        exact ha.2
      obtain ⟨hlater, hsound⟩ := ih hfair.reliable hrest
      exact ⟨hfair.trans hlater, hsound⟩

/-! ## Operations -/

theorem Sound.pair (h : s.Sound) (i : Pairing.Input) :
    s.Fair (s.pair site i) ∧ (s.pair site i).Sound :=
  sound_performAll _ h.reliable (Pairing.Session.announced_actions h.honest _ _)

/-- Values may be put into settings at any time. -/
theorem Sound.puts (h : s.Sound) {changes : List Store.Change}
    (hc : ∀ c ∈ changes, ∃ scope key value, c = .put scope key value) :
    s.Fair (changes.foldl tryWrite s) ∧ (changes.foldl tryWrite s).Sound := by
  have hfair := fair_writes changes h.reliable
  refine ⟨hfair, hfair.reliable, ?_⟩
  rw [Glimpse.Honest, hfair.id]
  simp only [glimpse, writes_device, writes_store changes h.reliable]
  rw [Store.isTrusted_puts _ hc]
  exact h.honest

theorem Sound.learn (h : s.Sound) (i : PeerIdentity) :
    s.Fair (s.learn i) ∧ (s.learn i).Sound := by
  obtain ⟨changes, hfollow, hall⟩ := s.follow_eq i
  have hputs : ∀ c ∈ changes, ∃ scope key value, c = .put scope key value := by
    intro c hc
    obtain ⟨key, value, rfl, -⟩ := hall c hc
    exact ⟨_, _, _, rfl⟩
  obtain ⟨hfair, hsound⟩ := h.puts hputs
  rw [← hfollow] at hfair hsound
  have hlearn : (s.follow i).Fair (s.learn i) := .of_eq rfl hfair.reliable rfl
  exact ⟨hfair.trans hlearn, hsound.reliable, hsound.honest⟩

theorem elsewhere_notices (s : Scene) (env : Env) :
    (s.elsewhere env).env.notices = s.env.notices := by
  have hnone : (env.trace.filter fun event => !event.isNotice).filter Event.isNotice =
      [] := by
    simp [List.filter_filter]
  simp only [Env.notices, elsewhere, List.filter_append]
  rw [hnone, List.append_nil]

theorem Sound.elsewhere (h : s.Sound) (env : Env) :
    s.Fair (s.elsewhere env) ∧ (s.elsewhere env).Sound :=
  ⟨.of_eq rfl h.reliable (s.elsewhere_notices env), h.reliable, h.honest⟩

theorem Sound.aside {allowed : String → Prop} (h : s.Sound)
    (ht : Aside site allowed s t) : s.Fair t ∧ t.Sound := by
  cases ht with
  | quiet hquiet => exact ⟨hquiet.fair h.reliable, hquiet.sound h⟩
  | reload => exact ⟨fair_reload h, h.reload⟩
  | @switch key _ enabled =>
      have hputs : ∀ c ∈ [Store.Change.putBool s.device.id key enabled],
          ∃ scope key value, c = .put scope key value :=
        fun c hc => ⟨_, _, _, List.mem_singleton.mp hc⟩
      exact h.puts hputs
  | unpair => exact h.pair _

theorem Sound.asides {allowed : String → Prop} (h : s.Sound)
    (ht : Asides site allowed s t) : s.Fair t ∧ t.Sound := by
  induction ht with
  | refl => exact ⟨.of_eq rfl h.reliable rfl, h⟩
  | tail _ haside ih =>
      obtain ⟨hfair, hsound⟩ := ih
      obtain ⟨hlast, hsound'⟩ := hsound.aside haside
      exact ⟨hfair.trans hlast, hsound'⟩

theorem Sound.lead (site : Site) (h : s.Sound) (op : Op) :
    s.Fair (s.lead site op) ∧ (s.lead site op).Sound := by
  rcases s.lead_cases site op with ⟨i, hlead⟩ | ⟨i, hlead, -⟩ | ⟨env, rfl⟩ | hlead
  · rw [hlead]
    exact h.learn i
  · rw [hlead]
    exact h.pair i
  · exact h.elsewhere env
  · rw [hlead]
    exact ⟨.of_eq rfl h.reliable rfl, h⟩

theorem Sound.apply (h : s.Sound) (op : Op) :
    s.Fair (s.apply site op) ∧ (s.apply site op).Sound := by
  obtain ⟨hlead, hsound⟩ := h.lead site op
  obtain ⟨hfair, hsound'⟩ := hsound.asides (s.asides_of_apply op)
  exact ⟨hlead.trans hfair, hsound'⟩

theorem Sound.run (h : s.Sound) (ops : List Op) :
    s.Fair (s.run site ops) ∧ (s.run site ops).Sound := by
  induction ops generalizing s with
  | nil => exact ⟨.of_eq rfl h.reliable rfl, h⟩
  | cons op rest ih =>
      obtain ⟨hfair, hsound⟩ := h.apply op
      obtain ⟨hlater, hsound'⟩ := ih hsound
      exact ⟨hfair.trans hlater, hsound'⟩

theorem Created.sound (h : Created site s) (hl : s.env.ledger.Reliable) : s.Sound := by
  refine ⟨hl, ?_⟩
  cases h with
  | seen ref i hi => simp [Glimpse.Honest, glimpse, Device.ofIdentity, hi]
  | restored ref id hi => simp [Glimpse.Honest, glimpse, Device.ofTrusted, hi]

/-- However a device comes into being and whatever happens to it: as long as settings
can be written, it is trusted exactly while it is paired. Whoever is told of pairing or
of plugins on the way sees the same, and whoever is told of success sees settings that
hold its certificate, its name and its class. -/
theorem trusted_iff_paired (h : Created site s) (hl : s.env.ledger.Reliable)
    (ops : List Op) :
    ((s.run site ops).env.store.isTrusted s.device.id = true ↔
      (s.run site ops).device.session.state = .paired) ∧
    ∃ new, (s.run site ops).env.notices = s.env.notices ++ new ∧
      ∀ event ∈ new, event.Honest s.device.id := by
  obtain ⟨hfair, hsound⟩ := (h.sound hl).run ops
  have hhonest := hsound.honest
  rw [hfair.id] at hhonest
  exact ⟨hhonest, hfair.notices⟩

/-- A device asks, hears from the other side, and loses its link. -/
theorem trusted_iff_paired_while_away :
    let peer : PeerIdentity :=
      { id := "peer", name := some "Phone", certificate := [1, 2, 3] }
    let s : Scene := { device := .ofIdentity 0 peer, env := {} }
    let ops : List Op :=
      [.addObserver { name := "window" }, .addListener { name := "list" },
        .attach peer "lan", .pairing .request, .receive (Pairing.packet 1 true),
        .detach "lan"]
    (s.run {} ops).device.session.state = .paired ∧
      (s.run {} ops).env.store.isTrusted s.device.id = true ∧
      (s.run {} ops).env.notices.length = 4 ∧
      ∃ new, (s.run {} ops).env.notices = s.env.notices ++ new ∧
        ∀ event ∈ new, event.Honest s.device.id := by
  intro peer s ops
  have hpaired : (s.run {} ops).device.session.state = .paired := by decide
  have h := @trusted_iff_paired {} s (.seen 0 peer rfl) (fun _ => rfl) ops
  exact ⟨hpaired, h.1.mpr hpaired, by decide, h.2⟩

end Scene

end Tether
