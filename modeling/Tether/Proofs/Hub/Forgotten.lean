import Tether.Proofs.Device.Capabilities
import Tether.Proofs.Device.Flags
import Tether.Proofs.Device.Parting
import Tether.Proofs.Hub.Reached

/-!
# What is left of a device that is forgotten

Nothing: the hub does not know the device any more, settings have nothing of it, and what was at
work for it is finished. Nobody else is concerned (`Hub.Forgets`).

That it stays so is another matter, for whoever held the device may hold it still, and its jobs may
still come. But a device that is not paired writes to settings only if it becomes paired or if one
of its plugins is switched, and neither comes about by itself: jobs tell it of what was lost and of
what ran out, and that can end trust but not begin it (`Op.Idle`). So as long as nothing arrives
through devices that have the id, settings have nothing of it (`Hub.Away`), and when it is seen
again it is as if for the first time.
-/

namespace Tether

/-! ## What has no part in becoming paired -/

/-- An input that does not make a session paired which is in a state. -/
def Pairing.Input.Idle (state : PairingState) : Pairing.Input → Prop
  | .received _ => False
  | .request | .accept => state ≠ .requestedByPeer
  | .cancel | .unpair | .sendFailed _ | .expired _ => True

/-- An operation through which nothing arrives for a device whose session is in a state: no link,
no packet, no agreement to a request of the other side, and no setting. -/
def Op.Idle (state : PairingState) : Op → Prop
  | .attach .. | .receive _ | .setPlugin .. | .elsewhere _ => False
  | .pairing i => i.Idle state
  | _ => True

theorem Pairing.Session.unsuccessful_of_idle {s : Session} {i : Input} (h : i.Idle s.state)
    (around : Surroundings) : ∀ a ∈ s.actions around i, a ≠ .emit .successful := by
  obtain ⟨state, generation⟩ := s
  cases i with
  | received p => exact h.elim
  | request =>
      cases state with
      | requestedByPeer => exact absurd rfl h
      | requested => simp [actions, onRequest]
      | paired => simp [actions, onRequest]
      | unpaired =>
          simp only [actions, onRequest]
          split
          · split <;> simp
          · simp
  | accept =>
      cases state with
      | requestedByPeer => exact absurd rfl h
      | unpaired | requested | paired => simp [actions]
  | cancel => cases state <;> simp [actions]
  | unpair =>
      simp only [actions]
      split <;> simp
  | sendFailed reason => cases state <;> simp [actions, onSendFailed]
  | expired g =>
      simp only [actions]
      split
      · cases state <;> simp [onTimeout]
      · simp

/-- Settings have nothing of an id. -/
def Store.Blank (s : Store) (id : String) : Prop :=
  s.isTrusted id = false ∧ ∀ key, s.find? id key = none

theorem Store.blank_erased (s : Store) (id : String) :
    ((s.apply (.setTrusted id false)).apply (.clearScope id)).Blank id := by
  refine ⟨?_, fun key => ?_⟩
  · rw [isTrusted_clearScope, isTrusted_setTrusted_self]
  · rw [find?_clearScope, if_pos rfl]

/-- What concerns one id writes nothing of another. -/
theorem Ledger.Rewritten.blank {l l' : Ledger} {id name : String} (h : l.Rewritten id l')
    (hne : id ≠ name) (hb : l.store.Blank name) : l'.store.Blank name := by
  obtain ⟨hfind, htrusted⟩ := h.other hne
  exact ⟨htrusted.trans hb.1, fun key => (hfind key).trans (hb.2 key)⟩

namespace Scene

variable {site : Site} {s t : Scene}

/-- Settings that have nothing of the device get nothing by an action that is not success. -/
theorem blank_perform (site : Site) (hl : s.env.ledger.Reliable) {a : Pairing.Action}
    (ha : a ≠ .emit .successful) (hb : s.env.store.Blank s.device.id) :
    (s.perform site a).env.store.Blank s.device.id := by
  rcases s.perform_cases site a with ⟨event, rfl⟩ | ⟨-, hquiet⟩
  · cases event with
    | successful => exact absurd rfl ha
    | unpaired =>
        have herased : s.eraseTrust.env.store = _ := writes_store (forgetting s.device) hl
        show s.eraseTrust.env.store.Blank s.device.id
        rw [herased]
        exact s.env.store.blank_erased s.device.id
    | incomingRequest | failed _ => exact hb
  · rw [hquiet.store]
    exact hb

theorem blank_pair (site : Site) (hl : s.env.ledger.Reliable) {i : Pairing.Input}
    (hi : i.Idle s.device.session.state) (hb : s.env.store.Blank s.device.id) :
    (s.pair site i).env.store.Blank s.device.id := by
  have hacts := Pairing.Session.unsuccessful_of_idle hi s.around
  rw [pair]
  generalize s.device.session.actions s.around i = acts at hacts
  clear hi
  induction acts generalizing s with
  | nil => exact hb
  | cons a rest ih =>
      obtain ⟨ha, hrest⟩ := List.forall_mem_cons.mp hacts
      have hid := (s.steady_perform site a).id
      have hnext := blank_perform site hl ha hb
      rw [← hid] at hnext ⊢
      exact ih ((s.rewritten_perform site a).reliable hl) hnext hrest

/-- An idle operation is about pairing, or there are only asides that switch nothing. -/
theorem idle_cases (site : Site) (s : Scene) {op : Op} {state : PairingState}
    (h : op.Idle state) :
    (∃ i, op = .pairing i ∧ i.Idle state) ∨ Asides site (fun _ => False) s (s.apply site op) := by
  cases op with
  | attach i link => exact h.elim
  | receive p => exact h.elim
  | setPlugin key enabled => exact h.elim
  | elsewhere env => exact h.elim
  | pairing i => exact .inl ⟨i, rfl, h⟩
  | detach link => exact .inr (asides_detach s link)
  | disconnect => exact .inr (asides_quiet s.quiet_disconnect)
  | reload => exact .inr (.single (.reload s))
  | shutdownPlugins => exact .inr (asides_quiet s.quiet_shutdownPlugins)
  | send p replace callback => exact .inr (asides_quiet (s.quiet_send p replace callback))
  | takeBack replace => exact .inr (asides_quiet (s.quiet_takeBack replace))
  | sendBlocking name p callback sameThread =>
      exact .inr (asides_quiet (quiet_sendBlocking site s name p callback sameThread))
  | addObserver _ | removeObserver _ | addListener _ | removeListener _ =>
      exact .inr (asides_quiet ⟨rfl, rfl, rfl, .refl _⟩)

/-- Settings that have nothing of the device get nothing by idle operations. -/
theorem blank_apply (site : Site) (hl : s.env.ledger.Reliable) {op : Op}
    (hop : op.Idle s.device.session.state) (hb : s.env.store.Blank s.device.id) :
    (s.apply site op).env.store.Blank s.device.id := by
  rcases idle_cases site s hop with ⟨i, rfl, hi⟩ | hasides
  · exact blank_pair site hl hi hb
  · generalize s.apply site op = t at hasides
    induction hasides with
    | refl => exact hb
    | @tail u t hearlier hlast ih =>
        have hid := (steady_of_asides hearlier).id
        cases hlast with
        | quiet hquiet =>
            rw [hquiet.store]
            exact ih
        | reload => exact ih
        | switch hkey => exact hkey.elim
        | unpair =>
            have hreliable := (rewritten_asides hearlier).reliable hl
            rw [← hid] at ih ⊢
            exact blank_pair site hreliable (show True from trivial) ih

theorem learn_ledger (s : Scene) (h : s.device.isPaired = false) (i : PeerIdentity) :
    (s.learn i).env.ledger = s.env.ledger := by
  show (s.follow i).env.ledger = _
  rw [follow]
  cases i.name <;> cases i.kind <;> simp [h]

end Scene

namespace World

variable {site : Site} {w w' : World} {id : String}

/-- Nothing arrives for a device with an id. -/
def Spared (id : String) (d : Device) (op : Op) : Prop :=
  d.id = id → op.Idle d.session.state

theorem spared_late (id : String) (d : Device) {i : Pairing.Input} (hi : Late i) :
    Spared id d (.pairing i) := by
  rintro -
  rcases hi with ⟨reason, rfl⟩ | ⟨generation, rfl⟩ <;> trivial

theorem Stir.blank (h : Stir site (Spared id) w w') (hl : w.env.ledger.Reliable)
    (hb : w.env.store.Blank id) : w'.env.store.Blank id := by
  cases h with
  | act ref op hop =>
      cases hd : w.device? ref with
      | none =>
          rw [act_none hd]
          exact hb
      | some d =>
          rw [(act_eq hd _).1]
          by_cases hid : d.id = id
          · subst hid
            exact Scene.blank_apply (s := ⟨d, w.env⟩) site hl (hop d hd rfl) hb
          · exact (Scene.rewritten_apply site ⟨d, w.env⟩ op).blank hid hb
  | sweep =>
      rw [Env.store, w.sweep_hauls.ledger]
      exact hb
  | around h =>
      rw [Env.store, h]
      exact hb

theorem Stirs.blank (h : Stirs site (Spared id) w w') (hl : w.env.ledger.Reliable)
    (hb : w.env.store.Blank id) : w'.env.store.Blank id := by
  induction h with
  | refl => exact hb
  | tail hearlier hlast ih => exact hlast.blank (Stirs.reliable hearlier hl) ih

end World

namespace Hub

variable {site : Site} {h : Hub} {id other : String} {d : Device} {i : PeerIdentity}

/-! ## Forgetting -/

/-- What is forgotten is not known, settings have nothing of it, it is not paired, and there are no
plugins at work for it. Other devices are as they were, known or not, with what waits in their
outboxes, where they are registered, and what is under way; and so is what settings have of other
ids. -/
structure Forgets (h h' : Hub) (id : String) (d : Device) : Prop where
  unknown : h'.device? id = none
  blank : h'.store.Blank id
  gone : h'.world.device? d.ref = some { d with
    session := ⟨.unpaired, d.session.generation + 1⟩
    roster := {} }
  known : ∀ other, id ≠ other → h'.device? other = h.device? other
  devices : ∀ ref, d.ref ≠ ref → h'.world.device? ref = h.world.device? ref
  settings : ∀ other, id ≠ other → h'.store.isTrusted other = h.store.isTrusted other ∧
    ∀ key, h'.store.find? other key = h.store.find? other key
  outboxes : ∀ ref d', d.ref ≠ ref → h.world.device? ref = some d' →
    ∀ o, d'.outbox = some o → h'.world.env.outbox o = h.world.env.outbox o
  receivers : h'.world.env.links.registered = h.world.env.links.registered
  underway : h.world.env.Spares h'.world.env

theorem forgets (site : Site) (ho : h.Orderly) (hl : h.world.env.ledger.Reliable)
    (hd : h.device? id = some d) : h.Forgets ((h.act site d.ref parting).without id) id d := by
  obtain ⟨-, hdevice, hid⟩ := ho.known hd
  have henv : (h.act site d.ref parting).world.env = (leave site (h.scene d)).env :=
    act_env site ho.toFormed hd parting
  have hfind := find_act site ho.toFormed hd parting
  have hqueues : (h.scene d).Queues ((h.scene d).pair site .unpair).shutdownPlugins :=
    (Scene.queues_pair site _ _).trans (Scene.queues_shutdownPlugins _)
  have hkeeps : (h.scene d).Keeps (leave site (h.scene d)) :=
    ((Scene.keeps_pair site _ _).trans (Scene.keeps_shutdownPlugins _)).trans
      (Scene.keeps_disconnect _)
  have hrewritten := rewritten_act site ho.toFormed hd parting
  constructor
  case unknown => rw [device?_without, if_pos rfl]
  case blank =>
    have hstore := Scene.leave_store (s := h.scene d) site hl
    rw [show (h.scene d).device.id = id from hid] at hstore
    show (h.act site d.ref parting).world.env.store.Blank id
    rw [henv, hstore]
    exact Store.blank_erased _ id
  case gone =>
    refine (hfind d.ref).trans ?_
    rw [if_pos rfl]
    exact congrArg some (Scene.leave_device site (h.scene d))
  case known =>
    intro other hne
    rw [device?_without, if_neg hne, device?_act site ho.toFormed hd, if_neg hne]
  case devices =>
    intro ref hne
    exact (hfind ref).trans (if_neg hne)
  case settings =>
    intro other hne
    exact (hrewritten.other hne).symm
  case outboxes =>
    intro ref d' hne hd' o houtbox
    have hforeign : d.outbox ≠ some o := by
      intro hown
      refine hne ?_
      rw [← World.ref_of_device? hd']
      exact ho.wired.apart d (World.mem_of_device? hdevice) d' (World.mem_of_device? hd') o hown
        houtbox
    show (h.act site d.ref parting).world.env.outbox o = _
    rw [henv, leave, Env.outbox, Scene.disconnect_outboxes]
    exact hqueues.others o hforeign
  case receivers =>
    show (h.act site d.ref parting).world.env.links.registered = _
    rw [henv]
    exact hkeeps.env.registered
  case underway =>
    show h.world.env.Spares (h.act site d.ref parting).world.env
    rw [henv]
    exact hkeeps.env.toSpares

/-! ## Afterwards -/

/-- A move by which nothing arrives for a device with an id, and none is seen under it. -/
def Shuns (h : Hub) (id : String) : Move → Prop
  | .own (.connect i _) => i.id ≠ id
  | .own _ => True
  | .around m => m.Fits (World.Spared id) h.world

/-- Moves of which each is such a move when its turn comes. -/
def ShunsAll (site : Site) (h : Hub) (id : String) : List Move → Prop
  | [] => True
  | m :: rest => h.Shuns id m ∧ (h.move site m).ShunsAll site id rest

/-- An id is not known, and settings have nothing of it. -/
structure Away (h : Hub) (id : String) : Prop where
  unknown : Dict.find? h.known id = none
  reliable : h.world.env.ledger.Reliable
  blank : h.store.Blank id

/-- A device that is known is another one. -/
theorem Away.act (ha : h.Away id) (site : Site) (hf : h.Formed) (hd : h.device? other = some d)
    (ops : List Tether.Op) : (h.act site d.ref ops).Away id := by
  have hknown := (hf.known hd).1
  have hne : other ≠ id := by
    rintro rfl
    rw [ha.unknown] at hknown
    cases hknown
  have hrewritten := rewritten_act site hf hd ops
  exact ⟨ha.unknown, hrewritten.reliable ha.reliable, hrewritten.blank hne ha.blank⟩

theorem Away.add (ha : h.Away id) (hne : other ≠ id) (make : Nat → Device) :
    (h.add other make).2.Away id :=
  ⟨(Dict.find?_put_of_ne hne _ _).trans ha.unknown, ha.reliable, ha.blank⟩

theorem Away.stirs (ha : h.Away id) {w : World}
    (hw : World.Stirs site (World.Spared id) h.world w) :
    ({ h with world := w } : Hub).Away id :=
  ⟨ha.unknown, hw.reliable ha.reliable, hw.blank ha.reliable ha.blank⟩

/-- Trusted ids are others. -/
theorem Away.load (ha : h.Away id) (site : Site) : (h.load site).2.Away id := by
  have hothers : ∀ other ∈ h.store.trusted, other ≠ id := by
    rintro other hother rfl
    have htrusted := ha.blank.1
    rw [Store.isTrusted, List.contains_iff_mem.mpr hother] at htrusted
    cases htrusted
  show (h.store.trusted.foldl (restore site) h).Away id
  refine List.foldlRecOn (motive := fun h : Hub => h.Away id) _ _ ha fun h ha other hother => ?_
  rw [restore]
  split
  · exact ha
  · exact ha.add (hothers other hother) _

theorem Away.apply (ha : h.Away id) (site : Site) (ho : h.Orderly) {op : Op} (hop : op.Own)
    (hs : h.Shuns id (.own op)) : (h.apply site op).Away id := by
  have hvisit (other : String) (op : Tether.Op) {α : Type} {f : Scene → α × Scene}
      (hf : ∀ s, (f s).2 = s.apply site op) : (h.visit other f).2.Away id := by
    rcases visit_cases ho.toFormed other op hf with hsame | ⟨d, hd, hact⟩
    · rw [hsame]
      exact ha
    · rw [hact]
      exact ha.act site ho.toFormed hd [op]
  cases op with
  | load => exact ha.load site
  | connect i link =>
      cases hknown : Dict.find? h.known i.id with
      | some ref =>
          obtain ⟨d, hd, rfl, -⟩ := ho.device hknown
          rw [Hub.apply, connect_known hknown]
          exact ha.act site ho.toFormed hd _
      | none =>
          have hadded : (h.add i.id fun ref => .ofIdentity ref i).2.Orderly :=
            ho.add i.id rfl rfl rfl rfl
          have hnew : (h.add i.id fun ref => .ofIdentity ref i).2.device? i.id =
              some (.ofIdentity h.world.born i) := by
            rw [device?_add ho.toFormed rfl, if_pos rfl]
          rw [Hub.apply, connect_unknown hknown]
          exact (ha.add hs _).act site hadded.toFormed hnew _
  | disconnected other link => exact hvisit other (.detach link) fun _ => rfl
  | forget other =>
      cases hd : h.device? other with
      | none =>
          rw [Hub.apply, forget_unknown site hd ho.toFormed]
          exact ha
      | some d =>
          have hne : other ≠ id := by
            rintro rfl
            rw [device?_of_unknown ha.unknown] at hd
            cases hd
          have hleft := ha.act site ho.toFormed hd parting
          rw [Hub.apply, forget_known site ho.toFormed hd]
          exact ⟨(Dict.find?_drop_of_ne hne _).trans hleft.unknown, hleft.reliable, hleft.blank⟩
  | visit other op => exact hvisit other op fun _ => rfl
  | job job =>
      exact ha.stirs (World.stirs_perform (fun d _ hi => World.spared_late id d hi) h.world job)
  | release ref =>
      rw [Hub.apply]
      split
      · exact ha
      · have hswept := World.sweep_hauls { h.world with kept := h.world.kept.filter (· ≠ ref) }
        have hledger : (h.world.release ref).env.ledger = h.world.env.ledger := hswept.ledger
        refine ⟨ha.unknown, ?_, ?_⟩
        · rw [hledger]
          exact ha.reliable
        · rw [store, Env.store, hledger]
          exact ha.blank
  | elsewhere env => exact hop.elim

theorem Away.move (ha : h.Away id) (site : Site) (ho : h.Orderly) {m : Move} (hm : m.Own)
    (hs : h.Shuns id m) : (h.move site m).Away id := by
  cases m with
  | own op => exact ha.apply site ho hm hs
  | around m =>
      exact ha.stirs (World.stirs_move (fun d _ hi => World.spared_late id d hi) h.world hm.2 hs)

/-- What settings do not have of an id they do not get as long as nothing arrives for it. -/
theorem Away.play (ha : h.Away id) (site : Site) (ho : h.Orderly) {moves : List Move}
    (hmoves : ∀ m ∈ moves, m.Own) (hs : h.ShunsAll site id moves) :
    (h.play site moves).Away id ∧ (h.play site moves).Orderly := by
  induction moves generalizing h with
  | nil => exact ⟨ha, ho⟩
  | cons m rest ih =>
      obtain ⟨hm, hrest⟩ := List.forall_mem_cons.mp hmoves
      exact ih (ha.move site ho hm hs.1) (ho.move site hm) hrest hs.2

/-- A device that is known is the one a link is attached to that it came with. -/
theorem connect_ok (site : Site) (hf : h.Formed) (hd : h.device? i.id = some d)
    (link : String) :
    (h.connect site i link).1 = .ok d.ref ∧
      (h.connect site i link).2 = h.act site d.ref [.attach i link] := by
  obtain ⟨hknown, hdevice, hid⟩ := hf.known hd
  have hok : ((h.scene d).attach site i link).1 = .ok () := Scene.attach_ok hid.symm link
  refine ⟨?_, connect_known hknown⟩
  rw [scene] at hok
  simp only [connect, hknown, World.visit, hdevice, hok]

/-- A device that is seen under an id that is not known is a new one, and settings are as they
were. -/
theorem connect_new (site : Site) (hf : h.Formed) (link : String)
    (hknown : Dict.find? h.known i.id = none) :
    ∃ fresh, (h.connect site i link).1 = .ok fresh.ref ∧
      (h.connect site i link).2.device? i.id = some fresh ∧ fresh.id = i.id ∧
      fresh.session = {} ∧
      (h.connect site i link).2.world.env.ledger = h.world.env.ledger := by
  obtain ⟨added, hadded⟩ : ∃ added, added = (h.add i.id fun ref => .ofIdentity ref i).2 := ⟨_, rfl⟩
  obtain ⟨seen, hseen⟩ : ∃ seen, seen = Device.ofIdentity h.world.born i := ⟨_, rfl⟩
  have hid : i.id = seen.id := by rw [hseen]; rfl
  have hsession : seen.session = {} := by rw [hseen]; rfl
  have hformed : added.Formed := hadded ▸ hf.add rfl rfl
  have hnew : added.device? i.id = some seen := by
    rw [hadded, device?_add hf rfl, if_pos rfl, hseen]
  have hconnect : h.connect site i link = added.connect site i link := by
    have hput : Dict.find? added.known i.id = some h.world.born :=
      hadded ▸ Dict.find?_put_self i.id h.world.born h.known
    rw [connect, connect, hknown, hput, hadded]
    rfl
  obtain ⟨hanswer, hattach⟩ := connect_ok site hformed hnew link
  rw [hconnect, hanswer, hattach]
  refine ⟨((added.scene seen).run site [.attach i link]).device, ?_, ?_, ?_, ?_, ?_⟩
  · rw [Scene.run_ref]
    rfl
  · rw [device?_act site hformed hnew, if_pos rfl]
  · rw [Scene.run_id]
    exact hid.symm
  · exact (Scene.attach_session site (added.scene seen) i link).trans hsession
  · have hlead := Scene.attach_ledger site (added.scene seen) i link
    rw [Scene.lead, if_pos (show i.id = (added.scene seen).device.id from hid),
      Scene.learn_ledger _ (by rw [scene, Device.isPaired, hsession]; rfl)] at hlead
    rw [act_env site hformed hnew]
    refine hlead.trans ?_
    rw [scene, hadded]
    rfl

/-- The link brings a device that is not paired. Settings have nothing of its id, and its plugins
are switched on or off as they are by default. -/
def MeetsAnew (site : Site) (h : Hub) (i : PeerIdentity) (link : String) : Prop :=
  ∃ d, (h.connect site i link).1 = .ok d.ref ∧
    (h.connect site i link).2.device? i.id = some d ∧
    d.session = {} ∧
    (h.connect site i link).2.store.Blank i.id ∧
    ∀ key, ((h.connect site i link).2.scene d).isEnabled site key =
      ((Dict.find? site.registry key).map Plugin.Info.enabledByDefault).getD false

theorem Away.meetsAnew (ha : h.Away i.id) (site : Site) (hf : h.Formed) (link : String) :
    h.MeetsAnew site i link := by
  obtain ⟨d, hanswer, hd, hid, hsession, hledger⟩ := connect_new site hf link ha.unknown
  have hblank : (h.connect site i link).2.store.Blank i.id := by
    rw [store, Env.store, hledger]
    exact ha.blank
  refine ⟨d, hanswer, hd, hsession, hblank, fun key => ?_⟩
  have hnone : (h.connect site i link).2.store.getBool? d.id key = none := by
    rw [Store.getBool?, hid, hblank.2 key]
    rfl
  show (((h.connect site i link).2.store.getBool? d.id key).or _).getD false = _
  rw [hnone, Option.none_or]

/-- Whatever happened before, a device that is forgotten leaves nothing behind and concerns nobody
else, and an id that is not known is refused. As long as nothing arrives for it afterwards it is not
remembered either: when it is seen again, it is as if for the first time. -/
theorem forget_leaves_nothing (hr : Reached site h) (hl : h.world.env.ledger.Reliable)
    (id : String) :
    (h.device? id = none → h.forget site id = (.error (.deviceNotFound id), h)) ∧
      ∀ d, h.device? id = some d →
        let after := (h.forget site id).2
        (h.forget site id).1 = .ok d.ref ∧ h.Forgets after id d ∧
          ∀ later, (∀ m ∈ later, m.Own) → after.ShunsAll site id later →
            ∀ i link, i.id = id → (after.play site later).MeetsAnew site i link := by
  have ho := hr.orderly
  refine ⟨fun hunknown => forget_unknown site hunknown ho.toFormed, fun d hd => ?_⟩
  intro after
  have hafter : after = (h.act site d.ref parting).without id :=
    congrArg Prod.snd (forget_known site ho.toFormed hd)
  have hforgets : h.Forgets after id d := hafter ▸ forgets site ho hl hd
  have horderly : after.Orderly := ho.apply site (show Op.Own (.forget id) from trivial)
  have haway : after.Away id := by
    refine ⟨?_, ?_, hforgets.blank⟩
    · rw [hafter]
      exact Dict.find?_drop_self id _
    · rw [hafter]
      exact (rewritten_act site ho.toFormed hd parting).reliable hl
  refine ⟨congrArg Prod.fst (forget_known site ho.toFormed hd), hforgets, ?_⟩
  rintro later hlater hshuns i link rfl
  obtain ⟨hlast, hordered⟩ := haway.play site horderly hlater hshuns
  exact hlast.meetsAnew site hordered.toFormed link

/-- Settings trust a phone, and a plugin is switched off for it. Then it is forgotten, loses its link,
and is seen once more, with the plugin switched on. -/
theorem forget_leaves_nothing_phone :
    let ring : Plugin.Info := { key := "ring", name := "Ring" }
    let site : Site := { registry := [("ring", ring)] }
    let phone : PeerIdentity := { id := "phone", name := some "Phone", certificate := [1] }
    let env : Env := { ledger := { store := { trusted := ["phone"] } } }
    let before : List Move := [.own .load, .own (.connect phone "lan"),
      .own (.connect { id := "tablet" } "bt"), .own (.visit "phone" (.setPlugin "ring" false))]
    let later : List Move := [.around .next, .own (.visit "tablet" (.pairing .request)),
      .around (.visit 0 (.detach "lan"))]
    let h := (new env).play site before
    let after := (h.forget site "phone").2
    let last := (after.play site later).connect site phone "lan"
    (∃ d, h.device? "phone" = some d ∧ d.session.state = .paired ∧
      (h.scene d).isEnabled site "ring" = false) ∧
      h.store.isTrusted "phone" = true ∧ after.device? "phone" = none ∧
      after.store.isTrusted "phone" = false ∧
      ∃ d, last.2.device? "phone" = some d ∧ d.session = {} ∧
        (last.2.scene d).isEnabled site "ring" = true := by
  intro ring site phone env before later h after last
  have hvacant : (new env).world.Vacant := ⟨rfl, by rintro id l ⟨⟩⟩
  have hbefore : ∀ m ∈ before, m.Own := by simp [before, Move.Own, Op.Own, Tether.Op.Own]
  have hlater : ∀ m ∈ later, m.Own := by
    simp [later, Move.Own, Op.Own, Tether.Op.Own, World.Move.Own, World.Move.Inside]
  have hshuns : after.ShunsAll site "phone" later :=
    ⟨trivial, trivial, fun _ _ _ => trivial, trivial⟩
  have hview : (h.device? "phone").map (fun d =>
      (d.session.state, (h.scene d).isEnabled site "ring")) = some (.paired, false) := by
    decide +kernel
  obtain ⟨d, hd, hpair⟩ := Option.map_eq_some_iff.mp hview
  obtain ⟨hpaired, hoff⟩ := Prod.mk.inj hpair
  have hrefusal : h.world.env.ledger.refusal = fun _ => none := rfl
  obtain ⟨-, hforget⟩ :=
    forget_leaves_nothing ⟨env, before, hvacant, hbefore, rfl⟩ (congrFun hrefusal) "phone"
  obtain ⟨-, hforgets, hanew⟩ := hforget d hd
  obtain ⟨fresh, -, hfresh, hsession, -, henabled⟩ := hanew later hlater hshuns phone "lan" rfl
  exact ⟨⟨d, hd, hpaired, hoff⟩, by decide +kernel, hforgets.unknown, hforgets.blank.1, fresh,
    hfresh, hsession, (henabled "ring").trans rfl⟩

end Hub

end Tether
