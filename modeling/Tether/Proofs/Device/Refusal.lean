import Tether.Proofs.Device.Certificate
import Tether.Proofs.Settings.Attempts

/-!
# What refused writes leave behind

Trust is kept by four writes and erased by two, and each of them may be refused. Nobody
is stopped by that: the other writes are made, the session goes on, and observers are
told as if nothing had happened. So settings may call a device trusted of which they
hold no certificate, or one that is not paired any more.

How much harm is done depends on one operation only, the last one in which the device
became paired or ceased to be. If none of its writes was refused, a trusted device is
paired and known from settings (`Scene.Whole`), whatever was refused before that
operation or after it. The writes of other operations do no harm because they only put
values in the place of values: names and classes are replaced by names and classes, and
plugins are switched under keys of their own.
-/

namespace Tether

namespace Pairing.Session

/-- In a turn that is told to, a session ends trust, whatever its state. -/
theorem actions_of_unpair (s : Session) (around : Surroundings) :
    ∃ before, s.actions around .unpair = before ++ [.emit .unpaired] ∧
      ∀ a ∈ before, Unwritten a := by
  refine ⟨_, rfl, ?_⟩
  split <;> simp [Unwritten]

/-- A session that ceases to be paired ends trust, and writes nothing else. -/
theorem actions_of_end {s : Session} {t : Turn} (hs : s.state = .paired)
    (ht : (s.turn t).state ≠ .paired) :
    ∃ before after, s.actions t.around t.input = before ++ .emit .unpaired :: after ∧
      (∀ a ∈ before, Unwritten a) ∧ ∀ a ∈ after, Unwritten a := by
  obtain ⟨state, generation⟩ := s
  obtain ⟨around, input⟩ := t
  cases hs
  cases input with
  | received p =>
      cases hp : ofPacket p with
      | error f => exact absurd (by simp [turn, step, actions, hp]) ht
      | ok pair =>
          cases pair with
          | true =>
              exact ⟨[.enter .unpaired], incoming, by simp [actions, hp, onBit],
                by simp [Unwritten], by simp [incoming, Unwritten]⟩
          | false =>
              exact ⟨[.enter .unpaired], [], by simp [actions, hp, onBit],
                by simp [Unwritten],
                List.forall_mem_nil _⟩
  | request | accept | cancel => exact absurd rfl ht
  | unpair =>
      obtain ⟨before, hacts, hbefore⟩ := actions_of_unpair ⟨.paired, generation⟩ around
      exact ⟨before, [], hacts, hbefore, List.forall_mem_nil _⟩
  | sendFailed reason =>
      exact ⟨[.enter .unpaired], [.emit (.failed (.sendFailed reason))], rfl,
        by simp [Unwritten], by simp [Unwritten]⟩
  | expired g =>
      refine absurd ?_ ht
      simp only [turn, step, actions]
      split <;> rfl

/-- A session that is not paired and does not become so writes nothing, unless it is told
to end trust. -/
theorem unwritten_of_unpaired {s : Session} {t : Turn} (hs : s.state ≠ .paired)
    (ht : (s.turn t).state ≠ .paired) (hi : t.input ≠ .unpair) :
    ∀ a ∈ s.actions t.around t.input, Unwritten a := by
  obtain ⟨state, generation⟩ := s
  obtain ⟨around, input⟩ := t
  cases input with
  | received p =>
      cases hp : ofPacket p with
      | error f => simp [actions, hp]
      | ok pair =>
          cases pair <;> cases state <;>
            simp [turn, step, actions, onBit, incoming, perform, hp, Unwritten] at hs ht ⊢
  | request =>
      cases state with
      | paired => exact absurd rfl hs
      | requested => simp [actions, onRequest]
      | requestedByPeer => exact absurd rfl ht
      | unpaired =>
          simp only [actions, onRequest]
          split
          · split <;> simp [Unwritten]
          · simp
  | accept =>
      cases state with
      | requestedByPeer => exact absurd rfl ht
      | unpaired | requested | paired => simp [actions]
  | cancel => cases state <;> simp [actions, Unwritten]
  | unpair => exact absurd rfl hi
  | sendFailed reason => cases state <;> simp [actions, onSendFailed, Unwritten] at hs ⊢
  | expired g =>
      simp only [actions]
      split
      · cases state <;> simp [onTimeout, Unwritten]
      · simp

/-- What a turn has settings told. They are told nothing, and what is paired remains so;
or the session becomes paired and they are told so at last; or it is not paired after the
turn, and they are told that once. -/
theorem actions_cases (s : Session) (t : Turn) :
    ((∀ a ∈ s.actions t.around t.input, Unwritten a) ∧
      ((s.turn t).state = .paired ↔ s.state = .paired)) ∨
    (s.state ≠ .paired ∧ (s.turn t).state = .paired ∧ ∃ before,
      s.actions t.around t.input = before ++ [.emit .successful] ∧
      ∀ a ∈ before, Unwritten a) ∨
    ((s.turn t).state ≠ .paired ∧ ∃ before after,
      s.actions t.around t.input = before ++ .emit .unpaired :: after ∧
      (∀ a ∈ before, Unwritten a) ∧ ∀ a ∈ after, Unwritten a) := by
  by_cases hs : s.state = .paired <;> by_cases ht : (s.turn t).state = .paired
  · exact .inl ⟨unwritten_of_paired hs ht, iff_of_true ht hs⟩
  · exact .inr (.inr ⟨ht, actions_of_end hs ht⟩)
  · exact .inr (.inl ⟨hs, ht, actions_of_success hs ht⟩)
  · by_cases hi : t.input = .unpair
    · obtain ⟨before, hacts, hbefore⟩ := s.actions_of_unpair t.around
      exact .inr (.inr ⟨ht, before, [], by rw [hi, hacts], hbefore, List.forall_mem_nil _⟩)
    · exact .inl ⟨unwritten_of_unpaired hs ht hi, iff_of_false ht hs⟩

end Pairing.Session

namespace Store

/-- What settings are to hold of a trusted device is there, but for what plugins may have
been switched over. -/
def Knows (s : Store) (allowed : String → Prop) (id : String) : Prop :=
  ∀ key ∈ [certificateKey, nameKey, kindKey],
    allowed key ∨ ∃ text, s.find? id key = some (.str text)

/-- A value is put into the scope of an id: a string, or what a plugin may put there. -/
def Change.IsPut (allowed : String → Prop) (id : String) (c : Change) : Prop :=
  ∃ key value, c = .put id key value ∧ (allowed key ∨ ∃ text, value = .str text)

theorem Knows.put {s : Store} {allowed : String → Prop} {id : String} {c : Change}
    (h : s.Knows allowed id) (hc : c.IsPut allowed id) : (s.apply c).Knows allowed id := by
  obtain ⟨key, value, rfl, hvalue⟩ := hc
  intro other hother
  by_cases heq : key = other
  · subst heq
    rcases hvalue with hallowed | ⟨text, rfl⟩
    · exact .inl hallowed
    · exact .inr ⟨text, s.find?_put_same id key _⟩
  · rw [s.find?_put_other heq]
    exact h other hother

end Store

namespace Scene

variable {site : Site} {allowed : String → Prop} {s t u : Scene}

/-- If the device is trusted, it is paired and known from settings. -/
def Whole (allowed : String → Prop) (s : Scene) : Prop :=
  s.env.store.isTrusted s.device.id = true →
    s.device.session.state = .paired ∧ s.env.store.Knows allowed s.device.id

/-- A step in which the device does not become paired. Values are put, or trust and all
values are erased. -/
inductive Decline (allowed : String → Prop) : Scene → Scene → Prop where
  | puts {s t : Scene} (hid : t.device.id = s.device.id)
      (hpaired : t.device.session.state = .paired ↔ s.device.session.state = .paired)
      (changes : List Store.Change) (hputs : ∀ c ∈ changes, c.IsPut allowed s.device.id)
      (hledger : t.env.ledger = s.env.ledger.tryAll changes) : Decline allowed s t
  | ends {s t : Scene} (hid : t.device.id = s.device.id)
      (hpaired : t.device.session.state ≠ .paired)
      (hledger : t.env.ledger = s.env.ledger.tryAll (forgetting s.device)) :
      Decline allowed s t

/-! ## Steps -/

theorem storeTrust_ledger (s : Scene) :
    s.storeTrust.env.ledger = s.env.ledger.tryAll (trusting s.device) := rfl

theorem eraseTrust_ledger (s : Scene) :
    s.eraseTrust.env.ledger = s.env.ledger.tryAll (forgetting s.device) := rfl

/-- A device becomes paired, and is written down as trusted. -/
structure Success (s t : Scene) : Prop where
  id : t.device.id = s.device.id
  unpaired : s.device.session.state ≠ .paired
  paired : t.device.session.state = .paired
  ledger : t.env.ledger = s.env.ledger.tryAll (trusting s.device)

/-- In a turn a device becomes paired, or the turn is a step in which it does not. -/
theorem decline_of_pair (site : Site) (allowed : String → Prop) (s : Scene)
    (i : Pairing.Input) :
    Decline allowed s (s.pair site i) ∨ s.Success (s.pair site i) := by
  have hid := (s.steady_pair site i).id
  have hsession := s.pair_session site i
  -- What comes before the word that settings are told changes nothing that they are told.
  have hsame : ∀ before : List Pairing.Action,
      (∀ a ∈ before, Pairing.Session.Unwritten a) →
      (before.foldl (perform site) s).env.ledger = s.env.ledger ∧
        trusting (before.foldl (perform site) s).device = trusting s.device ∧
        forgetting (before.foldl (perform site) s).device = forgetting s.device := by
    intro before hbefore
    have hsteady := steady_performAll site before s
    refine ⟨performAll_ledger site hbefore s, ?_, ?_⟩
    · rw [trusting, hsteady.id, hsteady.details, trusting]
    · rw [forgetting, hsteady.id, forgetting]
  rcases s.device.session.actions_cases ⟨s.around, i⟩ with ⟨hacts, hpaired⟩ |
    ⟨hunpaired, hpaired, before, hacts, hbefore⟩ |
    ⟨hpaired, before, after, hacts, hbefore, hafter⟩
  · rw [← hsession] at hpaired
    exact .inl (.puts hid hpaired [] (List.forall_mem_nil _) (performAll_ledger site hacts s))
  · rw [← hsession] at hpaired
    obtain ⟨hledger, htrusting, -⟩ := hsame before hbefore
    have hpair : s.pair site i =
        (before.foldl (perform site) s).perform site (.emit .successful) := by
      rw [pair, hacts, List.foldl_append]
      rfl
    refine .inr ⟨hid, hunpaired, hpaired, ?_⟩
    rw [hpair, ← hledger, ← htrusting]
    exact storeTrust_ledger _
  · rw [← hsession] at hpaired
    obtain ⟨hledger, -, hforgetting⟩ := hsame before hbefore
    have hpair : s.pair site i = after.foldl (perform site)
        ((before.foldl (perform site) s).perform site (.emit .unpaired)) := by
      rw [pair, hacts, List.foldl_append]
      rfl
    refine .inl (.ends hid hpaired ?_)
    rw [hpair, performAll_ledger site hafter, ← hledger, ← hforgetting]
    exact eraseTrust_ledger _

theorem Aside.decline (h : Aside site allowed s t) : Decline allowed s t := by
  cases h with
  | quiet h =>
      exact .puts h.id (by rw [h.session]) [] (List.forall_mem_nil _) h.env.ledger
  | reload => exact .puts rfl Iff.rfl [] (List.forall_mem_nil _) rfl
  | @switch key hkey enabled =>
      refine .puts rfl Iff.rfl [.putBool s.device.id key enabled] ?_ rfl
      intro c hc
      rw [List.mem_singleton.mp hc]
      exact ⟨key, _, rfl, .inl hkey⟩
  | unpair =>
      refine (decline_of_pair site allowed s .unpair).resolve_right fun hsuccess => ?_
      have hpaired := hsuccess.paired
      rw [pair_session, Pairing.Session.turn_unpair] at hpaired
      cases hpaired

theorem decline_learn (allowed : String → Prop) (s : Scene) (i : PeerIdentity) :
    Decline allowed s (s.learn i) := by
  obtain ⟨changes, hfollow, hall⟩ := s.follow_eq i
  have hledger : ∀ (changes : List Store.Change) (s : Scene),
      (changes.foldl tryWrite s).env.ledger = s.env.ledger.tryAll changes := by
    intro changes
    induction changes with
    | nil => exact fun _ => rfl
    | cons c rest ih => exact fun s => ih (s.tryWrite c)
  have hdevice := s.learn_device i
  refine .puts (by rw [hdevice]) (by rw [hdevice]) changes ?_ ?_
  · intro c hc
    obtain ⟨key, value, rfl, -⟩ := hall c hc
    exact ⟨key, _, rfl, .inr ⟨value, rfl⟩⟩
  · rw [learn, hfollow]
    exact hledger changes s

/-- Any number of steps in which the device does not become paired. -/
abbrev Declines (allowed : String → Prop) : Scene → Scene → Prop :=
  Relation.ReflTransGen (Decline allowed)

/-- In an operation a device becomes paired, or the operation consists of steps in which it
does not. -/
theorem declines_apply (site : Site) (s : Scene) {op : Op} (hop : op.Within allowed)
    (ha : s.env.Asks allowed) :
    Declines allowed s (s.apply site op) ∨ s.Success (s.apply site op) := by
  have hasides : Declines allowed (s.lead site op) (s.apply site op) :=
    (s.apply_asides op hop ha).lift id fun _ _ haside => haside.decline
  rcases s.lead_cases site op with ⟨i, hlead⟩ | ⟨i, -, happly⟩ | ⟨env, rfl⟩ | hlead
  · rw [hlead] at hasides
    exact .inl (.head (decline_learn allowed s i) hasides)
  · rw [happly]
    exact (decline_of_pair site allowed s i).imp .single fun hsuccess => hsuccess
  · exact .inl (.single (.puts rfl Iff.rfl [] (List.forall_mem_nil _) rfl))
  · rw [hlead] at hasides
    exact .inl hasides

/-! ## What steps leave of trust -/

theorem Decline.before (h : Decline allowed s t) : s.env.ledger.Before t.env.ledger := by
  cases h with
  | puts _ _ changes _ hledger =>
      rw [hledger]
      exact Ledger.before_tryAll _ changes
  | ends _ _ hledger =>
      rw [hledger]
      exact Ledger.before_tryAll _ _

theorem Decline.id (h : Decline allowed s t) : t.device.id = s.device.id := by
  cases h with
  | puts hid | ends hid => exact hid

theorem Decline.paired (h : Decline allowed s t) (ht : t.device.session.state = .paired) :
    s.device.session.state = .paired := by
  cases h with
  | puts _ hpaired => exact hpaired.mp ht
  | ends _ hpaired => exact absurd ht hpaired

theorem trusted_puts {changes : List Store.Change}
    (h : ∀ c ∈ changes, c.IsPut allowed s.device.id) :
    (s.env.ledger.tryAll changes).store.isTrusted s.device.id =
      s.env.store.isTrusted s.device.id := by
  refine Ledger.tryAll_of_apply
    (P := fun st => st.isTrusted s.device.id = s.env.store.isTrusted s.device.id) ?_ rfl
  intro c hc st hst
  obtain ⟨key, value, rfl, -⟩ := h c hc
  exact hst

/-- Nobody becomes trusted without becoming paired. -/
theorem Decline.untrusted (h : Decline allowed s t)
    (hs : s.env.store.isTrusted s.device.id = false) :
    t.env.store.isTrusted t.device.id = false := by
  rw [h.id]
  cases h with
  | puts _ _ changes hputs hledger =>
      rw [Env.store, hledger, trusted_puts hputs]
      exact hs
  | ends _ _ hledger =>
      rw [Env.store, hledger]
      refine Ledger.tryAll_of_apply (P := fun st => st.isTrusted s.device.id = false) ?_ hs
      intro c hc st hst
      rcases List.mem_cons.mp hc with rfl | hc
      · exact st.isTrusted_setTrusted_self _ _
      · rw [List.mem_singleton.mp hc]
        exact hst

/-- Values are put in the place of values. -/
theorem Decline.whole (h : Decline allowed s t) (hs : s.Whole allowed)
    (ht : t.device.session.state = .paired) : t.Whole allowed := by
  cases h with
  | ends _ hpaired => exact absurd ht hpaired
  | puts hid _ changes hputs hledger =>
      intro htrusted
      refine ⟨ht, ?_⟩
      rw [hid, Env.store, hledger] at htrusted ⊢
      rw [trusted_puts hputs] at htrusted
      exact Ledger.tryAll_of_apply (P := fun st => st.Knows allowed s.device.id)
        (fun c hc st hst => hst.put (hputs c hc)) (hs htrusted).2

/-- If no write is refused, whoever ceases to be paired is not trusted any more. -/
theorem Decline.ended (h : Decline allowed s t)
    (haccepted : ¬s.env.ledger.Refuses t.env.ledger)
    (hs : s.device.session.state = .paired ∨ s.env.store.isTrusted s.device.id = false) :
    t.device.session.state = .paired ∨ t.env.store.isTrusted t.device.id = false := by
  rcases hs with hpaired | huntrusted
  · cases h with
    | puts _ hsame => exact .inl (hsame.mpr hpaired)
    | ends hid _ hledger =>
        right
        rw [hledger] at haccepted
        rw [hid, Env.store, hledger, Ledger.tryAll_store haccepted]
        simp [forgetting]
  · exact .inr (h.untrusted huntrusted)

theorem Declines.before (h : Declines allowed s t) : s.env.ledger.Before t.env.ledger := by
  induction h with
  | refl => exact .refl _
  | tail _ hlast ih => exact ih.trans hlast.before

theorem Declines.paired (h : Declines allowed s t) (ht : t.device.session.state = .paired) :
    s.device.session.state = .paired := by
  induction h with
  | refl => exact ht
  | tail _ hlast ih => exact ih (hlast.paired ht)

theorem Declines.untrusted (h : Declines allowed s t)
    (hs : s.env.store.isTrusted s.device.id = false) :
    t.env.store.isTrusted t.device.id = false := by
  induction h with
  | refl => exact hs
  | tail _ hlast ih => exact hlast.untrusted ih

theorem Declines.whole (h : Declines allowed s t) (hs : s.Whole allowed)
    (ht : t.device.session.state = .paired) : t.Whole allowed := by
  induction h with
  | refl => exact hs
  | tail _ hlast ih => exact hlast.whole (ih (hlast.paired ht)) ht

theorem Declines.ended (h : Declines allowed s t)
    (haccepted : ¬s.env.ledger.Refuses t.env.ledger)
    (hs : s.device.session.state = .paired) :
    t.device.session.state = .paired ∨ t.env.store.isTrusted t.device.id = false := by
  induction h with
  | refl => exact .inl hs
  | tail hearlier hlast ih =>
      -- A refusal in a part would be one in the whole.
      have hfirst := ih fun hr => haccepted (hr.later hlast.before)
      exact hlast.ended (fun hr => haccepted (hr.earlier (Declines.before hearlier))) hfirst

/-- A device that was written down as trusted without any refusal is known. -/
theorem Success.whole (h : s.Success t)
    (haccepted : ¬s.env.ledger.Refuses t.env.ledger) : t.Whole allowed := by
  intro _
  refine ⟨h.paired, fun key hkey => .inr ?_⟩
  have hname : Store.nameKey ≠ Store.certificateKey := by decide
  have hkind : Store.kindKey ≠ Store.certificateKey := by decide
  have hboth : Store.kindKey ≠ Store.nameKey := by decide
  rw [h.ledger] at haccepted
  rw [h.id, Env.store, h.ledger, Ledger.tryAll_store haccepted]
  simp only [List.mem_cons, List.not_mem_nil, or_false] at hkey
  rcases hkey with rfl | rfl | rfl <;>
    simp [trusting, Store.Change.putString, Store.find?_put_other, hname, hkind, hboth]

/-! ## Runs -/

theorem isPaired_iff {d : Device} : d.isPaired = true ↔ d.session.state = .paired :=
  decide_eq_true_iff

theorem whole_of_untrusted (h : s.env.store.isTrusted s.device.id = false) :
    s.Whole allowed := by
  intro htrusted
  rw [h] at htrusted
  cases htrusted

/-- An operation after which a device is paired or not as before does no harm. -/
theorem Whole.apply (hs : s.Whole allowed) {op : Op} (hop : op.Within allowed)
    (ha : s.env.Asks allowed)
    (hsame : (s.apply site op).device.isPaired = s.device.isPaired) :
    (s.apply site op).Whole allowed := by
  rcases declines_apply site s hop ha with hdeclines | hsuccess
  · by_cases ht : (s.apply site op).device.session.state = .paired
    · exact hdeclines.whole hs ht
    · have hunpaired : s.device.session.state ≠ .paired := fun hpaired =>
        ht (isPaired_iff.mp (hsame.trans (isPaired_iff.mpr hpaired)))
      refine whole_of_untrusted (hdeclines.untrusted ?_)
      rw [← Bool.not_eq_true]
      exact fun htrusted => hunpaired (hs htrusted).1
  · refine absurd ?_ hsuccess.unpaired
    rw [← isPaired_iff, ← hsame, isPaired_iff]
    exact hsuccess.paired

/-- An operation in which a device becomes paired, or ceases to be, makes good all harm
that was done before, if none of its writes is refused. -/
theorem whole_of_change {op : Op} (hop : op.Within allowed) (ha : s.env.Asks allowed)
    (hchange : (s.apply site op).device.isPaired ≠ s.device.isPaired)
    (haccepted : ¬s.env.ledger.Refuses (s.apply site op).env.ledger) :
    (s.apply site op).Whole allowed := by
  rcases declines_apply site s hop ha with hdeclines | hsuccess
  · have hunpaired : (s.apply site op).device.session.state ≠ .paired := by
      intro ht
      refine hchange ?_
      rw [isPaired_iff.mpr ht, isPaired_iff.mpr (hdeclines.paired ht)]
    have hpaired : s.device.session.state = .paired := by
      rw [← isPaired_iff, ← Bool.not_eq_false]
      intro hs
      refine hchange ?_
      rw [hs, ← Bool.not_eq_true, isPaired_iff]
      exact hunpaired
    exact whole_of_untrusted ((hdeclines.ended haccepted hpaired).resolve_left hunpaired)
  · exact hsuccess.whole haccepted

/-- Whether a device is paired is the same after each of some operations. -/
def Settled (site : Site) (s : Scene) : List Op → Prop
  | [] => True
  | op :: rest =>
      (s.apply site op).device.isPaired = s.device.isPaired ∧
        (s.apply site op).Settled site rest

theorem Whole.run (hs : s.Whole allowed) {ops : List Op}
    (hops : ∀ op ∈ ops, op.Within allowed) (ha : s.env.Asks allowed)
    (h : s.Settled site ops) : (s.run site ops).Whole allowed := by
  induction ops generalizing s with
  | nil => exact hs
  | cons op rest ih =>
      have hop := hops op List.mem_cons_self
      exact ih (hs.apply hop ha h.1) (fun op hmem => hops op (List.mem_cons_of_mem _ hmem))
        (apply_asks hop ha) h.2

/-- Either it was the same all the time whether the device is paired, or there is a last
operation in which that changed. -/
theorem settled_or_changed (site : Site) (s : Scene) (ops : List Op) :
    s.Settled site ops ∨
      ∃ before op after, ops = before ++ op :: after ∧
        ((s.run site before).apply site op).device.isPaired ≠
          (s.run site before).device.isPaired ∧
        ((s.run site before).apply site op).Settled site after := by
  induction ops generalizing s with
  | nil => exact .inl trivial
  | cons op rest ih =>
      rcases ih (s.apply site op) with hsettled | ⟨before, last, after, rfl, hlast⟩
      · by_cases hsame : (s.apply site op).device.isPaired = s.device.isPaired
        · exact .inl ⟨hsame, hsettled⟩
        · exact .inr ⟨[], op, rest, rfl, hsame, hsettled⟩
      · exact .inr ⟨op :: before, last, after, rfl, hlast⟩

/-- A device starts out untrusted, or paired and known from settings. Any write may be
refused. After any run, a trusted device is paired and settings hold its certificate, its
name and its class, unless a write was refused in the last operation in which the device
became paired or ceased to be. -/
theorem whole_or_refused (hs : s.Whole allowed) (ha : s.env.Asks allowed) {ops : List Op}
    (hops : ∀ op ∈ ops, op.Within allowed) :
    (s.run site ops).Whole allowed ∨
      ∃ before op after, ops = before ++ op :: after ∧
        let old := s.run site before
        let new := old.apply site op
        new.device.isPaired ≠ old.device.isPaired ∧ new.Settled site after ∧
          old.env.ledger.Refuses new.env.ledger := by
  rcases s.settled_or_changed site ops with hsettled |
    ⟨before, op, after, rfl, hchange, hsettled⟩
  · exact .inl (hs.run hops ha hsettled)
  · obtain ⟨hbefore, hrest⟩ := List.forall_mem_append.mp hops
    obtain ⟨hop, hafter⟩ := List.forall_mem_cons.mp hrest
    have hasks : (s.run site before).env.Asks allowed := run_asks hbefore ha
    by_cases hrefused : (s.run site before).env.ledger.Refuses
        ((s.run site before).apply site op).env.ledger
    · exact .inr ⟨before, op, after, rfl, hchange, hsettled, hrefused⟩
    · left
      rw [run_append, run_cons]
      exact (whole_of_change hop hasks hchange hrefused).run hafter
        (apply_asks hop hasks) hsettled

/-- Only the first attempt to write is refused, which is the one at the certificate. -/
theorem whole_or_refused_without_certificate :
    let peer : PeerIdentity := { id := "peer", certificate := [1] }
    let offline : Nat → Option Fault :=
      fun n => if n = 0 then some (.configuration "settings offline") else none
    let s : Scene :=
      { device := .ofIdentity 0 peer, env := { ledger := { refusal := offline } } }
    let ops : List Op :=
      [.attach peer "lan", .pairing .request, .receive (Pairing.packet 1 true)]
    ¬(s.run {} ops).Whole (fun _ => False) ∧
      ∃ before op after, ops = before ++ op :: after ∧
        let old := s.run {} before
        let new := old.apply {} op
        new.device.isPaired ≠ old.device.isPaired ∧ new.Settled {} after ∧
          old.env.ledger.Refuses new.env.ledger := by
  intro peer offline s ops
  have hasks : s.env.Asks fun _ => False := fun _ _ _ hmem => nomatch hmem
  have hops : ∀ op ∈ ops, op.Within fun _ => False := by simp [ops, Op.Within]
  have hbroken : ¬(s.run {} ops).Whole fun _ => False := by
    intro hwhole
    obtain ⟨-, hknows⟩ := hwhole (by decide)
    have hnone : (s.run {} ops).storedCertificate = none :=
      Option.isNone_iff_eq_none.mp (by decide)
    rcases hknows Store.certificateKey List.mem_cons_self with hfalse | ⟨text, htext⟩
    · exact hfalse
    · rw [storedCertificate, htext] at hnone
      cases hnone
  exact ⟨hbroken, (whole_or_refused (whole_of_untrusted rfl) hasks hops).resolve_left hbroken⟩

/-- If the certificate cannot be written when a device becomes paired, the device is
trusted without it; and if nothing can be written when it ceases to be, it is trusted
still. -/
theorem trusted_after_refusals :
    let peer : PeerIdentity := { id := "peer", certificate := [1] }
    let offline (p : Nat → Bool) (n : Nat) : Option Fault :=
      if p n then some (.configuration "settings offline") else none
    let s (p : Nat → Bool) : Scene :=
      { device := .ofIdentity 0 peer, env := { ledger := { refusal := offline p } } }
    let ops : List Op :=
      [.attach peer "lan", .pairing .request, .receive (Pairing.packet 1 true)]
    let paired := (s fun n => n = 0).run {} ops
    let unpaired := (s fun n => 4 ≤ n).run {} (ops ++ [.pairing .unpair])
    (paired.env.store.isTrusted "peer" = true ∧ paired.storedCertificate.isNone = true) ∧
      unpaired.env.store.isTrusted "peer" = true ∧
      unpaired.device.session.state = .unpaired := by
  intro peer offline s ops paired unpaired
  exact ⟨⟨by decide, by decide⟩, by decide, by decide⟩

end Scene

end Tether
