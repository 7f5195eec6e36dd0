import Tether.Proofs.Device.Trust

/-!
# Which certificate a device is known by

A device is known by the certificate that its links showed last. Nothing else changes
it: no packet, no plugin, and no step of pairing. That holds while a session is open,
too. A link that attaches between the request and the answer and shows another
certificate is believed, for whether a certificate may be believed is decided where
links are made.

What settings hold is bound more tightly. It is written when the session succeeds, it
is the certificate of that moment, and no link changes it while the device stays
paired. Plugins are switched under keys of the same scope, so all this is said of runs
that switch none under the key of the certificate.
-/

namespace Tether

namespace Pairing.Session

/-- An action that settings do not follow. -/
def Unwritten (a : Action) : Prop :=
  a ≠ .emit .successful ∧ a ≠ .emit .unpaired

/-- A session that is paired and remains so writes nothing. -/
theorem unwritten_of_paired {s : Session} {t : Turn} (hs : s.state = .paired)
    (ht : (s.turn t).state = .paired) :
    ∀ a ∈ s.actions t.around t.input, Unwritten a := by
  obtain ⟨state, generation⟩ := s
  obtain ⟨around, input⟩ := t
  cases hs
  cases input with
  | received p =>
      cases hp : ofPacket p with
      | error f => simp [actions, hp]
      | ok pair => cases pair <;> simp [turn, step, actions, onBit, incoming, perform, hp] at ht
  | request => simp [actions, onRequest, Unwritten]
  | accept | cancel => simp [actions]
  | unpair => rw [turn_unpair] at ht; cases ht
  | sendFailed reason => cases ht
  | expired g =>
      simp only [actions]
      split <;> simp [onTimeout]

/-- A session that becomes paired says so last, and writes nothing before. -/
theorem actions_of_success {s : Session} {t : Turn} (hs : s.state ≠ .paired)
    (ht : (s.turn t).state = .paired) :
    ∃ before, s.actions t.around t.input = before ++ [.emit .successful] ∧
      ∀ a ∈ before, Unwritten a := by
  have hagree : ∃ before, agree = before ++ [.emit .successful] ∧
      ∀ a ∈ before, Unwritten a :=
    ⟨[.cancelTimer, .enter .paired, .send true], rfl, by simp [Unwritten]⟩
  obtain ⟨state, generation⟩ := s
  obtain ⟨around, input⟩ := t
  cases input with
  | received p =>
      cases hp : ofPacket p with
      | error f => exact absurd (by simpa [turn, step, actions, hp] using ht) hs
      | ok pair =>
          cases pair <;> cases state <;>
            simp [turn, step, actions, onBit, incoming, perform, hp] at hs ht ⊢
          exact ⟨[.cancelTimer, .enter .paired], rfl, by simp [Unwritten]⟩
  | request =>
      cases state with
      | requestedByPeer => exact hagree
      | requested | paired => exact absurd ht hs
      | unpaired =>
          simp only [turn, step, actions, onRequest] at ht
          split at ht
          · split at ht <;> cases ht
          · cases ht
  | accept =>
      cases state with
      | requestedByPeer => exact hagree
      | unpaired | requested | paired => exact absurd ht hs
  | cancel => cases state <;> simp [turn, step, actions, perform] at hs ht
  | unpair => rw [turn_unpair] at ht; cases ht
  | sendFailed reason =>
      cases state <;> simp [turn, step, actions, onSendFailed, perform] at hs ht
  | expired g =>
      simp only [turn, step, actions] at ht
      split at ht
      · cases state <;> simp [onTimeout, perform] at hs ht
      · exact absurd ht hs

end Pairing.Session

/-- The certificate that an identity of a device shows. -/
def Op.certificate? (id : String) : Op → Option (List UInt8)
  | .attach i _ => if i.id = id ∧ i.certificate ≠ [] then some i.certificate else none
  | _ => none

namespace Scene

variable {site : Site} {s t u : Scene}

/-! ## Known certificates -/

/-- The certificates that identities of a device show, in the order of operations. -/
def presented (id : String) (ops : List Op) : List (List UInt8) :=
  ops.filterMap (Op.certificate? id)

theorem learned_certificate (id : String) (d : Details) (op : Op) :
    (learned id d op).certificate = (op.certificate? id).getD d.certificate := by
  cases op with
  | attach i link =>
      rw [learned, Op.certificate?]
      by_cases hid : i.id = id
      · by_cases hempty : i.certificate = [] <;> simp [hid, hempty, Details.merge]
      · simp [hid]
  | _ => rfl

theorem run_certificate (site : Site) (s : Scene) (ops : List Op) :
    (s.run site ops).device.details.certificate =
      (presented s.device.id ops).getLastD s.device.details.certificate := by
  rw [run_details]
  generalize s.device.details = d
  induction ops generalizing d with
  | nil => rfl
  | cons op rest ih =>
      rw [List.foldl_cons, ih, learned_certificate, presented, presented,
        List.filterMap_cons]
      cases op.certificate? s.device.id with
      | none => rfl
      | some c => rw [Option.getD_some, List.getLastD_cons]

/-! ## Stored certificates -/

/-- What settings hold under the key of the certificate. -/
def storedCertificate (s : Scene) : Option Json :=
  s.env.store.find? s.device.id Store.certificateKey

/-- The device is paired, and still is after each of some operations. -/
def StaysPaired (site : Site) (s : Scene) : List Op → Prop
  | [] => s.device.session.state = .paired
  | op :: rest => s.device.session.state = .paired ∧ (s.apply site op).StaysPaired site rest

theorem StaysPaired.now {ops : List Op} (h : s.StaysPaired site ops) :
    s.device.session.state = .paired := by
  cases ops with
  | nil => exact h
  | cons op rest => exact h.1

theorem tryWrite_cases (s : Scene) (c : Store.Change) :
    (s.tryWrite c).env.store = s.env.store ∨
      (s.tryWrite c).env.store = s.env.store.apply c := by
  show (s.env.ledger.write c).2.store = _ ∨ (s.env.ledger.write c).2.store = _
  rw [Ledger.write]
  split
  · exact .inl rfl
  · exact .inr rfl

theorem storedCertificate_put {key : String} (h : key ≠ Store.certificateKey) (s : Scene)
    (value : Json) :
    (s.tryWrite (.put s.device.id key value)).storedCertificate = s.storedCertificate := by
  rw [storedCertificate, tryWrite_device, storedCertificate]
  rcases s.tryWrite_cases (.put s.device.id key value) with hsame | hput
  · rw [hsame]
  · rw [hput, Store.find?_put_other _ h]

theorem storedCertificate_puts {changes : List Store.Change}
    (h : ∀ c ∈ changes, ∃ key value,
      c = .put s.device.id key value ∧ key ≠ Store.certificateKey) :
    (changes.foldl tryWrite s).storedCertificate = s.storedCertificate := by
  induction changes generalizing s with
  | nil => rfl
  | cons c rest ih =>
      obtain ⟨key, value, rfl, hkey⟩ := h c List.mem_cons_self
      have hrest := ih (s := s.tryWrite (.put s.device.id key value))
        fun c hc => h c (List.mem_cons_of_mem _ hc)
      rw [List.foldl_cons, hrest, storedCertificate_put hkey]

theorem storedCertificate_learn (s : Scene) (i : PeerIdentity) :
    (s.learn i).storedCertificate = s.storedCertificate := by
  obtain ⟨changes, hfollow, hall⟩ := s.follow_eq i
  have hputs : (changes.foldl tryWrite s).storedCertificate = s.storedCertificate := by
    refine storedCertificate_puts fun c hc => ?_
    obtain ⟨key, value, rfl, rfl | rfl⟩ := hall c hc
    · exact ⟨_, _, rfl, by decide⟩
    · exact ⟨_, _, rfl, by decide⟩
  rw [← hfollow] at hputs
  exact hputs

/-! ## Staying paired -/

variable {allowed : String → Prop}

/-- No aside makes a device paired. -/
theorem Aside.paired (h : Aside site allowed s t)
    (ht : t.device.session.state = .paired) : s.device.session.state = .paired := by
  cases h with
  | quiet hquiet => rw [← hquiet.session]; exact ht
  | reload | switch => exact ht
  | unpair => rw [pair_session, Pairing.Session.turn_unpair] at ht; cases ht

theorem paired_of_asides (h : Asides site allowed s t)
    (ht : t.device.session.state = .paired) : s.device.session.state = .paired := by
  induction h with
  | refl => exact ht
  | tail _ haside ih => exact ih (haside.paired ht)

theorem storedCertificate_asides (hkey : ¬allowed Store.certificateKey)
    (h : Asides site allowed s t) (ht : t.device.session.state = .paired) :
    t.storedCertificate = s.storedCertificate := by
  induction h with
  | refl => rfl
  | tail _ haside ih =>
      refine Eq.trans ?_ (ih (haside.paired ht))
      cases haside with
      | quiet hquiet => rw [storedCertificate, hquiet.id, hquiet.store, storedCertificate]
      | reload => rfl
      | @switch key hallowed enabled =>
          have hother : key ≠ Store.certificateKey := fun heq => hkey (heq ▸ hallowed)
          exact storedCertificate_put hother _ _
      | unpair => rw [pair_session, Pairing.Session.turn_unpair] at ht; cases ht

/-- Only success and the end of trust write settings. -/
theorem performAll_ledger (site : Site) {acts : List Pairing.Action}
    (h : ∀ a ∈ acts, Pairing.Session.Unwritten a) (s : Scene) :
    (acts.foldl (perform site) s).env.ledger = s.env.ledger := by
  induction acts generalizing s with
  | nil => rfl
  | cons a rest ih =>
      rw [List.foldl_cons, ih fun a ha => h a (List.mem_cons_of_mem _ ha)]
      rcases s.perform_cases site a with ⟨event, rfl⟩ | ⟨-, hquiet⟩
      · obtain ⟨hs, hu⟩ := h _ List.mem_cons_self
        cases event with
        | successful => exact absurd rfl hs
        | unpaired => exact absurd rfl hu
        | incomingRequest | failed _ => rfl
      · exact hquiet.env.ledger

/-- The state of a device that ends up paired is not for an aside to decide. -/
theorem lead_paired {op : Op} (h : (s.apply site op).device.session.state = .paired) :
    (s.lead site op).device.session.state = .paired :=
  paired_of_asides (s.asides_of_apply op) h

theorem storedCertificate_pair {i : Pairing.Input} (hs : s.device.session.state = .paired)
    (ht : (s.pair site i).device.session.state = .paired) :
    (s.pair site i).storedCertificate = s.storedCertificate := by
  rw [pair_session] at ht
  have hacts := Pairing.Session.unwritten_of_paired hs ht
  have hstore : (s.pair site i).env.store = s.env.store :=
    congrArg Ledger.store (performAll_ledger site hacts s)
  rw [storedCertificate, (s.steady_pair site i).id, hstore, storedCertificate]

theorem storedCertificate_lead {op : Op} (hs : s.device.session.state = .paired)
    (ht : (s.lead site op).device.session.state = .paired) :
    (s.lead site op).storedCertificate = s.storedCertificate := by
  rcases s.lead_cases site op with ⟨i, hlead⟩ | ⟨i, hlead, -⟩ | ⟨env, rfl⟩ | hlead
  · rw [hlead, storedCertificate_learn]
  · rw [hlead] at ht ⊢
    exact storedCertificate_pair hs ht
  · rfl
  · rw [hlead]

/-- While a device stays paired, no certificate that its links show gets into
settings. -/
theorem storedCertificate_run (hkey : ¬allowed Store.certificateKey) {ops : List Op}
    (ha : s.env.Asks allowed) (hops : ∀ op ∈ ops, op.Within allowed)
    (h : s.StaysPaired site ops) : (s.run site ops).storedCertificate = s.storedCertificate := by
  induction ops generalizing s with
  | nil => rfl
  | cons op rest ih =>
      obtain ⟨hs, hrest⟩ := h
      have hop : op.Within allowed := hops op List.mem_cons_self
      have hlead := storedCertificate_lead hs (lead_paired hrest.now)
      have happly := storedCertificate_asides hkey (s.apply_asides op hop ha) hrest.now
      have hlater := ih (apply_asks hop ha) (fun op h => hops op (List.mem_cons_of_mem _ h))
        hrest
      exact hlater.trans (happly.trans hlead)

/-! ## Becoming paired -/

/-- Only a turn of the session makes a device paired. -/
theorem apply_of_success {op : Op} (hs : s.device.session.state ≠ .paired)
    (ht : (s.apply site op).device.session.state = .paired) :
    ∃ i, s.apply site op = s.pair site i := by
  have hpaired := lead_paired ht
  rcases s.lead_cases site op with ⟨i, hlead⟩ | ⟨i, -, happly⟩ | ⟨env, rfl⟩ | hlead
  · rw [hlead, learn_device] at hpaired
    exact absurd hpaired hs
  · exact ⟨i, happly⟩
  · exact absurd hpaired hs
  · rw [hlead] at hpaired
    exact absurd hpaired hs

/-- When pairing succeeds, settings hold the device as it is known. -/
theorem kept_of_success {i : Pairing.Input} (hl : s.env.ledger.Reliable)
    (hs : s.device.session.state ≠ .paired)
    (ht : (s.pair site i).device.session.state = .paired) :
    (s.pair site i).glimpse.Kept s.device.id := by
  rw [pair_session] at ht
  obtain ⟨before, hacts, hquiet⟩ := Pairing.Session.actions_of_success hs ht
  have hpair : s.pair site i =
      (before.foldl (perform site) s).perform site (.emit .successful) := by
    rw [pair, hacts, List.foldl_append]
    rfl
  have hreliable : (before.foldl (perform site) s).env.ledger.Reliable := by
    rw [performAll_ledger site hquiet]
    exact hl
  have hkept := storeTrust_kept hreliable
  rw [(steady_performAll site before s).id] at hkept
  rw [hpair, perform_successful]
  exact hkept

/-- When pairing succeeds, settings hold the certificate of that moment. -/
theorem storedCertificate_success {op : Op} (hl : s.env.ledger.Reliable)
    (hs : s.device.session.state ≠ .paired)
    (ht : (s.apply site op).device.session.state = .paired) :
    (s.apply site op).storedCertificate =
      some (.str (Text.Base64.encode (s.apply site op).device.details.certificate)) := by
  obtain ⟨i, happly⟩ := apply_of_success hs ht
  rw [happly] at ht ⊢
  have hkept := kept_of_success hl hs ht
  rw [← (s.steady_pair site i).id] at hkept
  exact hkept.certificate

/-- From any point of a run on, so also from where a session opens, a device is known
by the last certificate that its links showed since, or else by the one of that point.
Settings hold the certificate by which it was known when pairing succeeded. Where no
plugin is switched under the very key, that stays as it is for as long as the device is
paired, and so does what a trusted device was restored from. -/
theorem certificate_bound (h : Created site s) (hl : s.env.ledger.Reliable)
    (earlier since : List Op) :
    let start := s.run site earlier
    let now := s.run site (earlier ++ since)
    let shown := (presented s.device.id since).getLastD start.device.details.certificate
    now.device.details.certificate = shown ∧
    now.device.details.fingerprint? =
      Details.fingerprint? { start.device.details with certificate := shown } ∧
    (∀ before op, earlier = before ++ [op] →
      (s.run site before).device.session.state ≠ .paired →
      start.device.session.state = .paired →
      start.storedCertificate =
        some (.str (Text.Base64.encode start.device.details.certificate))) ∧
    (start.env.Asks (· ≠ Store.certificateKey) →
      (∀ op ∈ since, op.Within (· ≠ Store.certificateKey)) →
      start.StaysPaired site since → now.storedCertificate = start.storedCertificate) := by
  intro start now shown
  have hnow : now = start.run site since := s.run_append site earlier since
  have hcert : now.device.details.certificate = shown := by
    rw [hnow, run_certificate, run_id]
  refine ⟨hcert, ?_, ?_, ?_⟩
  · rw [Details.fingerprint?, Details.fingerprint?, hcert]
  · intro before op hearlier hbefore hpaired
    have hrun : s.Fair (s.run site before) ∧ _ := (h.sound hl).run before
    have hstart : start = (s.run site before).apply site op := by
      show s.run site earlier = _
      rw [hearlier, run_append]
      rfl
    rw [hstart] at hpaired ⊢
    exact storedCertificate_success hrun.1.reliable hbefore hpaired
  · intro ha hops hpaired
    rw [hnow]
    exact storedCertificate_run (fun hne => hne rfl) ha hops hpaired

/-- A device that was paired by one certificate and then shows another. -/
theorem certificate_bound_after_pairing :
    let first : PeerIdentity := { id := "peer", certificate := [1] }
    let second : PeerIdentity := { id := "peer", certificate := [2] }
    let s : Scene := { device := .ofIdentity 0 first, env := {} }
    let earlier : List Op := [.attach first "lan", .pairing .request]
    let success : Op := .receive (Pairing.packet 1 true)
    let since : List Op := [.attach second "cable"]
    let now := s.run {} (earlier ++ [success] ++ since)
    now.device.details.certificate = [2] ∧
      now.storedCertificate = some (.str (Text.Base64.encode [1])) := by
  intro first second s earlier success since now
  obtain ⟨hknown, -, hsuccess, hstays⟩ :=
    @certificate_bound {} s (.seen 0 first rfl) (fun _ => rfl) (earlier ++ [success]) since
  refine ⟨hknown, ?_⟩
  have hasks : (s.run {} (earlier ++ [success])).env.Asks (· ≠ Store.certificateKey) := by
    refine run_asks (by simp [earlier, success, Op.Within]) ?_
    intro maker key enabled hmem
    cases hmem
  have hwithin : ∀ op ∈ since, op.Within (· ≠ Store.certificateKey) := by
    simp [since, Op.Within]
  have hpaired : (s.run {} (earlier ++ [success])).StaysPaired {} since :=
    ⟨by decide, by show _ = _; decide⟩
  exact (hstays hasks hwithin hpaired).trans
    (hsuccess earlier success rfl (by decide) (by decide))

/-- A device that asked with one certificate is known by another before it has an
answer. -/
theorem certificate_of_later_link :
    let first : PeerIdentity := { id := "peer", certificate := [1] }
    let second : PeerIdentity := { id := "peer", certificate := [2] }
    let s : Scene := { device := .ofIdentity 0 first, env := {} }
    let opened := s.run {} [.attach first "lan", .pairing .request]
    let later := opened.run {} [.attach second "cable"]
    Created {} s ∧ s.env.ledger.Reliable ∧
      opened.device.session.state = .requested ∧
      later.device.session.state = .requested ∧
      opened.device.details.certificate = [1] ∧
      later.device.details.certificate = [2] := by
  intro first second s opened later
  refine ⟨.seen 0 first rfl, fun _ => rfl, ?_⟩
  decide

end Scene

end Tether
