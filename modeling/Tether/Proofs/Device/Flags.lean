import Tether.Proofs.Hub.Sound

/-!
# Flags of plugins beside the record of a device

Settings keep two things of a device in one scope: the record of a device that is trusted, which
is its certificate, its name and its class, and a flag for every plugin that somebody switched.
Nothing but the keys keeps them apart.

So they are apart as long as the keys are. Switching a plugin writes one value and no other
(`Scene.setPlugin_store`), whatever its key. What is written of the device itself, when a link brings
an identity and when pairing succeeds, is the record, and under every key that is free of it a flag
is left alone (`Scene.Spares`). A plugin whose key is one of the record's own takes its place, and
the record takes the place of the flag of such a plugin.
-/

namespace Tether.Scene

variable {site : Site} {s t u : Scene}

/-! ## What a flag hangs on -/

/-- A plugin is as switched as settings say. -/
theorem isEnabled_of_find? {key : String} (hid : t.device.id = s.device.id)
    (hstore : t.env.store.find? s.device.id key = s.env.store.find? s.device.id key) :
    t.isEnabled site key = s.isEnabled site key := by
  rw [isEnabled, hid, Store.getBool?, hstore]
  rfl

/-- A later scene of the device, with settings that agree under every key that is free. -/
structure Spares (s t : Scene) : Prop where
  id : t.device.id = s.device.id
  reliable : t.env.ledger.Reliable
  free : ∀ key, Store.Free key →
    t.env.store.find? s.device.id key = s.env.store.find? s.device.id key

theorem Spares.trans (h : s.Spares t) (h' : t.Spares u) : s.Spares u := by
  refine ⟨h'.id.trans h.id, h'.reliable, fun key hkey => ?_⟩
  rw [← h.free key hkey, ← h.id]
  exact h'.free key hkey

theorem Spares.of_ledger (hl : s.env.ledger.Reliable) (hid : t.device.id = s.device.id)
    (hledger : t.env.ledger = s.env.ledger) : s.Spares t := by
  refine ⟨hid, by rw [hledger]; exact hl, fun key _ => ?_⟩
  rw [Env.store, hledger]
  rfl

theorem Spares.isEnabled (h : s.Spares t) {key : String} (hkey : Store.Free key) :
    t.isEnabled site key = s.isEnabled site key :=
  isEnabled_of_find? h.id (h.free key hkey)

/-! ## The record -/

/-- What is written under a key of the record spares the flags. -/
theorem spares_put (hl : s.env.ledger.Reliable) {key : String} (hkey : ¬Store.Free key)
    (value : Json) : s.Spares (s.tryWrite (.put s.device.id key value)) := by
  refine ⟨rfl, hl.write _, fun other hother => ?_⟩
  have hne : key ≠ other := fun heq => hkey (heq ▸ hother)
  rw [tryWrite_store hl, Store.find?_put_other _ hne]

/-- What is written to the roll of trusted devices spares the flags. -/
theorem spares_setTrusted (hl : s.env.ledger.Reliable) (trusted : Bool) :
    s.Spares (s.tryWrite (.setTrusted s.device.id trusted)) := by
  refine ⟨rfl, hl.write _, fun other _ => ?_⟩
  rw [tryWrite_store hl, Store.find?_setTrusted]

theorem spares_puts {changes : List Store.Change} (hl : s.env.ledger.Reliable)
    (h : ∀ c ∈ changes, ∃ key value, c = .put s.device.id key value ∧ ¬Store.Free key) :
    s.Spares (changes.foldl tryWrite s) := by
  induction changes generalizing s with
  | nil => exact .of_ledger hl rfl rfl
  | cons c rest ih =>
      obtain ⟨key, value, rfl, hkey⟩ := h _ List.mem_cons_self
      have hfirst := spares_put hl hkey value
      exact hfirst.trans (ih hfirst.reliable fun c hc => h c (List.mem_cons_of_mem _ hc))

theorem spares_learn (hl : s.env.ledger.Reliable) (i : PeerIdentity) : s.Spares (s.learn i) := by
  obtain ⟨changes, hfollow, hall⟩ := s.follow_eq i
  have hputs : s.Spares (s.follow i) := by
    rw [hfollow]
    refine spares_puts hl fun c hc => ?_
    obtain ⟨key, value, rfl, rfl | rfl⟩ := hall c hc
    · exact ⟨_, _, rfl, by simp [Store.Free]⟩
    · exact ⟨_, _, rfl, by simp [Store.Free]⟩
  exact hputs.trans (.of_ledger hputs.reliable rfl rfl)

theorem spares_storeTrust (hl : s.env.ledger.Reliable) : s.Spares s.storeTrust := by
  have hrecord (t : Scene) (ht : t.env.ledger.Reliable) (key value : String)
      (hkey : ¬Store.Free key) : t.Spares (t.tryWrite (.putString t.device.id key value)) :=
    spares_put ht hkey _
  have hcertificate := hrecord s hl Store.certificateKey
    (Text.Base64.encode s.device.details.certificate) (by simp [Store.Free])
  have hname := hcertificate.trans <|
    hrecord _ hcertificate.reliable Store.nameKey s.device.details.name (by simp [Store.Free])
  have hkind := hname.trans <|
    hrecord _ hname.reliable Store.kindKey s.device.details.kind.word (by simp [Store.Free])
  exact hkind.trans (spares_setTrusted hkind.reliable true)

/-- What follows once a link is attached writes nothing. -/
theorem attach_ledger (site : Site) (s : Scene) (i : PeerIdentity) (link : String) :
    (s.attach site i link).2.env.ledger = (s.lead site (.attach i link)).env.ledger := by
  rw [attach, lead]
  by_cases hid : i.id = s.device.id
  · rw [if_neg (fun hne => hne hid), if_pos hid]
    generalize s.learn i = t
    dsimp only
    split
    · rfl
    · next links _ =>
        have hopen := (quiet_openOutbox { t with device.links := links }).env.ledger
        split <;> exact hopen
  · rw [if_pos hid, if_neg hid]

/-- An identity that comes with a link spares the flags. -/
theorem spares_attach (site : Site) (hl : s.env.ledger.Reliable) (i : PeerIdentity)
    (link : String) : s.Spares (s.apply site (.attach i link)) := by
  have hlead : s.Spares (s.lead site (.attach i link)) := by
    rw [lead]
    split
    · exact spares_learn hl i
    · exact .of_ledger hl rfl rfl
  have hid : (s.apply site (.attach i link)).device.id =
      (s.lead site (.attach i link)).device.id := by rw [apply_id, lead_id]
  exact hlead.trans (.of_ledger hlead.reliable hid (s.attach_ledger site i link))

/-- Pairing that succeeds spares the flags. -/
theorem spares_success (site : Site) (hl : s.env.ledger.Reliable) {op : Op}
    (hs : s.device.session.state ≠ .paired)
    (ht : (s.apply site op).device.session.state = .paired) : s.Spares (s.apply site op) := by
  obtain ⟨i, happly⟩ := apply_of_success hs ht
  rw [happly, pair_session] at ht
  obtain ⟨before, hacts, hquiet⟩ := Pairing.Session.actions_of_success hs ht
  have hpair : s.pair site i =
      (before.foldl (perform site) s).perform site (.emit .successful) := by
    rw [pair, hacts, List.foldl_append]
    rfl
  have hbefore : s.Spares (before.foldl (perform site) s) :=
    .of_ledger hl (steady_performAll site before s).id (performAll_ledger site hquiet s)
  rw [happly, hpair, perform_successful]
  exact hbefore.trans <| (spares_storeTrust hbefore.reliable).trans <|
    .of_ledger (spares_storeTrust hbefore.reliable).reliable rfl rfl

/-! ## The flags -/

/-- Switching a plugin writes one value. -/
theorem setPlugin_store (site : Site) (hl : s.env.ledger.Reliable) (key : String)
    (enabled : Bool) :
    (s.setPlugin site key enabled).2.env.store =
      s.env.store.apply (.putBool s.device.id key enabled) := by
  rw [setPlugin, hl.write_eq]
  rfl

/-- An operation that stores trust, or what a link tells of the device. -/
def Records (site : Site) (s : Scene) (op : Op) : Prop :=
  (∃ i link, op = .attach i link) ∨
    s.device.session.state ≠ .paired ∧ (s.apply site op).device.session.state = .paired

/-- At any point of any run, switching a plugin sets its own flag and leaves who is trusted, every
other flag, and all that settings hold under other keys and of other devices as they are. That is
the whole record, too, if the key is free of it. And neither an identity nor success in pairing
changes a flag under a free key. -/
theorem flags_beside_record (site : Site) (s : Scene) (hl : s.env.ledger.Reliable) (ops : List Op)
    (key : String) :
    let now := s.run site ops
    (∀ enabled,
      let later := now.apply site (.setPlugin key enabled)
      later.isEnabled site key = enabled ∧
      (∀ other, key ≠ other → later.isEnabled site other = now.isEnabled site other) ∧
      (∀ id, later.env.store.isTrusted id = now.env.store.isTrusted id) ∧
      (∀ scope other, s.device.id ≠ scope ∨ key ≠ other →
        later.env.store.find? scope other = now.env.store.find? scope other) ∧
      (Store.Free key → ∀ entry ∈ [Store.certificateKey, Store.nameKey, Store.kindKey],
        later.env.store.find? s.device.id entry = now.env.store.find? s.device.id entry)) ∧
    (Store.Free key → ∀ op, now.Records site op →
      (now.apply site op).isEnabled site key = now.isEnabled site key) := by
  intro now
  have hreliable : now.env.ledger.Reliable := (s.rewritten_run site ops).reliable hl
  have hid : now.device.id = s.device.id := run_id site s ops
  refine ⟨fun enabled => ?_, fun hkey op hop => ?_⟩
  · intro later
    have hlater : later.device.id = now.device.id := apply_id site now _
    have hstore : later.env.store = now.env.store.apply (.putBool now.device.id key enabled) :=
      setPlugin_store site hreliable key enabled
    have hothers (scope other : String) (hne : s.device.id ≠ scope ∨ key ≠ other) :
        later.env.store.find? scope other = now.env.store.find? scope other := by
      rw [hstore, Store.Change.putBool, Store.find?_put, if_neg]
      rintro ⟨rfl, rfl⟩
      exact hne.elim (fun h => h hid.symm) fun h => h rfl
    refine ⟨?own, fun other hne => ?beside, fun id => ?trusted, hothers, fun hkey entry hentry => ?_⟩
    case own =>
      rw [isEnabled, Store.getBool?, hlater, hstore, Store.Change.putBool, Store.find?_put_same]
      rfl
    case beside => exact isEnabled_of_find? hlater (hothers _ other (.inr hne))
    case trusted => rw [hstore, Store.Change.putBool, Store.isTrusted_put]
    exact hothers _ entry (.inr fun heq => hkey (heq ▸ hentry))
  · rcases hop with ⟨i, link, rfl⟩ | ⟨hs, ht⟩
    · exact (spares_attach site hreliable i link).isEnabled hkey
    · exact (spares_success site hreliable hs ht).isEnabled hkey

/-- A device that is paired keeps its certificate when a plugin is switched off, and the plugin
stays off when the device gives itself another name. -/
theorem flags_beside_record_renamed :
    let peer : PeerIdentity := { id := "peer", name := some "Phone", certificate := [1] }
    let renamed : PeerIdentity := { id := "peer", name := some "New phone", certificate := [1] }
    let s : Scene := { device := .ofIdentity 0 peer, env := {} }
    let ops : List Op := [.attach peer "lan", .pairing .request, .receive (Pairing.packet 1 true)]
    let muted := s.run {} (ops ++ [.setPlugin "muted" false])
    let later := muted.apply {} (.attach renamed "cable")
    muted.env.store.find? "peer" Store.certificateKey = some (.str (Text.Base64.encode [1])) ∧
      later.env.store.find? "peer" Store.nameKey = some (.str "New phone") ∧
      later.isEnabled {} "muted" = false := by
  intro peer renamed s ops muted later
  have hfree : Store.Free "muted" := show "muted" ∉ _ by decide
  obtain ⟨hswitch, -⟩ := flags_beside_record {} s (fun _ => rfl) ops "muted"
  obtain ⟨hoff, -, -, -, hrecord⟩ := hswitch false
  obtain ⟨-, hupdate⟩ :=
    flags_beside_record {} s (fun _ => rfl) (ops ++ [.setPlugin "muted" false]) "muted"
  have hmuted : muted = (s.run {} ops).apply {} (.setPlugin "muted" false) := by
    show s.run {} (ops ++ _) = _
    rw [run_append]
    rfl
  refine ⟨?_, by decide +kernel, ?_⟩
  · have hsame := hrecord hfree Store.certificateKey List.mem_cons_self
    rw [← hmuted] at hsame
    exact hsame.trans (by decide +kernel)
  · rw [← hmuted] at hoff
    exact (hupdate hfree _ (.inl ⟨renamed, "cable", rfl⟩)).trans hoff

/-- A plugin that is switched under the key of the certificate takes its place, and the device is
restored without one. And a plugin that was switched off under the key of the name is on again
once pairing has succeeded. -/
theorem flag_over_record :
    let peer : PeerIdentity := { id := "peer", name := some "Phone", certificate := [1] }
    let pen : Plugin.Info := { key := "deviceName", name := "Pen" }
    let site : Site := { registry := [("deviceName", pen)] }
    let s : Scene := { device := .ofIdentity 0 peer, env := {} }
    let asked : List Op := [.attach peer "lan", .pairing .request]
    let paired := s.run site (asked ++ [.receive (Pairing.packet 1 true)])
    let switched := paired.apply site (.setPlugin "certificate" true)
    let off := s.run site (asked ++ [.setPlugin "deviceName" false])
    let success := off.apply site (.receive (Pairing.packet 1 true))
    Created site s ∧ s.env.ledger.Reliable ∧
      (paired.device.session.state = .paired ∧
        paired.storedCertificate = some (.str (Text.Base64.encode [1])) ∧
        switched.storedCertificate = some (.bool true) ∧
        (Device.ofTrusted site 1 paired.env.store "peer").details.certificate = [1] ∧
        (Device.ofTrusted site 1 switched.env.store "peer").details.certificate = []) ∧
      off.Records site (.receive (Pairing.packet 1 true)) ∧
      off.isEnabled site "deviceName" = false ∧ success.isEnabled site "deviceName" = true := by
  intro peer pen site s asked paired switched off success
  refine ⟨.seen 0 peer rfl, fun _ => rfl, ?_, .inr ?_, ?_⟩
  · decide +kernel
  · decide +kernel
  · decide +kernel

end Tether.Scene
