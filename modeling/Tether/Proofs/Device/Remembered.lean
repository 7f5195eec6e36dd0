import Tether.Proofs.Device.Refusal
import Tether.Proofs.Settings.Reference

/-!
# What settings remember of a device

A device writes only what concerns itself, and it writes it through the operations that settings
have (`Rewritten`). So where there are many devices over the same settings, what settings hold of
one of them is not touched by what is done to the others.

As long as writes do not fail, settings hold the name and the class of a paired device as they are
known (`Named`). They are written when pairing succeeds, and whenever an identity brings other ones
while the device is paired. The certificate is written only once, when pairing succeeds; whatever
the links show later, that one stays (`apply_certificate`).

All of this is about what is written under one id. That a device keeps its id is known
(`apply_id`). It keeps its number too, by which it is found among others (`apply_ref`).
-/

namespace Tether

namespace Store

/-- The id that a change concerns. -/
def Change.about : Change → String
  | put scope _ _ => scope
  | remove scope _ => scope
  | clearScope scope => scope
  | setTrusted id _ => id

variable {c : Change} {name : String}

/-- A change leaves the values of other ids alone. -/
theorem find?_apply_other (s : Store) (h : c.about ≠ name) (key : String) :
    (s.apply c).find? name key = s.find? name key := by
  cases c with
  | put scope other value => rw [find?_put, if_neg fun hboth => h hboth.1]
  | remove scope other => rw [find?_remove, if_neg fun hboth => h hboth.1]
  | clearScope scope => rw [find?_clearScope, if_neg (show ¬scope = name from h)]
  | setTrusted id trusted => rw [find?_setTrusted]

/-- A change leaves trust in other ids alone. -/
theorem isTrusted_apply_other (s : Store) (h : c.about ≠ name) :
    (s.apply c).isTrusted name = s.isTrusted name := by
  cases c with
  | put scope key value => rfl
  | remove scope key => rw [isTrusted_remove]
  | clearScope scope => rfl
  | setTrusted id trusted =>
      have hne : name ≠ id := fun heq => h heq.symm
      cases trusted <;> simp [isTrusted, apply, hne]

end Store

namespace Ledger

/-- Operations on settings that concern an id were carried out. -/
def Rewritten (id : String) (l l' : Ledger) : Prop :=
  ∃ edits : List Settings.Edit, (∀ e ∈ edits, e.change.about = id) ∧
    l' = l.tryAll (edits.map Settings.Edit.change)

variable {l l' l'' : Ledger} {id : String}

theorem Rewritten.refl (id : String) (l : Ledger) : l.Rewritten id l :=
  ⟨[], List.forall_mem_nil _, rfl⟩

theorem Rewritten.of_eq (h : l' = l) : l.Rewritten id l' :=
  h ▸ .refl id l

theorem Rewritten.trans (h : l.Rewritten id l') (h' : l'.Rewritten id l'') :
    l.Rewritten id l'' := by
  obtain ⟨edits, habout, rfl⟩ := h
  obtain ⟨more, habout', rfl⟩ := h'
  refine ⟨edits ++ more, List.forall_mem_append.mpr ⟨habout, habout'⟩, ?_⟩
  rw [List.map_append, tryAll, tryAll, tryAll, List.foldl_append]

theorem Rewritten.before (h : l.Rewritten id l') : l.Before l' := by
  obtain ⟨edits, -, rfl⟩ := h
  exact before_tryAll l _

theorem Rewritten.reliable (h : l.Rewritten id l') (hl : l.Reliable) : l'.Reliable := by
  intro n
  rw [h.before.refusal]
  exact hl n

/-- What is not about an id does not change what settings have of it. -/
theorem Rewritten.other (h : l.Rewritten id l') {name : String} (hne : id ≠ name) :
    (∀ key, l'.store.find? name key = l.store.find? name key) ∧
      l'.store.isTrusted name = l.store.isTrusted name := by
  obtain ⟨edits, habout, rfl⟩ := h
  refine tryAll_of_apply (P := fun s => (∀ key, s.find? name key = l.store.find? name key) ∧
    s.isTrusted name = l.store.isTrusted name) ?_ ⟨fun _ => rfl, rfl⟩
  intro c hc s hs
  obtain ⟨e, he, rfl⟩ := List.mem_map.mp hc
  have hother : e.change.about ≠ name := habout e he ▸ hne
  exact ⟨fun key => (s.find?_apply_other hother key).trans (hs.1 key),
    (s.isTrusted_apply_other hother).trans hs.2⟩

end Ledger

namespace Scene

variable {site : Site} {allowed : String → Prop} {s t : Scene}

/-! ## The number of a device -/

theorem foldl_ref {α : Type} {f : Scene → α → Scene}
    (h : ∀ s x, (f s x).device.ref = s.device.ref) (items : List α) (s : Scene) :
    (items.foldl f s).device.ref = s.device.ref := by
  induction items generalizing s with
  | nil => rfl
  | cons x rest ih => rw [List.foldl_cons, ih, h]

theorem send_device (s : Scene) (p : Packet) (replace : Option Nat) (c : Callback) :
    (s.send p replace c).device = s.device := by
  rw [send]
  split <;> rfl

theorem takeBack_device (s : Scene) (replace : Nat) : (s.takeBack replace).2.device = s.device := by
  rw [takeBack]
  split <;> rfl

theorem sendBlocking_device (site : Site) (s : Scene) (name : String) (p : Packet) (c : Callback)
    (sameThread : Bool) : (s.sendBlocking site name p c sameThread).device = s.device := by
  simp only [sendBlocking]
  split <;> rfl

theorem openOutbox_ref (s : Scene) : s.openOutbox.device.ref = s.device.ref := by
  rw [openOutbox]
  split <;> rfl

theorem closeOutbox_ref (s : Scene) : s.closeOutbox.device.ref = s.device.ref := by
  rw [closeOutbox]
  split <;> rfl

theorem setPlugin_ref (site : Site) (s : Scene) (key : String) (enabled : Bool) :
    (s.setPlugin site key enabled).2.device.ref = s.device.ref := by
  rw [setPlugin]
  split <;> rfl

theorem reloadOnce_ref (site : Site) (s : Scene) :
    (s.reloadOnce site).device.ref = s.device.ref := by
  rw [reloadOnce]
  split <;> rfl

theorem perform_ref (site : Site) (s : Scene) (a : Pairing.Action) :
    (s.perform site a).device.ref = s.device.ref := by
  cases a with
  | enter | startTimer | cancelTimer => rfl
  | send pair => exact congrArg Device.ref (send_device _ _ _ _)
  | emit event => cases event <;> rfl

theorem pair_ref (site : Site) (s : Scene) (i : Pairing.Input) :
    (s.pair site i).device.ref = s.device.ref :=
  foldl_ref (perform_ref site) _ s

theorem obey_ref (site : Site) (i : Plugin.Instance) (p : Packet) (s : Scene)
    (r : Plugin.Request) : (obey site i p s r).device.ref = s.device.ref := by
  cases r with
  | reply type => exact congrArg Device.ref (s.send_device _ none _)
  | replyInPlace type replace => exact congrArg Device.ref (s.send_device _ _ _)
  | unpair => exact s.pair_ref site .unpair
  | setPlugin key enabled => exact s.setPlugin_ref site key enabled

theorem dispatch_ref (site : Site) (s : Scene) (p : Packet) (paired : Bool) :
    (s.dispatch site p paired).device.ref = s.device.ref :=
  foldl_ref (fun s i => foldl_ref (obey_ref site i p) _
    { s with env := (s.env.call fun shop => shop.handle i paired p).2 }) _ s

theorem attach_ref (site : Site) (s : Scene) (i : PeerIdentity) (link : String) :
    (s.attach site i link).2.device.ref = s.device.ref := by
  have hlearn : (s.learn i).device.ref = s.device.ref := by rw [learn_device]
  rw [attach]
  split
  · rfl
  · rw [← hlearn]
    generalize s.learn i = t
    dsimp only
    split
    · rfl
    · next links _ =>
        have hopen := openOutbox_ref { t with device.links := links }
        split <;> exact hopen

theorem detach_ref (site : Site) (s : Scene) (link : String) :
    (s.detach site link).2.device.ref = s.device.ref := by
  rw [detach]
  split
  · rfl
  · dsimp only
    split
    · exact closeOutbox_ref _
    · rfl

theorem receive_ref (site : Site) (s : Scene) (p : Packet) :
    (s.receive site p).device.ref = s.device.ref := by
  rw [receive]
  split
  · exact s.pair_ref site _
  · split
    · rw [dispatch_ref, reloadOnce_ref]
    · rw [dispatch_ref, pair_ref]

/-- A device has the same number after an operation. -/
theorem apply_ref (site : Site) (s : Scene) (op : Op) :
    (s.apply site op).device.ref = s.device.ref := by
  cases op with
  | attach i link => exact s.attach_ref site i link
  | detach link => exact s.detach_ref site link
  | receive p => exact s.receive_ref site p
  | pairing i => exact s.pair_ref site i
  | setPlugin key enabled => exact s.setPlugin_ref site key enabled
  | send p replace callback => exact congrArg Device.ref (s.send_device p replace callback)
  | takeBack replace => exact congrArg Device.ref (s.takeBack_device replace)
  | sendBlocking name p callback sameThread =>
      exact congrArg Device.ref (s.sendBlocking_device site name p callback sameThread)
  | _ => rfl

theorem run_ref (site : Site) (s : Scene) (ops : List Op) :
    (s.run site ops).device.ref = s.device.ref :=
  foldl_ref (apply_ref site) ops s

/-! ## What is written -/

theorem rewritten_writes {edits : List Settings.Edit} {id : String}
    (h : ∀ e ∈ edits, e.change.about = id) (s : Scene) :
    s.env.ledger.Rewritten id ((edits.map Settings.Edit.change).foldl tryWrite s).env.ledger := by
  refine ⟨edits, h, ?_⟩
  generalize edits.map Settings.Edit.change = changes
  induction changes generalizing s with
  | nil => rfl
  | cons c rest ih => exact ih (s.tryWrite c)

theorem rewritten_perform (site : Site) (s : Scene) (a : Pairing.Action) :
    s.env.ledger.Rewritten s.device.id (s.perform site a).env.ledger := by
  rcases s.perform_cases site a with ⟨event, rfl⟩ | ⟨-, hquiet⟩
  · cases event with
    | successful =>
        exact ⟨[.putString s.device.id Store.certificateKey
            (Text.Base64.encode s.device.details.certificate),
          .putString s.device.id Store.nameKey s.device.details.name,
          .putString s.device.id Store.kindKey s.device.details.kind.word,
          .setTrusted s.device.id true], by simp [Settings.Edit.change, Store.Change.putString,
            Store.Change.about], rfl⟩
    | unpaired =>
        exact ⟨[.setTrusted s.device.id false, .clearScope s.device.id],
          by simp [Settings.Edit.change, Store.Change.about], rfl⟩
    | incomingRequest | failed _ => exact .refl _ _
  · exact .of_eq hquiet.env.ledger

theorem rewritten_pair (site : Site) (s : Scene) (i : Pairing.Input) :
    s.env.ledger.Rewritten s.device.id (s.pair site i).env.ledger := by
  rw [pair]
  generalize s.device.session.actions s.around i = acts
  induction acts generalizing s with
  | nil => exact .refl _ _
  | cons a rest ih =>
      have hrest := ih (s.perform site a)
      rw [(s.steady_perform site a).id] at hrest
      exact (s.rewritten_perform site a).trans hrest

theorem rewritten_learn (s : Scene) (i : PeerIdentity) :
    s.env.ledger.Rewritten s.device.id (s.learn i).env.ledger := by
  obtain ⟨changes, hfollow, hall⟩ := s.follow_eq i
  obtain ⟨edits, rfl, habout⟩ : ∃ edits : List Settings.Edit,
      edits.map Settings.Edit.change = changes ∧ ∀ e ∈ edits, e.change.about = s.device.id := by
    clear hfollow
    induction changes with
    | nil => exact ⟨[], rfl, List.forall_mem_nil _⟩
    | cons c rest ih =>
        obtain ⟨hc, hrest⟩ := List.forall_mem_cons.mp hall
        obtain ⟨key, value, rfl, -⟩ := hc
        obtain ⟨edits, rfl, habout⟩ := ih hrest
        exact ⟨.putString s.device.id key value :: edits, rfl,
          List.forall_mem_cons.mpr ⟨rfl, habout⟩⟩
  rw [learn, hfollow]
  exact rewritten_writes habout s

theorem Aside.rewritten (h : Aside site allowed s t) :
    s.env.ledger.Rewritten s.device.id t.env.ledger := by
  cases h with
  | quiet hquiet => exact .of_eq hquiet.env.ledger
  | reload => exact .refl _ _
  | @switch key _ enabled =>
      exact ⟨[.putBool s.device.id key enabled], List.forall_mem_singleton.mpr rfl, rfl⟩
  | unpair => exact s.rewritten_pair site _

theorem rewritten_asides (h : Asides site allowed s t) :
    s.env.ledger.Rewritten s.device.id t.env.ledger := by
  induction h with
  | refl => exact .refl _ _
  | tail hearlier hlast ih =>
      have hrest := hlast.rewritten
      rw [(steady_of_asides hearlier).id] at hrest
      exact ih.trans hrest

theorem rewritten_lead (site : Site) (s : Scene) (op : Op) :
    s.env.ledger.Rewritten s.device.id (s.lead site op).env.ledger := by
  rcases s.lead_cases site op with ⟨i, hlead⟩ | ⟨i, hlead, -⟩ | ⟨env, rfl⟩ | hlead
  · rw [hlead]
    exact s.rewritten_learn i
  · rw [hlead]
    exact s.rewritten_pair site i
  · exact .refl _ _
  · rw [hlead]
    exact .refl _ _

/-- An operation writes what concerns the device, and nothing else. -/
theorem rewritten_apply (site : Site) (s : Scene) (op : Op) :
    s.env.ledger.Rewritten s.device.id (s.apply site op).env.ledger := by
  have hasides := rewritten_asides (@asides_of_apply site s op)
  rw [lead_id] at hasides
  exact (s.rewritten_lead site op).trans hasides

theorem rewritten_run (site : Site) (s : Scene) (ops : List Op) :
    s.env.ledger.Rewritten s.device.id (s.run site ops).env.ledger := by
  induction ops generalizing s with
  | nil => exact .refl _ _
  | cons op rest ih =>
      have hrest := ih (s.apply site op)
      rw [apply_id] at hrest
      exact (s.rewritten_apply site op).trans hrest

/-! ## Name and class -/

/-- Settings hold the name and the class of the device, if it is paired. -/
def Named (s : Scene) : Prop :=
  s.device.session.state = .paired →
    s.env.store.find? s.device.id Store.nameKey = some (.str s.device.details.name) ∧
      s.env.store.find? s.device.id Store.kindKey = some (.str s.device.details.kind.word)

theorem tryWrite_store (hl : s.env.ledger.Reliable) (c : Store.Change) :
    (s.tryWrite c).env.store = s.env.store.apply c :=
  writes_store [c] hl

/-- What an identity tells of one thing takes the place of what settings held of it. -/
theorem find?_field (hl : s.env.ledger.Reliable) (hp : s.device.isPaired = true)
    {key old : String} (hold : s.env.store.find? s.device.id key = some (.str old))
    (new : Option String) :
    let t := new.elim s fun new =>
      if s.device.isPaired ∧ new ≠ old then s.tryWrite (.putString s.device.id key new) else s
    t.env.ledger.Reliable ∧
      t.env.store.find? s.device.id key = some (.str (new.getD old)) ∧
      ∀ other, key ≠ other →
        t.env.store.find? s.device.id other = s.env.store.find? s.device.id other := by
  cases new with
  | none => exact ⟨hl, hold, fun _ _ => rfl⟩
  | some new =>
      rw [Option.elim_some, Option.getD_some]
      by_cases hsame : new = old
      · rw [if_neg fun h => h.2 hsame, hsame]
        exact ⟨hl, hold, fun _ _ => rfl⟩
      · rw [if_pos ⟨hp, hsame⟩]
        refine ⟨hl.write _, ?_, fun other hother => ?_⟩
        · rw [tryWrite_store hl]
          exact Store.find?_put_same _ _ _ _
        · rw [tryWrite_store hl]
          exact Store.find?_put_other _ hother _ _

theorem Named.learn (h : s.Named) (hl : s.env.ledger.Reliable) (i : PeerIdentity) :
    (s.learn i).Named := by
  intro hpaired
  rw [learn_device] at hpaired
  obtain ⟨hname, hkind⟩ := h hpaired
  have hp : s.device.isPaired = true := isPaired_iff.mpr hpaired
  obtain ⟨named, hnamed⟩ : ∃ named, named = i.name.elim s fun new =>
      if s.device.isPaired ∧ new ≠ s.device.details.name then
        s.tryWrite (.putString s.device.id Store.nameKey new)
      else s := ⟨_, rfl⟩
  have hdevice : named.device = s.device := by
    obtain ⟨changes, heq, -⟩ := writes_of_field s Store.nameKey s.device.details.name i.name
    rw [hnamed, heq, writes_device]
  obtain ⟨hl', hname', hothers⟩ := find?_field hl hp hname i.name
  rw [← hnamed] at hl' hname' hothers
  have hkind' : named.env.store.find? named.device.id Store.kindKey =
      some (.str s.device.details.kind.word) := by
    rw [hdevice, hothers _ (by decide), hkind]
  obtain ⟨-, hkinded, hothers'⟩ :=
    find?_field hl' (hdevice ▸ hp) hkind' (i.kind.map DeviceKind.word)
  have hfollow : s.follow i = (i.kind.map DeviceKind.word).elim named fun new =>
      if named.device.isPaired ∧ new ≠ s.device.details.kind.word then
        named.tryWrite (.putString named.device.id Store.kindKey new)
      else named := by
    rw [hdevice, hnamed, follow]
    cases i.name <;> cases i.kind <;> rfl
  rw [← hfollow, hdevice] at hkinded hothers'
  have hid : (s.learn i).device.id = s.device.id := by rw [learn_device]
  have hdetails : (s.learn i).device.details = s.device.details.merge i := by rw [learn_device]
  rw [hid, hdetails]
  constructor
  · exact (hothers' _ (by decide)).trans hname'
  · refine hkinded.trans ?_
    cases hkind : i.kind <;> simp [Details.merge, hkind]

theorem Named.pair (h : s.Named) (hl : s.env.ledger.Reliable) (i : Pairing.Input) :
    (s.pair site i).Named := by
  intro hpaired
  have hsteady := s.steady_pair site i
  rw [hsteady.id]
  by_cases hs : s.device.session.state = .paired
  · have hpaired' := hpaired
    rw [pair_session] at hpaired'
    have hacts := Pairing.Session.unwritten_of_paired hs hpaired'
    have hstore : (s.pair site i).env.store = s.env.store :=
      congrArg Ledger.store (performAll_ledger site hacts s)
    rw [hstore, hsteady.details]
    exact h hs
  · have hkept := kept_of_success hl hs hpaired
    exact ⟨hkept.name, hkept.kind⟩

theorem Named.aside (h : s.Named) (hl : s.env.ledger.Reliable)
    (hname : ¬allowed Store.nameKey) (hkind : ¬allowed Store.kindKey)
    (ht : Aside site allowed s t) : t.Named := by
  cases ht with
  | quiet hquiet =>
      intro hpaired
      rw [hquiet.id, hquiet.details, hquiet.store]
      exact h (hquiet.session ▸ hpaired)
  | reload => exact h
  | @switch key hkey enabled =>
      intro hpaired
      rw [tryWrite_device, tryWrite_store hl]
      have hothers : ∀ other, ¬allowed other →
          (s.env.store.apply (.putBool s.device.id key enabled)).find? s.device.id other =
            s.env.store.find? s.device.id other := fun other hother =>
        Store.find?_put_other _ (fun heq : key = other => hother (heq ▸ hkey)) _ _
      rw [hothers _ hname, hothers _ hkind]
      exact h hpaired
  | unpair => exact h.pair hl _

theorem Named.asides (h : s.Named) (hl : s.env.ledger.Reliable)
    (hname : ¬allowed Store.nameKey) (hkind : ¬allowed Store.kindKey)
    (ht : Asides site allowed s t) : t.Named := by
  induction ht with
  | refl => exact h
  | tail hearlier hlast ih =>
      exact ih.aside ((rewritten_asides hearlier).reliable hl) hname hkind hlast

theorem Named.lead (h : s.Named) (hl : s.env.ledger.Reliable) (op : Op) :
    (s.lead site op).Named := by
  rcases s.lead_cases site op with ⟨i, hlead⟩ | ⟨i, hlead, -⟩ | ⟨env, rfl⟩ | hlead
  · rw [hlead]
    exact h.learn hl i
  · rw [hlead]
    exact h.pair hl i
  · exact h
  · rw [hlead]
    exact h

/-- Settings hold the name and the class of a paired device after an operation. -/
theorem Named.apply (h : s.Named) (hl : s.env.ledger.Reliable) {op : Op}
    (hop : Asides site allowed (s.lead site op) (s.apply site op))
    (hname : ¬allowed Store.nameKey) (hkind : ¬allowed Store.kindKey) : (s.apply site op).Named :=
  (h.lead hl op).asides ((s.rewritten_lead site op).reliable hl) hname hkind hop

theorem Named.run (h : s.Named) (hl : s.env.ledger.Reliable) {ops : List Op}
    (hops : ∀ op ∈ ops, op.Within allowed) (ha : s.env.Asks allowed)
    (hname : ¬allowed Store.nameKey) (hkind : ¬allowed Store.kindKey) : (s.run site ops).Named := by
  induction ops generalizing s with
  | nil => exact h
  | cons op rest ih =>
      obtain ⟨hop, hrest⟩ := List.forall_mem_cons.mp hops
      exact ih (h.apply hl (s.apply_asides op hop ha) hname hkind) ((s.rewritten_apply site op).reliable hl) hrest
        (apply_asks hop ha)

/-! ## The certificate -/

/-- A device that is paired after an operation was so before, and settings hold the certificate
that they held; or it became paired, and they hold the one by which it is known. -/
theorem apply_certificate (site : Site) (hl : s.env.ledger.Reliable) {op : Op}
    (hop : op.Within allowed) (ha : s.env.Asks allowed) (hkey : ¬allowed Store.certificateKey)
    (ht : (s.apply site op).device.session.state = .paired) :
    s.device.session.state = .paired ∧
        (s.apply site op).storedCertificate = s.storedCertificate ∨
      s.device.session.state ≠ .paired ∧ (s.apply site op).storedCertificate =
        some (.str (Text.Base64.encode (s.apply site op).device.details.certificate)) := by
  by_cases hs : s.device.session.state = .paired
  · have hstays : s.StaysPaired site [op] := ⟨hs, ht⟩
    exact .inl ⟨hs, storedCertificate_run hkey ha (List.forall_mem_singleton.mpr hop) hstays⟩
  · exact .inr ⟨hs, storedCertificate_success hl hs ht⟩

end Scene

end Tether
