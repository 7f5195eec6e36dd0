import Tether.Proofs.Device.Loss
import Tether.Proofs.Hub.Sound

/-!
# Runs of a hub

A run is a list of operations on a hub and on the devices that it knows, in any order and with any
arguments. Jobs are done in between, for devices that are known and for others, and anything may go
on around the devices.

Two things are followed along a run. Settings are changed by the operations that settings have, so
that whatever keeps settings can be made to follow (`Step.edits`). And of the certificate that
settings hold of a paired device it is known where it comes from: it is the one by which the device
was known when it became paired for the last time (`Certified`). Both are read off one operation at
a time (`Sound.apply`), and the second needs that no operation has a device leave the paired state
and come back to it.
-/

namespace Tether.Hub

/-- Something that happens to a hub. -/
inductive Op where
  /-- Devices that are trusted are added from settings. -/
  | load
  | connect (i : PeerIdentity) (link : String)
  | disconnected (id link : String)
  | forget (id : String)
  /-- Something happens to a device that is known. -/
  | visit (id : String) (op : Tether.Op)
  /-- A job is done, whichever device it is for. -/
  | job (job : Job)
  /-- Whoever kept a forgotten device lets it go. -/
  | release (ref : Nat)
  /-- Whatever goes on around the devices makes their environment this one. -/
  | elsewhere (env : Env)

/-- Another environment, with the same settings. -/
def elsewhere (h : Hub) (env : Env) : Hub :=
  { h with world.env := { env with ledger := h.world.env.ledger } }

/-- The hub after an operation. Devices that are known are kept by the hub. -/
def apply (site : Site) (h : Hub) : Op → Hub
  | .load => (h.load site).2
  | .connect i link => (h.connect site i link).2
  | .disconnected id link => (h.disconnected site id link).2
  | .forget id => (h.forget site id).2
  | .visit id op => (h.visit id fun s => ((), s.apply site op)).2
  | .job job => { h with world := h.world.perform site job }
  | .release ref =>
      if ref ∈ Dict.values h.known then h else { h with world := h.world.release ref }
  | .elsewhere env => h.elsewhere env

/-- The hub after operations. -/
def run (site : Site) (h : Hub) (ops : List Op) : Hub :=
  ops.foldl (apply site) h

/-- An operation switches only plugins with allowed keys, and leaves only such plugins to be asked
for. -/
def Op.Within (allowed : String → Prop) : Op → Prop
  | visit _ op => op.Within allowed
  | elsewhere env => env.Asks allowed
  | _ => True

variable {site : Site} {h h' h'' : Hub} {id : String} {d : Device}

/-! ## One operation -/

/-- What an operation comes to. A device that is paired after it was so before, and settings hold
the certificate that they held; or it became paired, and they hold the one by which it is known. -/
structure Step (h h' : Hub) : Prop where
  sound : h'.Sound
  edits : ∃ edits : List Settings.Edit,
    h'.world.env.ledger = h.world.env.ledger.tryAll (edits.map Settings.Edit.change)
  certificate : ∀ id d, h'.device? id = some d → d.session.state = .paired →
    h.Pairs id ∧ h'.certificate id = h.certificate id ∨
      ¬h.Pairs id ∧
        h'.certificate id = some (.str (Text.Base64.encode d.details.certificate))

theorem Keeps.pairs (hk : h.Keeps h') (id : String) : h'.Pairs id ↔ h.Pairs id := by
  rw [Pairs, hk.devices, Pairs]

theorem Keeps.certificate (hk : h.Keeps h') (id : String) :
    h'.certificate id = h.certificate id := by
  rw [Hub.certificate, store, Env.store, hk.ledger]
  rfl

theorem Keeps.step (hk : h.Keeps h') : h.Step h' :=
  ⟨hk.sound, ⟨[], hk.ledger⟩, fun id d hd hpaired =>
    .inl ⟨(hk.pairs id).mp ⟨d, hd, hpaired⟩, hk.certificate id⟩⟩

theorem Step.keeps (hstep : h.Step h') (hk : h'.Keeps h'') : h.Step h'' := by
  obtain ⟨edits, hedits⟩ := hstep.edits
  refine ⟨hk.sound, ⟨edits, hk.ledger.trans hedits⟩, fun id d hd hpaired => ?_⟩
  rw [hk.certificate id]
  exact hstep.certificate id d ((hk.devices id).symm.trans hd) hpaired

/-- What concerns one device is to be looked at for that device. -/
theorem Step.of_concerns (hc : h.Concerns id h')
    (hid : ∀ d, h'.device? id = some d → d.session.state = .paired →
      h.Pairs id ∧ h'.certificate id = h.certificate id ∨
        ¬h.Pairs id ∧
          h'.certificate id = some (.str (Text.Base64.encode d.details.certificate))) :
    h.Step h' := by
  obtain ⟨edits, -, hedits⟩ := hc.rewritten
  refine ⟨hc.sound, ⟨edits, hedits⟩, fun other d hd hpaired => ?_⟩
  by_cases heq : id = other
  · subst heq
    exact hid d hd hpaired
  · rw [hc.others other heq] at hd
    exact .inl ⟨⟨d, hd, hpaired⟩, (hc.rewritten.other heq).1 _⟩

/-- An operation on a device that is known. -/
theorem Sound.visit (hs : h.Sound) (hd : h.device? id = some d) {op : Tether.Op}
    (hop : op.Within Store.Free) : h.Step (h.act site d.ref [op]) := by
  have hid : (h.scene d).device.id = id := (hs.known hd).2.2
  have henv := act_env site hs.toFormed hd [op]
  refine .of_concerns (hs.act site hd (List.forall_mem_singleton.mpr hop)) fun d' hd' hpaired => ?_
  rw [device?_act site hs.toFormed hd, if_pos rfl] at hd'
  cases hd'
  have hcertificate := Scene.apply_certificate site hs.reliable hop hs.asks
    (by simp [Store.Free]) hpaired
  have hold : h.Pairs id ↔ (h.scene d).device.session.state = .paired :=
    (hs.trusted id).symm.trans (hid ▸ (hs.scene hd).honest)
  have hstored : (h.act site d.ref [op]).certificate id =
      ((h.scene d).apply site op).storedCertificate := by
    rw [certificate, store, henv, Scene.storedCertificate, Scene.apply_id, hid]
    rfl
  have hstored' : (h.scene d).storedCertificate = h.certificate id := by
    rw [Scene.storedCertificate, hid]
    rfl
  rw [hstored'] at hcertificate
  rw [hold, hstored]
  exact hcertificate

theorem visit_known (hf : h.Formed) (hd : h.device? id = some d) {α : Type}
    (f : Scene → α × Scene) :
    (h.visit id f).2 = { h with world := h.world.act d.ref fun s => (f s).2 } := by
  obtain ⟨hknown, hdevice, -⟩ := hf.known hd
  simp only [visit, hknown, World.act, World.visit, hdevice]

/-- What is done to a device that may be known or not. -/
theorem visit_cases (hform : h.Formed) (id : String) (op : Tether.Op) {α : Type}
    {f : Scene → α × Scene} (hf : ∀ s, (f s).2 = s.apply site op) :
    (h.visit id f).2 = h ∨
      ∃ d, h.device? id = some d ∧ (h.visit id f).2 = h.act site d.ref [op] := by
  cases hknown : Dict.find? h.known id with
  | none =>
      rw [Hub.visit, hknown]
      exact .inl rfl
  | some ref =>
      obtain ⟨d, hd, -⟩ := hform.device hknown
      rw [visit_known hform hd, funext hf]
      exact .inr ⟨d, hd, rfl⟩

theorem Sound.visits (hs : h.Sound) (id : String) (op : Tether.Op) {α : Type}
    {f : Scene → α × Scene} (hf : ∀ s, (f s).2 = s.apply site op) (hop : op.Within Store.Free) :
    h.Step (h.visit id f).2 := by
  rcases visit_cases hs.toFormed id op hf with hsame | ⟨d, hd, hact⟩
  · rw [hsame]
    exact (Keeps.refl hs).step
  · rw [hact]
    exact hs.visit hd hop

/-- All that is trusted is known already. -/
theorem Sound.load (hs : h.Sound) : (h.load site).2 = h := by
  have hknown : ∀ id ∈ h.store.trusted, Dict.has h.known id = true := by
    intro id hid
    obtain ⟨d, hd, -⟩ := (hs.trusted id).mp (List.contains_iff_mem.mpr hid)
    rw [Dict.has, (hs.known hd).1]
    rfl
  show h.store.trusted.foldl (restore site) h = h
  generalize h.store.trusted = ids at hknown
  induction ids with
  | nil => rfl
  | cons id rest ih =>
      obtain ⟨hid, hrest⟩ := List.forall_mem_cons.mp hknown
      rw [List.foldl_cons, restore, if_pos hid]
      exact ih hrest

theorem connect_known {i : PeerIdentity} {link : String} {ref : Nat}
    (hknown : Dict.find? h.known i.id = some ref) :
    (h.connect site i link).2 = h.act site ref [.attach i link] := by
  simp only [connect, hknown, act, World.act, World.visit]
  cases h.world.device? ref with
  | none => rfl
  | some d =>
      dsimp only
      split <;> rfl

theorem connect_unknown {i : PeerIdentity} {link : String}
    (hknown : Dict.find? h.known i.id = none) :
    (h.connect site i link).2 =
      (h.add i.id fun ref => .ofIdentity ref i).2.act site h.world.born [.attach i link] := by
  have hput : Dict.find? (h.add i.id fun ref => .ofIdentity ref i).2.known i.id =
      some h.world.born := Dict.find?_put_self i.id h.world.born h.known
  rw [← connect_known hput, connect, connect, hknown, hput]
  rfl

/-- A device that is added by its first link is not paired, and the link does not change that. -/
theorem Sound.connect (hs : h.Sound) (i : PeerIdentity) (link : String) :
    h.Step (h.connect site i link).2 := by
  cases hknown : Dict.find? h.known i.id with
  | some ref =>
      obtain ⟨d, hd, rfl, -⟩ := hs.device hknown
      rw [connect_known hknown]
      exact hs.visit hd trivial
  | none =>
      obtain ⟨fresh, hfresh⟩ : ∃ fresh, fresh = Device.ofIdentity h.world.born i := ⟨_, rfl⟩
      have href : h.world.born = fresh.ref := by rw [hfresh]; rfl
      have hadded : h.Concerns i.id (h.add i.id fun ref => .ofIdentity ref i).2 :=
        hs.add hknown rfl rfl (by rintro ⟨⟩)
      have hnew : (h.add i.id fun ref => .ofIdentity ref i).2.device? i.id = some fresh := by
        rw [hfresh, device?_add hs.toFormed rfl, if_pos rfl]
      rw [connect_unknown hknown, href]
      generalize (h.add i.id fun ref => .ofIdentity ref i).2 = added at hadded hnew
      have hop : ∀ op ∈ [Tether.Op.attach i link], op.Within Store.Free :=
        List.forall_mem_singleton.mpr trivial
      refine .of_concerns (hadded.trans (hadded.sound.act site hnew hop)) fun d hd hpaired => ?_
      rw [device?_act site hadded.sound.toFormed hnew, if_pos rfl] at hd
      cases hd
      have hsession : ((added.scene fresh).run site [.attach i link]).device.session = {} := by
        refine (Scene.attach_session site (added.scene fresh) i link).trans ?_
        rw [hfresh]
        rfl
      rw [hsession] at hpaired
      cases hpaired

/-- What a device goes through when it is forgotten. -/
def parting : List Tether.Op :=
  [.pairing .unpair, .shutdownPlugins, .disconnect]

theorem forget_unknown (site : Site) (hknown : h.device? id = none) (hf : h.Formed) :
    h.forget site id = (.error (.deviceNotFound id), h) := by
  cases hfind : Dict.find? h.known id with
  | none => rw [forget, hfind]
  | some ref =>
      obtain ⟨d, hd, -⟩ := hf.device hfind
      rw [hknown] at hd
      cases hd

theorem forget_known (site : Site) (hf : h.Formed) (hd : h.device? id = some d) :
    h.forget site id = (.ok d.ref, (h.act site d.ref parting).without id) := by
  rw [forget, (hf.known hd).1]
  rfl

/-- A device that is forgotten is not paired when it goes. -/
theorem Sound.forget (hs : h.Sound) (id : String) : h.Step (h.forget site id).2 := by
  cases hknown : Dict.find? h.known id with
  | none =>
      rw [Hub.forget, hknown]
      exact (Keeps.refl hs).step
  | some ref =>
      obtain ⟨d, hd, rfl, -⟩ := hs.device hknown
      have hforget : (h.forget site id).2 = (h.act site d.ref parting).without id :=
        congrArg Prod.snd (forget_known site hs.toFormed hd)
      have hleft := hs.act site hd (show ∀ op ∈ parting, op.Within Store.Free by
        simp [parting, Tether.Op.Within])
      have hunpaired : ¬(h.act site d.ref parting).Pairs id := by
        rintro ⟨d', hd', hpaired⟩
        rw [device?_act site hs.toFormed hd, if_pos rfl] at hd'
        cases hd'
        have hquiet := (Scene.quiet_shutdownPlugins ((h.scene d).pair site .unpair)).trans
          (Scene.quiet_disconnect _)
        have hsession : ((h.scene d).run site parting).device.session =
            ((h.scene d).pair site .unpair).device.session := hquiet.session
        rw [hsession, Scene.pair_session, Pairing.Session.turn_unpair] at hpaired
        cases hpaired
      obtain ⟨hdropped, hnone⟩ := hleft.sound.drop hunpaired
      rw [hforget]
      refine .of_concerns (hleft.trans hdropped) fun d' hd' => ?_
      rw [hnone] at hd'
      cases hd'

/-- A job concerns the device that it is for, if that is known, and otherwise nobody. -/
theorem Sound.job (hs : h.Sound) (job : Job) :
    h.Step { h with world := h.world.perform site job } := by
  rcases h.world.perform_cases site job with ⟨ref, i, hlate, hperform⟩ | ⟨env, hcarries, hperform⟩
  · rw [hperform]
    have htold : h.Step { h with world := h.world.act ref fun s => s.pair site i } := by
      cases hd : h.world.device? ref with
      | none =>
          rw [World.act_none hd]
          exact (Keeps.refl hs).step
      | some d =>
          by_cases hknown : Dict.find? h.known d.id = some ref
          · have hd' := (device?_of_known hknown).trans hd
            obtain rfl := World.ref_of_device? hd
            exact hs.visit hd' (show (Tether.Op.pairing i).Within Store.Free from trivial)
          · exact (hs.late hlate hd hknown).step
    exact htold.keeps htold.sound.sweep
  · rw [hperform]
    have hasks : env.Asks Store.Free := by
      intro maker
      rw [hcarries.hauls.conducts]
      exact hs.asks maker
    have haround := hs.around hcarries.hauls.ledger hasks
    exact (haround.trans haround.sound.sweep).step

/-- Whatever the operation, it is one step. -/
theorem Sound.apply (site : Site) (hs : h.Sound) {op : Op} (hop : op.Within Store.Free) :
    h.Step (h.apply site op) := by
  cases op with
  | load =>
      rw [Hub.apply, hs.load]
      exact (Keeps.refl hs).step
  | connect i link => exact hs.connect i link
  | disconnected id link =>
      exact hs.visits id (.detach link) (fun _ => rfl) trivial
  | forget id => exact hs.forget id
  | visit id op => exact hs.visits id op (fun _ => rfl) hop
  | job job => exact hs.job job
  | release ref =>
      rw [Hub.apply]
      split
      · exact (Keeps.refl hs).step
      · next href => exact (hs.release href).step
  | elsewhere env =>
      have haround : h.Keeps (h.elsewhere env) := hs.around rfl hop
      exact haround.step

/-! ## Runs -/

theorem run_concat (site : Site) (h : Hub) (ops : List Op) (op : Op) :
    h.run site (ops ++ [op]) = (h.run site ops).apply site op :=
  List.foldl_append

/-- What was so before a run is so after it. Settings were changed by operations on settings. -/
theorem Sound.run (site : Site) (hs : h.Sound) {ops : List Op}
    (hops : ∀ op ∈ ops, op.Within Store.Free) :
    (h.run site ops).Sound ∧ ∃ edits : List Settings.Edit,
      (h.run site ops).world.env.ledger =
        h.world.env.ledger.tryAll (edits.map Settings.Edit.change) := by
  induction ops using List.reverseRecOn with
  | nil => exact ⟨hs, [], rfl⟩
  | append_singleton ops op ih =>
      obtain ⟨hearlier, hlast⟩ := List.forall_mem_append.mp hops
      obtain ⟨hsound, edits, hedits⟩ := ih hearlier
      have hstep := hsound.apply site (hlast op List.mem_cons_self)
      obtain ⟨more, hmore⟩ := hstep.edits
      rw [run_concat]
      refine ⟨hstep.sound, edits ++ more, ?_⟩
      rw [hmore, hedits, List.map_append, Ledger.tryAll, Ledger.tryAll, Ledger.tryAll,
        List.foldl_append]

/-- The device with an id became paired in one of the operations and has been so ever since, and it
was known by a certificate when it became so. -/
def Certified (site : Site) (h : Hub) (ops : List Op) (id : String) (certificate : List UInt8) :
    Prop :=
  ∃ earlier op since, ops = earlier ++ op :: since ∧
    ¬(h.run site earlier).Pairs id ∧
    (∀ part, part <+: since → (h.run site (earlier ++ op :: part)).Pairs id) ∧
    ∃ d, (h.run site (earlier ++ [op])).device? id = some d ∧
      d.details.certificate = certificate

/-- There is one certificate of that kind. -/
theorem Certified.unique {ops : List Op} {certificate certificate' : List UInt8}
    (hc : Certified site h ops id certificate) (hc' : Certified site h ops id certificate') :
    certificate = certificate' := by
  obtain ⟨earlier, op, since, rfl, hnot, hever, d, hd, rfl⟩ := hc
  obtain ⟨earlier', op', since', heq, hnot', hever', d', hd', rfl⟩ := hc'
  -- otherwise the device is paired by one operation and not paired before the other, which is later
  rcases List.append_eq_append_iff.mp heq with ⟨part, rfl, hpart⟩ | ⟨part, rfl, hpart⟩
  · cases part with
    | nil =>
        cases hpart
        rw [List.append_nil, hd] at hd'
        cases hd'
        rfl
    | cons first part =>
        cases hpart
        exact absurd (hever part (List.prefix_append _ _)) hnot'
  · cases part with
    | nil =>
        cases hpart
        rw [List.append_nil, hd'] at hd
        cases hd
        rfl
    | cons first part =>
        cases hpart
        exact absurd (hever' part (List.prefix_append _ _)) hnot

/-- Of a paired device settings hold the certificate by which it was known when it became paired
for the last time. -/
theorem Sound.certified (hs : h.Sound) (hnone : ∀ id, ¬h.Pairs id) {ops : List Op}
    (hops : ∀ op ∈ ops, op.Within Store.Free) {id : String} (hpairs : (h.run site ops).Pairs id) :
    ∃ certificate, Certified site h ops id certificate ∧
      (h.run site ops).certificate id = some (.str (Text.Base64.encode certificate)) := by
  -- from the end: the last operation found the device paired, or it is the one looked for
  induction ops using List.reverseRecOn with
  | nil => exact absurd hpairs (hnone id)
  | append_singleton ops op ih =>
      obtain ⟨hearlier, hlast⟩ := List.forall_mem_append.mp hops
      have hstep := (hs.run site hearlier).1.apply site (hlast op List.mem_cons_self)
      rw [run_concat] at hpairs ⊢
      obtain ⟨d, hd, hpaired⟩ := hpairs
      rcases hstep.certificate id d hd hpaired with ⟨hbefore, hsame⟩ | ⟨hbefore, hfresh⟩
      · obtain ⟨certificate, ⟨earlier, first, since, rfl, hnot, hever, hthen⟩, hstored⟩ :=
          ih hearlier hbefore
        refine ⟨certificate, ⟨earlier, first, since ++ [op], by simp, hnot, fun part hpart => ?_,
          hthen⟩, hsame.trans hstored⟩
        rcases List.prefix_concat_iff.mp hpart with rfl | hpart
        · have hall := run_concat site h (earlier ++ first :: since) op
          rw [List.append_assoc, List.cons_append] at hall
          rw [hall]
          exact ⟨d, hd, hpaired⟩
        · exact hever part hpart
      · refine ⟨d.details.certificate,
          ⟨ops, op, [], rfl, hbefore, fun part hpart => ?_, d, ?_, rfl⟩, hfresh⟩
        · rw [List.prefix_nil.mp hpart, run_concat]
          exact ⟨d, hd, hpaired⟩
        · rw [run_concat]
          exact hd

end Tether.Hub
