import Tether.Proofs.Device.Backing
import Tether.Proofs.Hub.Restart

/-!
# Trust that was there before

A hub may start over settings that trust ids already. Such an id has no device yet, and it gets one
from settings, paired, or from a first link, not paired. Whichever comes first, the device stays: a
link is attached to it, and settings are passed over for it. So an id that is connected before
trusted devices are loaded is trusted and has a device that is not paired, and loading does not
change that. Everything else comes out as it should (`trusted_or_overlooked`).

The invariant is weaker than the one over empty settings. Paired devices are known and trusted
(`Backed`), but an id may be trusted whose device is not paired, or that has none; it is stray.
What is kept besides is that no operation makes an id stray that was not, and that a stray id that
is known stays known (`Passes`). So an id that is stray after a run was so all along, and if it is
known, there is one operation that made it so. Loading is not it, for then it would be paired, and
so it was a link.
-/

namespace Tether.Hub

/-- The id is trusted, and no device is paired under it. -/
def Stray (h : Hub) (id : String) : Prop :=
  h.store.isTrusted id = true ∧ ¬h.Pairs id

/-- There is a device under the id. -/
def Knows (h : Hub) (id : String) : Prop :=
  ∃ d, h.device? id = some d

/-- Writes do not fail, and paired devices are known and trusted. -/
structure Backed (h : Hub) : Prop extends Formed h where
  reliable : h.world.env.ledger.Reliable
  apart : h.Apart
  trusted : ∀ id, h.Pairs id → h.store.isTrusted id = true

/-- What something comes to that may let newcomers be known. -/
structure Passes (newcomer : String → Prop) (h h' : Hub) : Prop where
  backed : h'.Backed
  stray : ∀ id, h'.Stray id → h.Stray id
  stays : ∀ id, h'.Stray id → h.Knows id → h'.Knows id
  comes : ∀ id, h'.Stray id → h'.Knows id → h.Knows id ∨ newcomer id

variable {site : Site} {newcomer : String → Prop} {h h' h'' : Hub} {id : String} {d : Device}

theorem Passes.refl (hb : h.Backed) : h.Passes newcomer h :=
  ⟨hb, fun _ hs => hs, fun _ _ hk => hk, fun _ _ hk => .inl hk⟩

theorem Passes.trans (hp : h.Passes newcomer h') (hp' : h'.Passes newcomer h'') :
    h.Passes newcomer h'' := by
  refine ⟨hp'.backed, ?_, ?_, ?_⟩
  · intro id hs
    exact hp.stray id (hp'.stray id hs)
  · intro id hs hk
    exact hp'.stays id hs (hp.stays id (hp'.stray id hs) hk)
  · intro id hs hk
    rcases hp'.comes id hs hk with hk | hnew
    · exact hp.comes id (hp'.stray id hs) hk
    · exact .inr hnew

/-! ## What may happen -/

theorem Backed.same (hb : h.Backed) (hsame : h.Same h') : h.Passes newcomer h' := by
  have hstray : ∀ id, h'.Stray id ↔ h.Stray id := by
    intro id
    rw [Stray, hsame.store, hsame.pairs, Stray]
  have hknows : ∀ id, h'.Knows id ↔ h.Knows id := by
    intro id
    rw [Knows, hsame.device?, Knows]
  refine ⟨⟨hsame.formed hb.toFormed, ?_, hsame.apart hb.apart, ?_⟩, ?_, ?_, ?_⟩
  · rw [hsame.ledger]
    exact hb.reliable
  · intro id hpairs
    rw [hsame.store]
    exact hb.trusted id ((hsame.pairs id).mp hpairs)
  · intro id hs
    exact (hstray id).mp hs
  · intro id _ hk
    exact (hknows id).mpr hk
  · intro id _ hk
    exact .inl ((hknows id).mp hk)

theorem Backed.scene (hb : h.Backed) (hd : h.device? id = some d) : (h.scene d).Backed := by
  obtain ⟨-, -, hid⟩ := hb.known hd
  refine ⟨hb.reliable, ?_⟩
  intro hpaired
  show h.store.isTrusted d.id = true
  rw [hid]
  exact hb.trusted id ⟨d, hd, hpaired⟩

theorem Backed.stray_scene (hb : h.Backed) (hd : h.device? id = some d) :
    (h.scene d).Stray ↔ h.Stray id := by
  obtain ⟨-, -, hid⟩ := hb.known hd
  have hpairs : h.Pairs id ↔ d.session.state = .paired := by
    rw [Pairs, hd]
    simp
  show h.store.isTrusted d.id = true ∧ ¬d.session.state = .paired ↔ _
  rw [hid, Stray, hpairs]

/-- What is done to a device that is known. -/
theorem Backed.act (site : Site) (hb : h.Backed) (hd : h.device? id = some d)
    (ops : List Tether.Op) : h.Passes newcomer (h.act site d.ref ops) := by
  obtain ⟨-, -, hid⟩ := hb.known hd
  have henv := act_env site hb.toFormed hd ops
  have hview := device?_act site hb.toFormed hd ops
  have hscene := hb.scene hd
  have hid' : ((h.scene d).run site ops).device.id = id := (Scene.run_id site _ ops).trans hid
  have hrewritten := rewritten_act site hb.toFormed hd ops
  have hknows : ∀ other, (h.act site d.ref ops).Knows other ↔ h.Knows other := by
    intro other
    rw [Knows, hview, Knows]
    split
    · next heq =>
        rw [← heq]
        exact ⟨fun _ => ⟨d, hd⟩, fun _ => ⟨_, rfl⟩⟩
    · exact Iff.rfl
  have hpairs : (h.act site d.ref ops).Pairs id ↔
      ((h.scene d).run site ops).device.session.state = .paired := by
    rw [Pairs, hview, if_pos rfl]
    simp
  have hpairs' : ∀ other, id ≠ other → ((h.act site d.ref ops).Pairs other ↔ h.Pairs other) := by
    intro other hne
    rw [Pairs, hview, if_neg hne, Pairs]
  have hstore : (h.act site d.ref ops).store.isTrusted id =
      ((h.scene d).run site ops).env.store.isTrusted ((h.scene d).run site ops).device.id := by
    rw [store, henv, hid']
  refine ⟨⟨hb.toFormed.act site hd ops, hrewritten.reliable hb.reliable,
    Apart.act site hb.toFormed hd ops hb.apart, ?_⟩, ?_, ?_, ?_⟩
  · intro other hpaired
    by_cases heq : id = other
    · rw [← heq] at hpaired ⊢
      rw [hstore]
      exact (hscene.run ops).trusted (hpairs.mp hpaired)
    · have htrusted := hb.trusted other ((hpairs' other heq).mp hpaired)
      exact (hrewritten.other heq).2.trans htrusted
  · intro other hstray
    obtain ⟨htrusted, hunpaired⟩ := hstray
    by_cases heq : id = other
    · rw [← heq] at htrusted hunpaired ⊢
      rw [hstore] at htrusted
      rw [hpairs] at hunpaired
      exact (hb.stray_scene hd).mp (hscene.stray_of_run ⟨htrusted, hunpaired⟩)
    · rw [hpairs' other heq] at hunpaired
      exact ⟨(hrewritten.other heq).2.symm.trans htrusted, hunpaired⟩
  · intro other _ hk
    exact (hknows other).mpr hk
  · intro other _ hk
    exact .inl ((hknows other).mp hk)

/-- A device is added under an id that has none. It is trusted if it is paired. -/
theorem Backed.add (hb : h.Backed) {make : Nat → Device} (hnew : Dict.find? h.known id = none)
    (href : (make h.world.born).ref = h.world.born) (hid : (make h.world.born).id = id)
    (htrusted : (make h.world.born).session.state = .paired → h.store.isTrusted id = true)
    (hcomes : (make h.world.born).session.state ≠ .paired → newcomer id) :
    h.Passes newcomer (h.add id make).2 := by
  have hview := device?_add hb.toFormed href id
  have hpairs : (h.add id make).2.Pairs id ↔
      (make h.world.born).session.state = .paired := by
    rw [Pairs, hview, if_pos rfl]
    simp
  have hpairs' : ∀ other, id ≠ other → ((h.add id make).2.Pairs other ↔ h.Pairs other) := by
    intro other hne
    rw [Pairs, hview, if_neg hne, Pairs]
  have hnot : ¬h.Knows id := by
    intro hk
    obtain ⟨d, hd⟩ := hk
    rw [device?_of_unknown hnew] at hd
    cases hd
  refine ⟨⟨hb.toFormed.add href hid, hb.reliable, Apart.add hb.toFormed href hb.apart hid hnew, ?_⟩,
    ?_, ?_, ?_⟩
  · intro other hpaired
    by_cases heq : id = other
    · rw [← heq] at hpaired ⊢
      exact htrusted (hpairs.mp hpaired)
    · exact hb.trusted other ((hpairs' other heq).mp hpaired)
  · intro other hstray
    obtain ⟨hother, hunpaired⟩ := hstray
    refine ⟨hother, ?_⟩
    by_cases heq : id = other
    · rw [← heq]
      intro hpaired
      obtain ⟨d, hd, -⟩ := hpaired
      exact hnot ⟨d, hd⟩
    · rw [hpairs' other heq] at hunpaired
      exact hunpaired
  · intro other _ hk
    rw [Knows, hview]
    split
    · exact ⟨_, rfl⟩
    · exact hk
  · intro other hstray hk
    by_cases heq : id = other
    · rw [← heq] at hstray ⊢
      exact .inr (hcomes fun hpaired => hstray.2 (hpairs.mpr hpaired))
    · rw [Knows, hview, if_neg heq] at hk
      exact .inl hk

/-- A device whose id is not trusted is known no more. -/
theorem Backed.drop (hb : h.Backed) (huntrusted : h.store.isTrusted id = false) :
    h.Passes newcomer (h.without id) := by
  have hunpaired : ¬h.Pairs id := by
    intro hpaired
    rw [hb.trusted id hpaired] at huntrusted
    cases huntrusted
  have hview : ∀ other, (h.without id).Stray other →
      (h.without id).device? other = h.device? other := by
    intro other hstray
    rw [device?_without, if_neg]
    intro heq
    have htrusted : h.store.isTrusted other = true := hstray.1
    rw [← heq, huntrusted] at htrusted
    cases htrusted
  refine ⟨⟨hb.toFormed.without id, hb.reliable, hb.apart.without hunpaired, ?_⟩, ?_, ?_, ?_⟩
  · intro other hpaired
    refine hb.trusted other ?_
    rw [Pairs, device?_without] at hpaired
    split at hpaired
    · obtain ⟨d, hd, -⟩ := hpaired
      cases hd
    · exact hpaired
  · intro other hstray
    have hnot := hstray.2
    rw [Pairs, hview other hstray] at hnot
    exact ⟨hstray.1, hnot⟩
  · intro other hstray hk
    rw [Knows, hview other hstray]
    exact hk
  · intro other hstray hk
    rw [Knows, hview other hstray] at hk
    exact .inl hk

/-! ## Operations -/

/-- An operation on a device that may be known or not. -/
theorem Backed.visits (hb : h.Backed) (id : String) (op : Tether.Op) {α : Type}
    {f : Scene → α × Scene} (hf : ∀ s, (f s).2 = s.apply site op) :
    h.Passes newcomer (h.visit id f).2 := by
  rcases visit_cases hb.toFormed id op hf with hsame | ⟨d, hd, hact⟩
  · rw [hsame]
    exact .refl hb
  · rw [hact]
    exact hb.act site hd [op]

theorem Backed.connect (hb : h.Backed) {i : PeerIdentity} (link : String)
    (hcomes : newcomer i.id) : h.Passes newcomer (h.connect site i link).2 := by
  cases hknown : Dict.find? h.known i.id with
  | some ref =>
      obtain ⟨d, hd, rfl, -⟩ := hb.device hknown
      rw [connect_known hknown]
      exact hb.act site hd _
  | none =>
      have hadded : h.Passes newcomer (h.add i.id fun ref => .ofIdentity ref i).2 :=
        hb.add hknown rfl rfl nofun fun _ => hcomes
      have hnew : (h.add i.id fun ref => .ofIdentity ref i).2.device? i.id =
          some (.ofIdentity h.world.born i) := by
        rw [device?_add hb.toFormed rfl, if_pos rfl]
      rw [connect_unknown hknown]
      exact hadded.trans (hadded.backed.act site hnew _)

/-- A device that is forgotten is trusted no more, whether it was paired or not. -/
theorem Backed.forget (hb : h.Backed) (id : String) :
    h.Passes newcomer (h.forget site id).2 := by
  cases hknown : Dict.find? h.known id with
  | none =>
      rw [Hub.forget, hknown]
      exact .refl hb
  | some ref =>
      obtain ⟨d, hd, rfl, hid, -⟩ := hb.device hknown
      have hforget : (h.forget site id).2 = (h.act site d.ref parting).without id :=
        congrArg Prod.snd (forget_known site hb.toFormed hd)
      have hleft : h.Passes newcomer (h.act site d.ref parting) := hb.act site hd parting
      have huntrusted : (h.act site d.ref parting).store.isTrusted id = false := by
        have hquiet := (Scene.quiet_shutdownPlugins ((h.scene d).pair site .unpair)).trans
          (Scene.quiet_disconnect _)
        have hstore : ((h.scene d).run site parting).env.store =
            ((h.scene d).pair site .unpair).env.store := hquiet.store
        rw [store, act_env site hb.toFormed hd]
        show ((h.scene d).run site parting).env.store.isTrusted id = false
        rw [hstore, ← hid]
        exact Scene.pair_unpair_trusted hb.reliable
      rw [hforget]
      exact hleft.trans (hleft.backed.drop huntrusted)

theorem Backed.job (hb : h.Backed) (job : Job) :
    h.Passes newcomer { h with world := h.world.perform site job } := by
  rcases h.world.perform_cases site job with ⟨ref, i, hlate, hperform⟩ | ⟨env, hcarries, hperform⟩
  · rw [hperform]
    have htold : h.Passes newcomer { h with world := h.world.act ref fun s => s.pair site i } := by
      cases hd : h.world.device? ref with
      | none =>
          rw [World.act_none hd]
          exact .refl hb
      | some d =>
          by_cases hknown : Dict.find? h.known d.id = some ref
          · have hd' := (device?_of_known hknown).trans hd
            have href := World.ref_of_device? hd
            rw [← href]
            exact hb.act site hd' [.pairing i]
          · have hunpaired : d.session.state ≠ .paired :=
              fun hpaired => hknown (hb.apart ref d hd hpaired)
            exact hb.same (hb.toFormed.late hlate hd hunpaired hknown)
    exact htold.trans (htold.backed.same htold.backed.toFormed.sweep)
  · rw [hperform]
    have haround : h.Passes newcomer { h with world.env := env } :=
      hb.same (hb.toFormed.around hcarries.hauls.ledger)
    exact haround.trans (haround.backed.same haround.backed.toFormed.sweep)

theorem Backed.release (hb : h.Backed) {ref : Nat} (href : ref ∉ Dict.values h.known) :
    h.Passes newcomer { h with world := h.world.release ref } := by
  have hkept : h.Passes newcomer
      { h with world.kept := h.world.kept.filter (· ≠ ref) } := hb.same (hb.toFormed.unkeep href)
  exact hkept.trans (hkept.backed.same hkept.backed.toFormed.sweep)

/-! ## Loading -/

theorem Backed.restore (hb : h.Backed) (htrusted : h.store.isTrusted id = true) :
    h.Passes newcomer (restore site h id) := by
  cases hknown : Dict.find? h.known id with
  | some ref =>
      have hkeep : Hub.restore site h id = h :=
        if_pos (show (Dict.find? h.known id).isSome = true by rw [hknown]; rfl)
      rw [hkeep]
      exact .refl hb
  | none =>
      have hadd : Hub.restore site h id =
          (h.add id fun ref => .ofTrusted site ref h.world.env.store id).2 :=
        if_neg (show ¬(Dict.find? h.known id).isSome = true by
          rw [hknown]; exact Bool.false_ne_true)
      rw [hadd]
      refine hb.add hknown rfl rfl (fun _ => htrusted) ?_
      intro hunpaired
      exact absurd rfl hunpaired

theorem Backed.restores (hb : h.Backed) {ids : List String}
    (htrusted : ∀ id ∈ ids, h.store.isTrusted id = true) :
    h.Passes newcomer (ids.foldl (Hub.restore site) h) := by
  induction ids generalizing h with
  | nil => exact .refl hb
  | cons id rest ih =>
      obtain ⟨hid, hrest⟩ := List.forall_mem_cons.mp htrusted
      have hfirst : h.Passes newcomer (Hub.restore site h id) := hb.restore hid
      have hstore : (Hub.restore site h id).store = h.store :=
        congrArg Env.store (restore_eq site hb.toFormed id).2.1
      refine hfirst.trans (ih hfirst.backed ?_)
      rw [hstore]
      exact hrest

theorem Backed.load (hb : h.Backed) : h.Passes newcomer (h.load site).2 :=
  hb.restores fun _ hid => List.contains_iff_mem.mpr hid

/-- A trusted id whose device is not paired after loading was passed over: it was known before. -/
theorem Backed.known_of_load (hb : h.Backed) (hs : (h.load site).2.Stray id) : h.Knows id := by
  obtain ⟨henv, hall⟩ := Hub.restores site h.store.trusted hb.toFormed
  obtain ⟨-, hmember, -⟩ := hall id
  obtain ⟨htrusted, hunpaired⟩ := hs
  have htrusted : h.store.isTrusted id = true := by
    rw [← htrusted]
    exact congrArg (·.store.isTrusted id) henv.symm
  cases hd : h.device? id with
  | some d => exact ⟨d, hd⟩
  | none =>
      obtain ⟨ref, hd'⟩ := hmember hd (List.contains_iff_mem.mp htrusted)
      exact absurd ⟨_, hd', rfl⟩ hunpaired

/-- The id that a link may make known. -/
def Op.Brings (id : String) : Op → Prop
  | connect i _ => i.id = id
  | _ => False

theorem Backed.apply (site : Site) (hb : h.Backed) (op : Op) :
    h.Passes (op.Brings ·) (h.apply site op) := by
  cases op with
  | load => exact hb.load
  | connect i link => exact hb.connect link rfl
  | disconnected id link => exact hb.visits id (.detach link) fun _ => rfl
  | forget id => exact hb.forget id
  | visit id op => exact hb.visits id op fun _ => rfl
  | job job => exact hb.job job
  | release ref =>
      rw [Hub.apply]
      split
      · exact .refl hb
      · next href =>
          exact hb.release href
  | elsewhere env => exact hb.same (hb.toFormed.around rfl)

/-! ## Runs -/

/-- The device of a trusted id came with a link, before trusted devices were ever loaded, and it has
not been paired since. -/
def Overlooked (site : Site) (h : Hub) (ops : List Op) (id : String) : Prop :=
  ∃ earlier i link since, ops = earlier ++ .connect i link :: since ∧ i.id = id ∧
    .load ∉ earlier ∧ ¬(h.run site earlier).Knows id ∧ (h.run site earlier).Stray id ∧
    ∀ part, part <+: since →
      (h.run site (earlier ++ .connect i link :: part)).Knows id ∧
        (h.run site (earlier ++ .connect i link :: part)).Stray id

theorem backed_new {env : Env} (hl : env.ledger.Reliable) : (new env).Backed := by
  refine ⟨formed_new env, hl, nofun, ?_⟩
  intro id hpairs
  exact absurd hpairs (not_pairs_new env id)

theorem not_knows_new (env : Env) (id : String) : ¬(new env).Knows id := by
  intro hk
  obtain ⟨d, hd⟩ := hk
  cases hd

theorem Backed.run (hb : h.Backed) (site : Site) (ops : List Op) : (h.run site ops).Backed := by
  induction ops generalizing h with
  | nil => exact hb
  | cons op rest ih => exact ih (hb.apply site op).backed

/-- An id that is stray after trusted devices were loaded is known. -/
theorem Backed.known_of_stray (hb : h.Backed) {ops : List Op} (hload : .load ∈ ops)
    (hs : (h.run site ops).Stray id) : (h.run site ops).Knows id := by
  induction ops using List.reverseRecOn with
  | nil => cases hload
  | append_singleton ops op ih =>
      have hbefore := hb.run site ops
      have hpasses := hbefore.apply site op
      rw [run_concat] at hs ⊢
      refine hpasses.stays id hs ?_
      rcases List.mem_append.mp hload with hearlier | hlast
      · exact ih hearlier (hpasses.stray id hs)
      · rw [← List.mem_singleton.mp hlast] at hs
        exact hbefore.known_of_load hs

/-- An id that is stray and known was overlooked. -/
theorem Backed.overlooked (hb : h.Backed) (hnone : ¬h.Knows id) {ops : List Op}
    (hs : (h.run site ops).Stray id) (hk : (h.run site ops).Knows id) :
    Overlooked site h ops id := by
  -- from the end: the id was known before the last operation, or that one is the link
  induction ops using List.reverseRecOn with
  | nil => exact absurd hk hnone
  | append_singleton ops op ih =>
      have hpasses := (hb.run site ops).apply site op
      rw [run_concat] at hs hk
      have hbefore := hpasses.stray id hs
      by_cases hknown : (h.run site ops).Knows id
      · obtain ⟨earlier, i, link, since, hsplit, hid, hload, hnot, hstray, hever⟩ :=
          ih hbefore hknown
        refine ⟨earlier, i, link, since ++ [op], by rw [hsplit]; simp, hid, hload, hnot, hstray, ?_⟩
        intro part hpart
        rcases List.prefix_concat_iff.mp hpart with rfl | hpart
        · rw [← List.cons_append, ← List.append_assoc, ← hsplit, run_concat]
          exact ⟨hk, hs⟩
        · exact hever part hpart
      · have hbrings := (hpasses.comes id hs hk).resolve_left hknown
        cases op with
        | connect i link =>
            refine ⟨ops, i, link, [], rfl, hbrings, ?_, hknown, hbefore, ?_⟩
            · intro hload
              exact hknown (hb.known_of_stray hload hbefore)
            · intro part hpart
              rw [List.prefix_nil.mp hpart, run_concat]
              exact ⟨hk, hs⟩
        | _ => exact hbrings.elim

/-- Over any settings, once trusted devices have been loaded, each trusted id has a device, and an id
is trusted exactly if its device is paired. The exception is an id whose first link came before
trusted devices were ever loaded: as long as it is not paired anew it is trusted, and has a device
that is not paired. -/
theorem trusted_or_overlooked (site : Site) {env : Env} (hl : env.ledger.Reliable)
    {ops : List Op} (hload : .load ∈ ops) :
    let h := (new env).run site ops
    (∀ id, h.store.isTrusted id = true → ∃ d, h.device? id = some d) ∧
      ∀ id, (h.store.isTrusted id = true ↔ h.Pairs id) ∨ Overlooked site (new env) ops id := by
  intro h
  have hb := backed_new hl
  have hlast : h.Backed := hb.run site ops
  refine ⟨?_, ?_⟩
  · intro id htrusted
    by_cases hpairs : h.Pairs id
    · obtain ⟨d, hd, -⟩ := hpairs
      exact ⟨d, hd⟩
    · exact hb.known_of_stray hload ⟨htrusted, hpairs⟩
  · intro id
    by_cases hstray : h.Stray id
    · exact .inr (hb.overlooked (not_knows_new env id) hstray (hb.known_of_stray hload hstray))
    · refine .inl ⟨?_, hlast.trusted id⟩
      intro htrusted
      by_contra hunpaired
      exact hstray ⟨htrusted, hunpaired⟩

/-- Settings trust a phone and a tablet, and the tablet is connected before they are loaded. -/
theorem trusted_or_overlooked_tablet :
    let env : Env := { ledger := { store := { trusted := ["phone", "tablet"] } } }
    let ops : List Op := [.connect { id := "tablet" } "lan", .load,
      .connect { id := "phone" } "lan-2"]
    let h := (new env).run {} ops
    env.ledger.Reliable ∧ .load ∈ ops ∧ h.Pairs "phone" ∧
      Overlooked {} (new env) ops "tablet" := by
  intro env ops h
  have hreliable : env.ledger.Reliable := fun _ => rfl
  have hload : Op.load ∈ ops := by simp [ops]
  obtain ⟨-, hall⟩ := trusted_or_overlooked {} hreliable hload
  refine ⟨hreliable, hload, ?_, ?_⟩
  · refine ((hall "phone").resolve_right ?_).mp (by decide)
    -- The only link before trusted devices were loaded is that of the tablet.
    intro hover
    obtain ⟨earlier, i, link, since, hsplit, hid, hearly, -⟩ := hover
    match earlier with
    | [] =>
        obtain ⟨hfirst, -⟩ := List.cons.inj hsplit
        cases hfirst
        exact absurd hid (by decide)
    | [_] =>
        obtain ⟨-, hrest⟩ := List.cons.inj hsplit
        cases hrest
    | _ :: second :: rest =>
        obtain ⟨-, hrest⟩ := List.cons.inj hsplit
        obtain ⟨hsecond, -⟩ := List.cons.inj hrest
        rw [← hsecond] at hearly
        simp at hearly
  · have hunpaired : ¬h.Pairs "tablet" := by decide
    refine (hall "tablet").resolve_left ?_
    intro hiff
    exact hunpaired (hiff.mp (by decide))

/-- Settings trust a phone that is connected before they are loaded. It is not paired, and the first
packet it sends ends the trust in it. -/
theorem trusted_overlooked :
    let env : Env := { ledger := { store := { trusted := ["phone"] } } }
    let ops : List Op := [.connect { id := "phone" } "lan", .load]
    let h := (new env).run {} ops
    let ping : Packet := { id := 1, type := "kdeconnect.ping" }
    env.ledger.Reliable ∧ h.store.isTrusted "phone" = true ∧ (∃ d, h.device? "phone" = some d) ∧
      ¬h.Pairs "phone" ∧ ((h.apply {} (.visit "phone" (.receive ping))).store.isTrusted "phone") =
        false := by
  refine ⟨fun _ => rfl, by decide, ?_, by decide, by decide⟩
  exact Option.isSome_iff_exists.mp (by decide)

end Tether.Hub
