import Tether.Hub
import Tether.Proofs.Dict.Order
import Tether.Proofs.World.Devices

/-!
# What is so of a hub at any time

Trust in an id and a paired device that is known under it are the same thing. A device that is not
known under its id, because it was forgotten, is not paired. And settings hold the name and the
class of a paired device. That is the invariant (`Hub.Sound`), and it is kept in three ways.

What is done to a device that is known concerns that device only (`Sound.act`): other devices, and
what settings hold of them, are as before. So it is enough to look at one device, and that is done
elsewhere. A device may be added under an id that was not known, or dropped once it is not paired
(`Sound.add`, `Sound.drop`). Everything else keeps settings and all devices that are known
(`Same`).

Forgotten devices may still have jobs. Those do no harm, because they tell the session of a device
that is not paired something late (`Sound.late`).
-/

namespace Tether

/-- The keys that plugins may be switched under: those under which settings hold nothing else. -/
def Store.Free (key : String) : Prop :=
  key ∉ [Store.certificateKey, Store.nameKey, Store.kindKey]

namespace Hub

/-- The settings of a hub. -/
def store (h : Hub) : Store :=
  h.world.env.store

/-- The device with an id is known and paired. -/
def Pairs (h : Hub) (id : String) : Prop :=
  ∃ d, h.device? id = some d ∧ d.session.state = .paired

theorem pairs_iff (h : Hub) (id : String) :
    (h.device? id).any Device.isPaired = true ↔ h.Pairs id := by
  rw [Option.any_eq_true]
  simp only [Pairs, Device.isPaired, decide_eq_true_eq]

instance (h : Hub) (id : String) : Decidable (h.Pairs id) :=
  decidable_of_iff _ (h.pairs_iff id)

/-- What settings hold under the key of a device's certificate. -/
def certificate (h : Hub) (id : String) : Option Json :=
  h.store.find? id Store.certificateKey

/-- Devices that are known are found by their numbers, and kept. -/
structure Formed (h : Hub) : Prop where
  young : h.world.Young
  there : ∀ id ref, Dict.find? h.known id = some ref →
    ref ∈ h.world.kept ∧ ∃ d, h.world.device? ref = some d ∧ d.id = id

/-- A paired device is the one that is known under its id. -/
def Apart (h : Hub) : Prop :=
  ∀ ref d, h.world.device? ref = some d → d.session.state = .paired →
    Dict.find? h.known d.id = some ref

/-- Writes do not fail, trusted ids are those of paired devices that are known, and settings hold
the names and classes of those. -/
structure Sound (h : Hub) : Prop extends Formed h where
  reliable : h.world.env.ledger.Reliable
  asks : h.world.env.Asks Store.Free
  apart : ∀ ref d, h.world.device? ref = some d → d.session.state = .paired →
    Dict.find? h.known d.id = some ref
  trusted : ∀ id, h.store.isTrusted id = true ↔ h.Pairs id
  named : ∀ id d, h.device? id = some d → (⟨d, h.world.env⟩ : Scene).Named

variable {site : Site} {h h' h'' : Hub} {id other : String} {ref : Nat} {d : Device}

/-! ## Devices of a hub -/

theorem device?_of_known (hknown : Dict.find? h.known id = some ref) :
    h.device? id = h.world.device? ref := by
  rw [device?, hknown, Option.bind_some]

theorem device?_of_unknown (hknown : Dict.find? h.known id = none) : h.device? id = none := by
  rw [device?, hknown, Option.bind_none]

theorem Formed.known (hf : h.Formed) (hd : h.device? id = some d) :
    Dict.find? h.known id = some d.ref ∧ h.world.device? d.ref = some d ∧ d.id = id := by
  obtain ⟨ref, hknown, hdevice⟩ := Option.bind_eq_some_iff.mp hd
  obtain ⟨-, d', hd', hid⟩ := hf.there id ref hknown
  rw [hdevice] at hd'
  cases hd'
  rw [World.ref_of_device? hdevice]
  exact ⟨hknown, hdevice, hid⟩

theorem Formed.device (hf : h.Formed) (hknown : Dict.find? h.known id = some ref) :
    ∃ d, h.device? id = some d ∧ d.ref = ref ∧ d.id = id ∧ h.world.device? ref = some d := by
  obtain ⟨-, d, hd, hid⟩ := hf.there id ref hknown
  exact ⟨d, (device?_of_known hknown).trans hd, World.ref_of_device? hd, hid, hd⟩

/-- Something that concerns the device with one id, and no other device. -/
structure Concerns (id : String) (h h' : Hub) : Prop where
  sound : h'.Sound
  rewritten : h.world.env.ledger.Rewritten id h'.world.env.ledger
  others : ∀ other, id ≠ other → h'.device? other = h.device? other

theorem Concerns.trans (hc : h.Concerns id h') (hc' : h'.Concerns id h'') : h.Concerns id h'' :=
  ⟨hc'.sound, hc.rewritten.trans hc'.rewritten,
    fun other hne => (hc'.others other hne).trans (hc.others other hne)⟩

/-! ## A device that is known -/

/-- Operations on the device with a number. -/
def act (site : Site) (h : Hub) (ref : Nat) (ops : List Tether.Op) : Hub :=
  { h with world := h.world.act ref fun s => s.run site ops }

/-- A device with everything around it. -/
def scene (h : Hub) (d : Device) : Scene :=
  ⟨d, h.world.env⟩

section

variable (site : Site) (hf : h.Formed) (hd : h.device? id = some d) (ops : List Tether.Op)
include hf hd

theorem act_env : (h.act site d.ref ops).world.env = ((h.scene d).run site ops).env :=
  (World.act_eq (hf.known hd).2.1 _).1

/-- Settings are written of the device alone. -/
theorem rewritten_act :
    h.world.env.ledger.Rewritten id (h.act site d.ref ops).world.env.ledger := by
  have hrun := (h.scene d).rewritten_run site ops
  rw [show (h.scene d).device.id = id from (hf.known hd).2.2, ← act_env site hf hd] at hrun
  exact hrun

theorem find_act (ref : Nat) :
    (h.act site d.ref ops).world.device? ref =
      if d.ref = ref then some ((h.scene d).run site ops).device else h.world.device? ref :=
  World.device?_act (hf.known hd).2.1 (Scene.run_ref site (h.scene d) ops) ref

theorem device?_act (other : String) :
    (h.act site d.ref ops).device? other =
      if id = other then some ((h.scene d).run site ops).device else h.device? other := by
  obtain ⟨hknown, hdevice, hid⟩ := hf.known hd
  show (Dict.find? h.known other).bind (h.act site d.ref ops).world.device? = _
  by_cases heq : id = other
  · subst heq
    rw [hknown, Option.bind_some, find_act site hf hd, if_pos rfl, if_pos rfl]
  · rw [if_neg heq, device?]
    cases hother : Dict.find? h.known other with
    | none => rfl
    | some ref =>
        have hne : d.ref ≠ ref := by
          rintro rfl
          obtain ⟨-, d', hd', hid'⟩ := hf.there other d.ref hother
          rw [hdevice] at hd'
          cases hd'
          exact heq (hid.symm.trans hid')
        rw [Option.bind_some, find_act site hf hd, if_neg hne, Option.bind_some]

theorem Formed.act : (h.act site d.ref ops).Formed := by
  obtain ⟨-, hdevice, hid⟩ := hf.known hd
  obtain ⟨-, hborn, hkept⟩ := World.act_eq hdevice fun s => s.run site ops
  refine ⟨fun ref d' hd' => hborn ▸ ?_, fun other ref hother => ?_⟩
  · rw [find_act site hf hd] at hd'
    split at hd'
    · next href => exact href ▸ hf.young _ _ hdevice
    · exact hf.young _ _ hd'
  · obtain ⟨hmem, d', hd', hid'⟩ := hf.there other ref hother
    refine ⟨hkept ▸ hmem, ?_⟩
    rw [find_act site hf hd]
    split
    · next href =>
        subst href
        rw [hdevice] at hd'
        cases hd'
        exact ⟨_, rfl, (Scene.run_id site _ ops).trans hid'⟩
    · exact ⟨d', hd', hid'⟩

theorem Apart.act (ha : h.Apart) : (h.act site d.ref ops).Apart := by
  obtain ⟨hknown, -, hid⟩ := hf.known hd
  have hid' : ((h.scene d).run site ops).device.id = id := (Scene.run_id site _ ops).trans hid
  intro ref d' hd' hpaired
  rw [find_act site hf hd] at hd'
  split at hd'
  · next href =>
      cases hd'
      rw [hid', ← href]
      exact hknown
  · exact ha ref d' hd' hpaired

end

theorem Sound.scene (hs : h.Sound) (hd : h.device? id = some d) : (h.scene d).Sound := by
  obtain ⟨-, -, hid⟩ := hs.known hd
  refine ⟨hs.reliable, ?_⟩
  show h.store.isTrusted d.id = true ↔ d.session.state = .paired
  rw [hid, hs.trusted id]
  constructor
  · rintro ⟨d', hd', hpaired⟩
    rw [hd] at hd'
    cases hd'
    exact hpaired
  · exact fun hpaired => ⟨d, hd, hpaired⟩

/-- What is done to a device that is known concerns that device. -/
theorem Sound.act (site : Site) (hs : h.Sound) (hd : h.device? id = some d) {ops : List Tether.Op}
    (hops : ∀ op ∈ ops, op.Within Store.Free) : h.Concerns id (h.act site d.ref ops) := by
  obtain ⟨-, -, hid⟩ := hs.known hd
  have henv := act_env site hs.toFormed hd ops
  have hview := device?_act site hs.toFormed hd ops
  have hrewritten := rewritten_act site hs.toFormed hd ops
  have hsound : ((h.scene d).run site ops).Sound := ((hs.scene hd).run ops).2
  have hnamed : ((h.scene d).run site ops).Named :=
    (hs.named id d hd).run hs.reliable hops hs.asks (by simp [Store.Free]) (by simp [Store.Free])
  have hid' : ((h.scene d).run site ops).device.id = id := (Scene.run_id site _ ops).trans hid
  refine ⟨⟨hs.toFormed.act site hd ops, hrewritten.reliable hs.reliable, ?_,
    Apart.act site hs.toFormed hd ops hs.apart, ?_, ?_⟩,
    hrewritten, fun other hne => (hview other).trans (if_neg hne)⟩
  · rw [henv]
    exact Scene.run_asks hops hs.asks
  · intro other
    by_cases heq : id = other
    · subst heq
      have hhonest := hsound.honest
      rw [hid'] at hhonest
      rw [store, henv, Pairs, hview, if_pos rfl]
      exact hhonest.trans
        ⟨fun hpaired => ⟨_, rfl, hpaired⟩, by rintro ⟨d', ⟨⟩, hpaired⟩; exact hpaired⟩
    · rw [Pairs, hview, if_neg heq]
      exact (congrArg (· = true) (hrewritten.other heq).2).to_iff.trans (hs.trusted other)
  · intro other d' hd' hpaired
    rw [hview] at hd'
    split at hd'
    · cases hd'
      rw [henv]
      exact hnamed hpaired
    · next hne =>
        have hold := hs.named other d' hd' hpaired
        simp only [(hs.known hd').2.2] at hold ⊢
        rw [Env.store, (hrewritten.other hne).1, (hrewritten.other hne).1]
        exact hold

/-! ## What concerns nobody -/

/-- Nothing happened that concerns settings or a device that is known. -/
structure Keeps (h h' : Hub) : Prop where
  sound : h'.Sound
  ledger : h'.world.env.ledger = h.world.env.ledger
  devices : ∀ id, h'.device? id = h.device? id

theorem Keeps.refl (hs : h.Sound) : h.Keeps h :=
  ⟨hs, rfl, fun _ => rfl⟩

theorem Keeps.trans (hk : h.Keeps h') (hk' : h'.Keeps h'') : h.Keeps h'' :=
  ⟨hk'.sound, hk'.ledger.trans hk.ledger, fun id => (hk'.devices id).trans (hk.devices id)⟩

/-- Settings and the devices that are known are the same, and nobody else is paired who was not. -/
structure Same (h h' : Hub) : Prop where
  known : h'.known = h.known
  ledger : h'.world.env.ledger = h.world.env.ledger
  born : h'.world.born = h.world.born
  found : ∀ ref d, h'.world.device? ref = some d → ∃ old, h.world.device? ref = some old ∧
    (d.session.state = .paired → d = old)
  kept : ∀ id ref, Dict.find? h.known id = some ref →
    ref ∈ h'.world.kept ∧ h'.world.device? ref = h.world.device? ref

theorem Same.device? (hsame : h.Same h') (id : String) : h'.device? id = h.device? id := by
  rw [Hub.device?, Hub.device?, hsame.known]
  cases hknown : Dict.find? h.known id with
  | none => rfl
  | some ref => exact (hsame.kept id ref hknown).2

theorem Same.store (hsame : h.Same h') : h'.store = h.store :=
  congrArg Ledger.store hsame.ledger

theorem Same.pairs (hsame : h.Same h') (id : String) : h'.Pairs id ↔ h.Pairs id := by
  rw [Pairs, hsame.device?, Pairs]

theorem Same.formed (hsame : h.Same h') (hf : h.Formed) : h'.Formed := by
  refine ⟨?_, ?_⟩
  · intro ref d hd
    obtain ⟨old, hold, -⟩ := hsame.found ref d hd
    exact hsame.born ▸ hf.young ref old hold
  · intro other ref hknown
    rw [hsame.known] at hknown
    obtain ⟨hmem, hview⟩ := hsame.kept other ref hknown
    obtain ⟨-, hthere⟩ := hf.there other ref hknown
    exact ⟨hmem, hview ▸ hthere⟩

theorem Same.apart (hsame : h.Same h') (ha : h.Apart) : h'.Apart := by
  intro ref d hd hpaired
  obtain ⟨old, hold, heq⟩ := hsame.found ref d hd
  cases heq hpaired
  rw [hsame.known]
  exact ha ref d hold hpaired

/-- Devices that nobody holds go. -/
theorem Formed.sweep (hf : h.Formed) : h.Same { h with world := h.world.sweep } := by
  refine ⟨rfl, h.world.sweep_hauls.ledger, rfl, ?_, ?_⟩
  · intro ref d hd
    rw [World.device?_sweep] at hd
    split at hd
    · exact ⟨d, hd, fun _ => rfl⟩
    · cases hd
  · intro id ref hknown
    obtain ⟨hmem, -⟩ := hf.there id ref hknown
    exact ⟨hmem, by rw [World.device?_sweep, if_pos (World.isHeld_of_kept hmem)]⟩

/-- Whatever goes on around devices, with the same settings. -/
theorem Formed.around (hf : h.Formed) {env : Env} (hledger : env.ledger = h.world.env.ledger) :
    h.Same { h with world.env := env } :=
  ⟨rfl, hledger, rfl, fun _ d hd => ⟨d, hd, fun _ => rfl⟩,
    fun id ref hknown => ⟨(hf.there id ref hknown).1, rfl⟩⟩

/-- A device that is not known is kept no longer. -/
theorem Formed.unkeep (hf : h.Formed) (href : ref ∉ Dict.values h.known) :
    h.Same { h with world.kept := h.world.kept.filter (· ≠ ref) } := by
  refine ⟨rfl, rfl, rfl, fun _ d hd => ⟨d, hd, fun _ => rfl⟩, fun id other hknown => ?_⟩
  have hne : other ≠ ref := by
    rintro rfl
    exact href (List.mem_map_of_mem (Dict.mem_of_find? hknown))
  exact ⟨List.mem_filter.mpr ⟨(hf.there id other hknown).1, by simpa using hne⟩, rfl⟩

/-- A device that is neither paired nor known under its id is told something late. -/
theorem Formed.late (hf : h.Formed) {i : Pairing.Input} (hi : World.Late i)
    (hd : h.world.device? ref = some d) (hunpaired : d.session.state ≠ .paired)
    (hunknown : Dict.find? h.known d.id ≠ some ref) :
    h.Same { h with world := h.world.act ref fun s => s.pair site i } := by
  obtain ⟨hstate, hledger⟩ :=
    World.pair_late site (s := ⟨d, h.world.env⟩) hi hunpaired
  obtain ⟨henv, hborn, hkept⟩ := World.act_eq hd fun s => s.pair site i
  have hview := World.device?_act hd (f := fun s => s.pair site i) (Scene.pair_ref site _ i)
  refine ⟨rfl, ?_, hborn, ?_, ?_⟩
  · show (h.world.act ref fun s => s.pair site i).env.ledger = _
    rw [henv]
    exact hledger
  · intro other d' hd'
    rw [hview] at hd'
    split at hd'
    · next heq =>
        cases hd'
        exact ⟨d, heq ▸ hd, fun hpaired => absurd hpaired hstate⟩
    · exact ⟨d', hd', fun _ => rfl⟩
  · intro id other hknown
    obtain ⟨hmem, d', hd', hid⟩ := hf.there id other hknown
    refine ⟨hkept ▸ hmem, ?_⟩
    rw [hview, if_neg]
    rintro rfl
    rw [hd] at hd'
    cases hd'
    exact hunknown (hid ▸ hknown)

theorem Sound.keeps (hs : h.Sound) (hsame : h.Same h') (hasks : h'.world.env.Asks Store.Free) :
    h.Keeps h' := by
  refine ⟨⟨hsame.formed hs.toFormed, ?_, hasks, hsame.apart hs.apart, ?_, ?_⟩, hsame.ledger,
    hsame.device?⟩
  · rw [hsame.ledger]
    exact hs.reliable
  · intro other
    rw [hsame.pairs, hsame.store]
    exact hs.trusted other
  · intro other d hd
    rw [hsame.device?] at hd
    have hold := hs.named other d hd
    rw [Scene.Named] at hold ⊢
    have hstore : h'.world.env.store = h.world.env.store := hsame.store
    rw [hstore]
    exact hold

theorem Sound.sweep (hs : h.Sound) : h.Keeps { h with world := h.world.sweep } := by
  have hasks : h.world.sweep.env.Asks Store.Free := by
    intro maker
    rw [h.world.sweep_hauls.conducts]
    exact hs.asks maker
  exact hs.keeps hs.toFormed.sweep hasks

theorem Sound.around (hs : h.Sound) {env : Env} (hledger : env.ledger = h.world.env.ledger)
    (hasks : env.Asks Store.Free) : h.Keeps { h with world.env := env } :=
  hs.keeps (hs.toFormed.around hledger) hasks

theorem Sound.release (hs : h.Sound) (href : ref ∉ Dict.values h.known) :
    h.Keeps { h with world := h.world.release ref } := by
  have hkept := hs.keeps (hs.toFormed.unkeep href) hs.asks
  exact hkept.trans hkept.sound.sweep

/-- A device that is not known under its id is told something late, and that concerns nobody. -/
theorem Sound.late (hs : h.Sound) {i : Pairing.Input} (hi : World.Late i)
    (hd : h.world.device? ref = some d) (hunknown : Dict.find? h.known d.id ≠ some ref) :
    h.Keeps { h with world := h.world.act ref fun s => s.pair site i } := by
  have hunpaired : d.session.state ≠ .paired := fun hpaired => hunknown (hs.apart ref d hd hpaired)
  refine hs.keeps (hs.toFormed.late hi hd hunpaired hunknown) ?_
  show (h.world.act ref fun s => s.pair site i).env.Asks Store.Free
  rw [(World.act_eq hd _).1]
  exact (Scene.steady_pair site _ i).asks hs.asks

/-! ## Devices that come and go -/

section

variable (hf : h.Formed) {make : Nat → Device} (href : (make h.world.born).ref = h.world.born)
include hf href

theorem find_add (id : String) (ref : Nat) :
    (h.add id make).2.world.device? ref =
      if h.world.born = ref then some (make h.world.born) else h.world.device? ref :=
  World.device?_keep hf.young href ref

theorem device?_add (id other : String) :
    (h.add id make).2.device? other =
      if id = other then some (make h.world.born) else h.device? other := by
  show (Dict.find? (Dict.put id h.world.born h.known) other).bind
    (h.add id make).2.world.device? = _
  by_cases heq : id = other
  · subst heq
    rw [Dict.find?_put_self, Option.bind_some, find_add hf href, if_pos rfl, if_pos rfl]
  · rw [Dict.find?_put_of_ne heq, if_neg heq, device?]
    cases hother : Dict.find? h.known other with
    | none => rfl
    | some ref =>
        obtain ⟨-, d, hd, -⟩ := hf.there other ref hother
        rw [Option.bind_some, Option.bind_some, find_add hf href,
          if_neg (Nat.ne_of_gt (hf.young ref d hd))]

theorem Formed.add {id : String} (hid : (make h.world.born).id = id) :
    (h.add id make).2.Formed := by
  refine ⟨fun ref d hd => ?_, fun other ref hother => ?_⟩
  · show ref < h.world.born + 1
    rw [find_add hf href] at hd
    split at hd
    · next heq => exact heq ▸ Nat.lt_succ_self _
    · exact Nat.lt_succ_of_lt (hf.young ref d hd)
  · replace hother : Dict.find? (Dict.put id h.world.born h.known) other = some ref := hother
    rw [find_add hf href]
    by_cases heq : id = other
    · subst heq
      rw [Dict.find?_put_self] at hother
      cases hother
      exact ⟨List.mem_append_right _ List.mem_cons_self, _, if_pos rfl, hid⟩
    · rw [Dict.find?_put_of_ne heq] at hother
      obtain ⟨hmem, d, hd, hid'⟩ := hf.there other ref hother
      exact ⟨List.mem_append_left _ hmem, d,
        (if_neg (Nat.ne_of_gt (hf.young ref d hd))).trans hd, hid'⟩

theorem Apart.add {id : String} (ha : h.Apart) (hid : (make h.world.born).id = id)
    (hnew : Dict.find? h.known id = none) : (h.add id make).2.Apart := by
  intro ref d hd hpaired
  rw [find_add hf href] at hd
  split at hd
  · next heq =>
      cases hd
      rw [hid, ← heq]
      exact Dict.find?_put_self _ _ _
  · have hold := ha ref d hd hpaired
    have hne : id ≠ d.id := by
      intro heq
      rw [← heq, hnew] at hold
      cases hold
    exact (Dict.find?_put_of_ne hne _ _).trans hold

end

/-- A device that was not known is added, and it is not paired. -/
theorem Sound.add (hs : h.Sound) {make : Nat → Device} (hnew : Dict.find? h.known id = none)
    (href : (make h.world.born).ref = h.world.born) (hid : (make h.world.born).id = id)
    (hunpaired : (make h.world.born).session.state ≠ .paired) :
    h.Concerns id (h.add id make).2 := by
  have hview := device?_add hs.toFormed href id
  refine ⟨⟨hs.toFormed.add href hid, hs.reliable, hs.asks, Apart.add hs.toFormed href hs.apart hid hnew,
    ?_, ?_⟩, .refl _ _, fun other hne => (hview other).trans (if_neg hne)⟩
  · intro other
    refine (hs.trusted other).trans ?_
    rw [Pairs, Pairs, hview]
    split
    · next heq =>
        subst heq
        rw [device?_of_unknown hnew]
        constructor
        · rintro ⟨d, ⟨⟩, -⟩
        · rintro ⟨d, ⟨⟩, hpaired⟩
          exact absurd hpaired hunpaired
    · exact Iff.rfl
  · intro other d hd
    rw [hview] at hd
    split at hd
    · cases hd
      exact fun hpaired => absurd hpaired hunpaired
    · exact hs.named other d hd

/-- The hub without the device with an id. -/
def without (h : Hub) (id : String) : Hub :=
  { h with known := Dict.drop id h.known }

theorem device?_without (h : Hub) (id other : String) :
    (h.without id).device? other = if id = other then none else h.device? other := by
  show (Dict.find? (Dict.drop id h.known) other).bind _ = _
  split
  · next heq =>
      rw [← heq, Dict.find?_drop_self]
      rfl
  · next hne =>
      rw [Dict.find?_drop_of_ne hne]
      rfl

theorem Formed.without (hf : h.Formed) (id : String) : (h.without id).Formed := by
  refine ⟨hf.young, ?_⟩
  intro other ref hother
  have hother : Dict.find? (Dict.drop id h.known) other = some ref := hother
  by_cases heq : id = other
  · rw [← heq, Dict.find?_drop_self] at hother
    cases hother
  · rw [Dict.find?_drop_of_ne heq] at hother
    exact hf.there other ref hother

theorem Apart.without (ha : h.Apart) (hunpaired : ¬h.Pairs id) : (h.without id).Apart := by
  intro ref d hd hpaired
  have hknown := ha ref d hd hpaired
  have hne : id ≠ d.id := by
    intro heq
    refine hunpaired ⟨d, ?_, hpaired⟩
    rw [heq, device?_of_known hknown]
    exact hd
  exact (Dict.find?_drop_of_ne hne _).trans hknown

/-- A device that is not paired is known no more. -/
theorem Sound.drop (hs : h.Sound) (hunpaired : ¬h.Pairs id) :
    h.Concerns id (h.without id) ∧ (h.without id).device? id = none := by
  have hself : (h.without id).device? id = none := by
    rw [device?_without, if_pos rfl]
  have hview : ∀ other, id ≠ other → (h.without id).device? other = h.device? other := by
    intro other hne
    rw [device?_without, if_neg hne]
  refine ⟨⟨⟨hs.toFormed.without id, hs.reliable, hs.asks, Apart.without hs.apart hunpaired, ?_, ?_⟩,
    .refl _ _, hview⟩, hself⟩
  · intro other
    refine (hs.trusted other).trans ?_
    by_cases heq : id = other
    · subst heq
      refine iff_of_false hunpaired ?_
      rintro ⟨d, hd, -⟩
      rw [hself] at hd
      cases hd
    · rw [Pairs, Pairs, hview other heq]
  · intro other d hd
    by_cases heq : id = other
    · subst heq
      rw [hself] at hd
      cases hd
    · rw [hview other heq] at hd
      exact hs.named other d hd

end Hub

end Tether
