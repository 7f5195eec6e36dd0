import Tether.Proofs.Hub.Run
import Tether.Proofs.Text.Base64

/-!
# After a restart

A hub goes, and with it all devices and the settings in memory. What stays is the file of the
settings. From that another hub restores the devices that were paired, and no others
(`restart_restores`).

Two things come together here. The file follows whatever the hub writes, so the settings that are
opened again are those that the hub had (`Kept.Sound.edited`). And what the hub had in its settings
says of each id whether its device was paired, and under which name, which class and which
certificate (`Hub.Sound`, `Hub.Sound.certified`). A device is made from just that
(`ofTrusted_details`).
-/

namespace Tether

namespace Settings

/-- Operations on settings in a file succeed, and are all made. -/
theorem Kept.Sound.edited {k : Kept} (h : k.Sound) (edits : List Edit) :
    ∃ k' : Kept, (edits.map Step.edit).foldlM Kept.take k = .ok k' ∧ k'.Sound ∧
      k'.store = (edits.map Edit.change).foldl Store.apply k.store := by
  induction edits generalizing k with
  | nil => exact ⟨k, rfl, h, rfl⟩
  | cons e edits ih =>
      obtain ⟨k', happly, hstore, hsound⟩ := h.apply e.scalar
      have htake : k.take (.edit e) = .ok k' := by
        rw [Kept.take, happly]
      obtain ⟨last, hrun, hlast, hstore'⟩ := ih hsound
      refine ⟨last, ?_, hlast, ?_⟩
      · rw [List.map_cons, List.foldlM_cons, htake]
        exact hrun
      · rw [hstore', hstore, List.map_cons, List.foldl_cons]

/-- Settings in a file took what was written between two ledgers. -/
def Follows (l l' : Ledger) (k k' : Kept) : Prop :=
  ∃ edits : List Edit, l' = l.tryAll (edits.map Edit.change) ∧
    (edits.map Step.edit).foldlM Kept.take k = .ok k'

/-- Settings in a file that took what was written are the settings of the ledger. -/
theorem Follows.sound {l l' : Ledger} {k k' : Kept} (h : Follows l l' k k') (hl : l.Reliable)
    (hstore : l.store = k.store) (hk : k.Sound) : k'.Sound ∧ k'.store = l'.store := by
  obtain ⟨edits, hedits, htaken⟩ := h
  obtain ⟨last, hrun, hlast, hlaststore⟩ := hk.edited edits
  rw [hrun] at htaken
  cases htaken
  refine ⟨hlast, ?_⟩
  have haccepted : ¬l.Refuses l' := by
    rintro ⟨n, -, -, hn⟩
    exact hn (hl n)
  rw [hlaststore, ← hstore, hedits, Ledger.tryAll_store (hedits ▸ haccepted)]

end Settings

namespace Hub

variable {site again : Site} {h : Hub} {env : Env} {id : String} {d : Device}

/-- A hub without devices. -/
def new (env : Env) : Hub :=
  { world := { env } }

theorem formed_new (env : Env) : (new env).Formed := by
  refine ⟨?_, ?_⟩
  · rintro ref d ⟨⟩
  · rintro id ref ⟨⟩

theorem not_pairs_new (env : Env) (id : String) : ¬(new env).Pairs id := by
  rintro ⟨d, hd, -⟩
  cases hd

/-- Over empty settings a hub without devices is as it should be. -/
theorem sound_new (hstore : env.store = {}) (hl : env.ledger.Reliable)
    (ha : env.Asks Store.Free) : (new env).Sound where
  toFormed := formed_new env
  reliable := hl
  asks := ha
  apart := by rintro ref d ⟨⟩
  trusted id := by
    refine iff_of_false ?_ (not_pairs_new env id)
    show ¬env.store.isTrusted id = true
    rw [hstore]
    exact Bool.false_ne_true
  named := by rintro id d ⟨⟩

/-! ## Restoring -/

/-- A trusted id gets a device if it has none, and nothing else changes. -/
theorem restore_eq (again : Site) (hf : h.Formed) (id : String) :
    (restore again h id).Formed ∧ (restore again h id).world.env = h.world.env ∧
      ∀ other, (restore again h id).device? other =
        if h.device? id = none ∧ id = other then
          some (.ofTrusted again h.world.born h.world.env.store id)
        else h.device? other := by
  cases hknown : Dict.find? h.known id with
  | some ref =>
      obtain ⟨d, hd, -⟩ := hf.device hknown
      have hkeep : restore again h id = h :=
        if_pos (show (Dict.find? h.known id).isSome = true by rw [hknown]; rfl)
      rw [hkeep, hd]
      exact ⟨hf, rfl, fun other => (if_neg fun hboth => Option.some_ne_none d hboth.1).symm⟩
  | none =>
      have hadd : restore again h id =
          (h.add id fun ref => .ofTrusted again ref h.world.env.store id).2 :=
        if_neg (show ¬(Dict.find? h.known id).isSome = true by
          rw [hknown]; exact Bool.false_ne_true)
      rw [hadd, device?_of_unknown hknown]
      refine ⟨hf.add rfl rfl, rfl, fun other => ?_⟩
      rw [device?_add hf rfl]
      simp only [true_and]

/-- Trusted ids get devices if they have none. -/
theorem restores (again : Site) (ids : List String) (hf : h.Formed) :
    (ids.foldl (restore again) h).world.env = h.world.env ∧
      ∀ id, (∀ d, h.device? id = some d → (ids.foldl (restore again) h).device? id = some d) ∧
        (h.device? id = none → id ∈ ids → ∃ ref, (ids.foldl (restore again) h).device? id =
          some (.ofTrusted again ref h.world.env.store id)) ∧
        (h.device? id = none → id ∉ ids → (ids.foldl (restore again) h).device? id = none) := by
  induction ids generalizing h with
  | nil =>
      refine ⟨rfl, fun id => ⟨fun _ hd => hd, fun _ hmem => ?_, fun hd _ => hd⟩⟩
      exact absurd hmem List.not_mem_nil
  | cons first rest ih =>
      obtain ⟨hformed, henv, hview⟩ := restore_eq again hf first
      obtain ⟨henv', hrest⟩ := ih hformed
      rw [List.foldl_cons]
      refine ⟨henv'.trans henv, fun id => ?_⟩
      obtain ⟨hsome, hmember, hother⟩ := hrest id
      rw [hview] at hsome hmember hother
      rw [henv] at hmember
      by_cases hid : first = id
      · subst hid
        refine ⟨fun d hd => hsome d ?_, fun hnone _ => ⟨_, hsome _ (if_pos ⟨hnone, rfl⟩)⟩,
          fun _ hmem => absurd List.mem_cons_self hmem⟩
        rw [if_neg fun hnone => Option.some_ne_none d (hd.symm.trans hnone.1), hd]
      · rw [if_neg fun hboth => hid hboth.2] at hsome hmember hother
        refine ⟨hsome, fun hnone hmem => hmember hnone ?_, fun hnone hmem => hother hnone ?_⟩
        · exact (List.mem_cons.mp hmem).resolve_left fun heq => hid heq.symm
        · exact fun hmem' => hmem (List.mem_cons_of_mem _ hmem')

/-- A hub without devices restores those of trusted ids, and no others. -/
theorem load_new (again : Site) (env : Env) (id : String) :
    ((new env).load again).2.world.env = env ∧
      (env.store.isTrusted id = true → ∃ ref, ((new env).load again).2.device? id =
        some (.ofTrusted again ref env.store id)) ∧
      (env.store.isTrusted id = false → ((new env).load again).2.device? id = none) := by
  obtain ⟨henv, hall⟩ := restores again env.store.trusted (formed_new env)
  obtain ⟨-, hmember, hother⟩ := hall id
  refine ⟨henv, fun htrusted => hmember rfl (List.contains_iff_mem.mp htrusted), fun hnot => ?_⟩
  refine hother rfl fun hmem => ?_
  rw [Store.isTrusted, List.contains_iff_mem.mpr hmem] at hnot
  cases hnot

/-! ## Restarting -/

/-- A device is paired, and its name, its class and its plugins that are switched on are those that
it had before. -/
structure Restored (site again : Site) (old new : Scene) : Prop where
  paired : new.device.session.state = .paired
  name : new.device.details.name = old.device.details.name
  kind : new.device.details.kind = old.device.details.kind
  enabled : ∀ key, new.isEnabled again key = old.isEnabled site key

/-- Whether a plugin is switched on depends on settings, the id and the plugins there are. -/
theorem isEnabled_of_store {s t : Scene} (hsame : again.registry = site.registry)
    (hstore : t.env.store = s.env.store) (hid : t.device.id = s.device.id) (key : String) :
    t.isEnabled again key = s.isEnabled site key := by
  rw [Scene.isEnabled, hstore, hid, hsame, Scene.isEnabled]

/-- A trusted device is made from what settings hold of it. -/
theorem ofTrusted_details {s : Store} {name : String} {kind : DeviceKind}
    {certificate : List UInt8} (hname : s.find? id Store.nameKey = some (.str name))
    (hkind : s.find? id Store.kindKey = some (.str kind.word))
    (hcertificate : s.find? id Store.certificateKey =
      some (.str (Text.Base64.encode certificate))) (again : Site) (ref : Nat) :
    (Device.ofTrusted again ref s id).details = { name, kind, certificate } := by
  have hword : (some kind.word).map DeviceKind.ofWord = some kind :=
    congrArg some kind.ofWord_word
  simp only [Device.ofTrusted, Details.ofStore, Store.getString?, hname, hkind, hcertificate,
    Option.bind_some, Json.str?, hword, Text.Base64.decode?_encode, Option.getD_some]

/-- A paired device of a hub is made again from settings under its name and class. -/
theorem Sound.ofTrusted (hs : h.Sound) (hd : h.device? id = some d)
    (hpaired : d.session.state = .paired) {certificate : List UInt8}
    (hheld : h.certificate id = some (.str (Text.Base64.encode certificate))) (again : Site)
    (ref : Nat) :
    (Device.ofTrusted again ref h.store id).details =
      { name := d.details.name, kind := d.details.kind, certificate } := by
  obtain ⟨-, -, hid⟩ := hs.known hd
  obtain ⟨hname, hkind⟩ := hs.named id d hd hpaired
  simp only [hid] at hname hkind
  exact ofTrusted_details hname hkind hheld again ref

/-- From settings as they are in a hub, those of its devices are restored that are paired, each of
them as it is, and by the certificate that settings hold of it. -/
theorem Sound.restored (hs : h.Sound) (hsame : again.registry = site.registry)
    (hstore : env.store = h.store) (id : String) :
    let restored := ((new env).load again).2
    ((∃ d, restored.device? id = some d) ↔ h.Pairs id) ∧
      ∀ old d certificate, h.device? id = some old → restored.device? id = some d →
        h.certificate id = some (.str (Text.Base64.encode certificate)) →
        Restored site again (h.scene old) (restored.scene d) ∧
          d.details.certificate = certificate := by
  intro restored
  obtain ⟨henv, htrusted, hother⟩ := load_new again env id
  have hpairs : env.store.isTrusted id = true ↔ h.Pairs id := by
    rw [hstore]
    exact hs.trusted id
  have hpaired : ∀ d, restored.device? id = some d → h.Pairs id := by
    refine fun d hd => hpairs.mp (Bool.of_not_eq_false fun hnot => ?_)
    rw [hother hnot] at hd
    cases hd
  refine ⟨⟨fun ⟨d, hd⟩ => hpaired d hd, fun hp => ?_⟩, fun old d certificate hold hd hheld => ?_⟩
  · obtain ⟨ref, hd⟩ := htrusted (hpairs.mpr hp)
    exact ⟨_, hd⟩
  · have hp := hpaired d hd
    obtain ⟨ref, hd'⟩ := htrusted (hpairs.mpr hp)
    obtain rfl := Option.some.inj (hd'.symm.trans hd)
    obtain ⟨old', hold', hstate⟩ := hp
    obtain rfl := Option.some.inj (hold.symm.trans hold')
    have hdetails := hs.ofTrusted hold hstate hheld again ref
    rw [← hstore] at hdetails
    have henabled : ∀ key,
        (restored.scene (.ofTrusted again ref env.store id)).isEnabled again key =
          (h.scene old).isEnabled site key :=
      isEnabled_of_store hsame ((congrArg Env.store henv).trans hstore) (hs.known hold).2.2.symm
    refine ⟨⟨rfl, ?_, ?_, henabled⟩, ?_⟩
    · exact (congrArg Details.name hdetails :)
    · exact (congrArg Details.kind hdetails :)
    · exact (congrArg Details.certificate hdetails :)

/-- What a hub restores is what another had when it went. The other started over an empty file, and
no write failed. The file has taken what was written, and can be opened. From the settings in it a
hub with the same plugins restores the devices that were paired and no others, each of them as it
was, and by the certificate by which it was known when it became paired for the last time. -/
theorem restart_restores {f : Settings.Folder} (hf : f.Fresh) {k₀ : Settings.Kept}
    (hstart : Settings.start f = .ok k₀) (hstore : env.store = k₀.store)
    (hl : env.ledger.Reliable) (ha : env.Asks Store.Free) {ops : List Op}
    (hops : ∀ op ∈ ops, op.Within Store.Free) :
    let last := (new env).run site ops
    (∃ k, Settings.Follows env.ledger last.world.env.ledger k₀ k) ∧
      ∀ k, Settings.Follows env.ledger last.world.env.ledger k₀ k →
        Settings.start k.folder = .ok k ∧
        ∀ (again : Site) (env' : Env), again.registry = site.registry → env'.store = k.store →
          let restored := ((new env').load again).2
          ∀ id, ((∃ d, restored.device? id = some d) ↔ last.Pairs id) ∧
            ∀ old d, last.device? id = some old → restored.device? id = some d →
              Restored site again (last.scene old) (restored.scene d) ∧
              Certified site (new env) ops id d.details.certificate := by
  intro last
  obtain ⟨folder, hopen, hkept⟩ := Settings.Kept.sound_fresh hf
  rw [Settings.start, hopen] at hstart
  cases hstart
  have hnew := sound_new hstore hl ha
  obtain ⟨hlast, edits, hedits⟩ := hnew.run site hops
  obtain ⟨taken, htaken, -⟩ := hkept.edited edits
  refine ⟨⟨taken, edits, hedits, htaken⟩, fun k hfollows => ?_⟩
  obtain ⟨hsound, hkstore⟩ := hfollows.sound hl hstore hkept
  refine ⟨by rw [Settings.start, hsound.reopen], fun again env' hsame henv' => ?_⟩
  intro restored id
  obtain ⟨hthere, hback⟩ := hlast.restored hsame (henv'.trans hkstore) id
  refine ⟨hthere, fun old d hold hd => ?_⟩
  obtain ⟨certificate, hcertified, hheld⟩ :=
    hnew.certified (not_pairs_new env) hops (hthere.mp ⟨d, hd⟩)
  obtain ⟨hrestored, rfl⟩ := hback old d certificate hold hd hheld
  exact ⟨hrestored, hcertified⟩

/-- A phone is paired, is then known by another name and another certificate, and has a plugin
switched on. It comes back under the later name, with the plugin, and by the certificate of its
pairing. A tablet that was only seen does not. -/
theorem restart_restores_phone :
    let first : PeerIdentity := { id := "phone", name := some "Phone", certificate := [1] }
    let later : PeerIdentity := { id := "phone", name := some "Old phone", certificate := [2] }
    let earlier : List Op := [.connect first "lan", .visit "phone" (.pairing .request)]
    let success : Op := .visit "phone" (.receive (Pairing.packet 1 true))
    let since : List Op := [.connect later "cable", .visit "phone" (.setPlugin "muted" true),
      .connect { id := "tablet" } "lan-2"]
    let last := (new {}).run {} (earlier ++ success :: since)
    let opened : Settings.Kept := ⟨{}, .present .absent .absent⟩
    Settings.start .absent = .ok opened ∧ ∃ k,
      Settings.Follows {} last.world.env.ledger opened k ∧ Settings.start k.folder = .ok k ∧
      let restored := ((new { ledger := { store := k.store } }).load {}).2
      restored.device? "tablet" = none ∧
      ∃ d, restored.device? "phone" = some d ∧ d.session.state = .paired ∧
        d.details.name = "Old phone" ∧ (restored.scene d).isEnabled {} "muted" = true ∧
        d.details.certificate = [1] := by
  intro first later earlier success since last opened
  have hmuted : Store.Free "muted" := show "muted" ∉ _ by decide
  have hwithin : ∀ op ∈ earlier ++ success :: since, op.Within Store.Free := by
    simp [earlier, success, since, Op.Within, Tether.Op.Within, hmuted]
  have hasks : Env.Asks Store.Free {} := by rintro maker key enabled ⟨⟩
  have htablet : ¬last.Pairs "tablet" := by decide
  have hphone : last.Pairs "phone" := by decide
  obtain ⟨old, hold, hshown⟩ := Option.map_eq_some_iff.mp
    (show (last.device? "phone").map (fun d =>
      (d.details.name, (last.scene d).isEnabled {} "muted")) = some ("Old phone", true) by decide)
  obtain ⟨hname, henabled⟩ := Prod.mk.inj hshown
  have hbound : Certified {} (new {}) (earlier ++ success :: since) "phone" [1] := by
    refine ⟨earlier, success, since, rfl, by decide, fun part hpart => ?_,
      Option.map_eq_some_iff.mp (by decide)⟩
    rw [← List.mem_inits] at hpart
    revert part
    decide
  obtain ⟨⟨k, hfollows⟩, hall⟩ :=
    @restart_restores {} {} .absent trivial opened rfl rfl (fun _ => rfl) hasks _ hwithin
  obtain ⟨hstart, hrestored⟩ := hall k hfollows
  have hview := hrestored {} { ledger := { store := k.store } } rfl rfl
  obtain ⟨d, hd⟩ := (hview "phone").1.mpr hphone
  obtain ⟨hback, hcertified⟩ := (hview "phone").2 old d hold hd
  refine ⟨rfl, k, ?_, hstart, ?_, d, hd, hback.paired, hback.name.trans hname,
    (hback.enabled "muted").trans henabled, hcertified.unique hbound⟩
  · unfold last
    exact hfollows
  · refine Option.eq_none_iff_forall_ne_some.mpr fun d hd => ?_
    exact htablet ((hview "tablet").1.mp ⟨d, hd⟩)

end Hub

end Tether
