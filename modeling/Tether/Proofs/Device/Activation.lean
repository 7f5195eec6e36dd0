import Tether.Proofs.Device.Upkeep
import Tether.Proofs.Plugin.Orderly
import Tether.Proofs.Settings.Attempts

/-!
# Which plugins are at work

A plugin should be at work if it is of use with the device, the device is paired or the
plugin listens to any device, a link is attached, the plugin is switched on, and it can be
brought to work. Here it is shown that the plugins at work are those and no others, after
every operation, and that each packet type leads to those of them that receive it.

Two things are kept up. The roster is in order, whatever happens (`InOrder`): nothing needs
to be known of how plugins answer, and they may all be finished in between. And the roster
is current (`Current`): this says of every key whether its plugin is at work, by what
settings, links and the session were at the last reload. It needs plugins to stick to their
answers, since nobody asks them again, and it needs them to have names of their own: what
an identity leaves in settings is not followed by a reload, and could switch a plugin that
has the name of a setting.

Plugins may ask for whatever they like while they handle a packet.
-/

namespace Tether.Scene

open Plugin (Candidate Conduct Registry Roster)

/-- A device as it comes into being, whatever settings hold. -/
inductive Begun (site : Site) : Scene → Prop where
  | seen {env : Env} (ref : Nat) (i : PeerIdentity) : Begun site ⟨.ofIdentity ref i, env⟩
  | restored {env : Env} (ref : Nat) (id : String) :
      Begun site ⟨.ofTrusted site ref env.store id, env⟩

variable {site : Site} {s t : Scene}

/-! ## Candidates -/

theorem mem_candidates {c : Candidate} :
    c ∈ s.candidates site ↔
      ∃ key ∈ s.device.supported, ∃ i, Dict.find? site.registry key = some i ∧
        c = ⟨key, i, s.shouldEnable site key i⟩ := by
  simp [candidates, eq_comm]

theorem mem_candidates_registered (hf : site.registry.Formed) {c : Candidate}
    (h : c ∈ s.candidates site) :
    Dict.find? site.registry c.key = some c.info ∧ c.maker = c.key ∧
      c.enable = s.shouldEnable site c.key c.info := by
  obtain ⟨key, -, i, hi, rfl⟩ := mem_candidates.mp h
  have hkey : i.key = key := hf.key key i hi
  rw [Candidate.key, hkey]
  exact ⟨hi, rfl, rfl⟩

theorem candidates_ascending (hf : site.registry.Formed) (h : s.device.supported.Ascending) :
    Roll.Ascending ((s.candidates site).map Candidate.key) := by
  refine List.Pairwise.sublist ?_ h
  rw [candidates]
  generalize s.device.supported = supported
  induction supported with
  | nil => exact List.Sublist.slnil
  | cons key rest ih =>
      rw [List.filterMap_cons]
      cases hfind : Dict.find? site.registry key with
      | none => exact ih.cons _
      | some i =>
          have hkey : i.key = key := hf.key key i hfind
          rw [Option.map_some, List.map_cons, Candidate.key, hkey]
          exact ih.cons_cons _

theorem candidates_incoming (hf : site.registry.Formed) {c : Candidate}
    (h : c ∈ s.candidates site) : c.info.incoming.Nodup := by
  obtain ⟨key, -, i, hi, rfl⟩ := mem_candidates.mp h
  exact (hf.incoming key i hi).nodup

/-! ## Order -/

/-- Plugins that are of use, and plugins at work, stand in order. -/
structure InOrder (site : Site) (s : Scene) : Prop where
  supported : s.device.supported.Ascending
  roster : s.device.roster.Orderly site.registry

theorem fitting_ascending (hf : site.registry.Formed) (d : Details) :
    (fitting site d).Ascending := by
  rw [fitting]
  split
  · exact hf.forCapabilities_ascending _ _
  · exact hf.ascending

theorem InOrder.moved (hf : site.registry.Formed) (h : s.InOrder site)
    (hroster : t.device.roster = s.device.roster)
    (hsupported : t.device.supported = s.device.supported ∨
      t.device.supported = fitting site t.device.details) : t.InOrder site := by
  refine ⟨?_, ?_⟩
  · rcases hsupported with hsame | hfitting
    · rw [hsame]
      exact h.supported
    · rw [hfitting]
      exact fitting_ascending hf _
  · rw [hroster]
    exact h.roster

theorem reload_reloaded (hf : site.registry.Formed) (h : s.InOrder site) :
    Roster.Reloaded (s.candidates site) s.env.conducts s.device.roster
      (s.reload site).device.roster :=
  Roster.reloaded _ _ _ (candidates_ascending hf h.supported).nodup
    fun _ hc => candidates_incoming hf hc

theorem InOrder.reload (hf : site.registry.Formed) (h : s.InOrder site) :
    (s.reload site).InOrder site := by
  refine ⟨h.supported, h.roster.reload (reload_reloaded hf h)
    (candidates_ascending hf h.supported) fun c hc => ?_⟩
  obtain ⟨hregistered, hmaker, -⟩ := mem_candidates_registered hf hc
  exact ⟨hregistered, hmaker⟩

theorem upkept_inOrder (hf : site.registry.Formed) :
    Upkept site fun _ s => s.InOrder site where
  idle h hs := hs.moved hf h.roster (.inl h.supported)
  named _ _ hs := ⟨hs.supported, hs.roster⟩
  reload h _ hsupported hs := (hs.moved hf h.roster (.inl hsupported)).reload hf

theorem Begun.inOrder (hf : site.registry.Formed) (h : Begun site s) : s.InOrder site := by
  cases h with
  | seen ref i => exact ⟨List.Pairwise.nil, Roster.orderly_empty _⟩
  | restored ref id => exact ⟨hf.ascending, Roster.orderly_empty _⟩

/-- Plugins stand in order after every run. -/
theorem InOrder.run (hf : site.registry.Formed) (h : s.InOrder site) (ops : List Op) :
    (s.run site ops).InOrder site := by
  refine (upkept_inOrder hf).run (fun _ _ _ _ _ hs => ⟨hs.supported, hs.roster⟩) ?_ h
  intro op _
  cases op with
  | attach i link =>
      exact fun _ _ _ ht hfitting hs => (hs.moved hf ht.roster (.inr hfitting)).reload hf
  | detach link => exact fun _ _ _ ht hsame hs => (hs.moved hf ht.roster (.inl hsame)).reload hf
  | shutdownPlugins => exact fun _ _ hs => ⟨hs.supported, Roster.orderly_empty _⟩
  | elsewhere env => exact fun _ _ hs => ⟨hs.supported, hs.roster⟩
  | _ => trivial

/-! ## Who is at work -/

/-- Who is at work is who should have been when it was last decided. -/
structure Current (site : Site) (works : String → Bool) (paired : Bool) (s : Scene) : Prop
    extends s.InOrder site where
  answers : ∀ maker, (s.env.conducts maker).comesUp = works maker
  atWork : ∀ key, key ∈ s.device.roster.loaded.names ↔
    key ∈ s.device.supported ∧ ∃ i, Dict.find? site.registry key = some i ∧
      (paired = true ∨ i.listensToUnpaired = true) ∧ s.device.links ≠ [] ∧
      s.isEnabled site key = true ∧ works key = true

variable {works : String → Bool} {paired : Bool}

theorem shouldEnable_iff {key : String} {i : Plugin.Info} :
    s.shouldEnable site key i = true ↔
      (s.device.isPaired = true ∨ i.listensToUnpaired = true) ∧ s.device.links ≠ [] ∧
        s.isEnabled site key = true := by
  simp [shouldEnable, Device.isReachable, and_assoc]

/-- A reload makes a roster current, as long as whoever is at work can be brought to
work. -/
theorem InOrder.current (hf : site.registry.Formed) (h : s.InOrder site)
    (hanswers : ∀ maker, (s.env.conducts maker).comesUp = works maker)
    (hworks : ∀ key ∈ s.device.roster.loaded.names, works key = true) :
    (s.reload site).Current site works s.device.isPaired := by
  have hreloaded := reload_reloaded hf h
  refine ⟨h.reload hf, ?_, ?_⟩
  · intro maker
    rw [(s.steady_reload site).conducts]
    exact hanswers maker
  intro key
  show key ∈ (s.reload site).device.roster.loaded.names ↔
    key ∈ s.device.supported ∧ ∃ i, Dict.find? site.registry key = some i ∧
      (s.device.isPaired = true ∨ i.listensToUnpaired = true) ∧ s.device.links ≠ [] ∧
      s.isEnabled site key = true ∧ works key = true
  rw [← Dict.isSome_find?_iff]
  by_cases hkey : key ∈ (s.candidates site).map Candidate.key
  · obtain ⟨c, hc, rfl⟩ := List.mem_map.mp hkey
    obtain ⟨hfind, hmaker, henable⟩ := mem_candidates_registered hf hc
    have hsupported : c.key ∈ s.device.supported := by
      obtain ⟨key, hsupported, i, hi, rfl⟩ := mem_candidates.mp hc
      have hown : i.key = key := hf.key key i hi
      rw [Candidate.key, hown]
      exact hsupported
    have hstarted : ∀ i, Dict.find? s.device.roster.loaded c.key = some i →
        i.maker = c.maker ∧ (s.env.conducts c.maker).comesUp = true := by
      intro i hi
      have hname : c.key ∈ s.device.roster.loaded.names :=
        Dict.isSome_find?_iff.mp (by rw [hi]; rfl)
      refine ⟨(h.roster.own c.key i hi).2.trans hmaker.symm, ?_⟩
      rw [hanswers, hmaker]
      exact hworks c.key hname
    rw [hreloaded.atWork c hc, Candidate.goesToWork_of_started hstarted, hanswers, hmaker,
      henable, Bool.and_eq_true, shouldEnable_iff]
    constructor
    · rintro ⟨⟨hpaired, hlinks, hon⟩, hup⟩
      exact ⟨hsupported, c.info, hfind, hpaired, hlinks, hon, hup⟩
    · rintro ⟨-, i, hi, hpaired, hlinks, hon, hup⟩
      rw [hfind] at hi
      cases hi
      exact ⟨⟨hpaired, hlinks, hon⟩, hup⟩
  · rw [hreloaded.others key hkey]
    refine iff_of_false Bool.false_ne_true ?_
    rintro ⟨hsupported, i, hi, -⟩
    refine hkey (List.mem_map.mpr ⟨_, mem_candidates.mpr ⟨key, hsupported, i, hi, rfl⟩, ?_⟩)
    exact hf.key key i hi

theorem Current.idle (h : s.Current site works paired) (ht : s.Idle t) (hs : t.InOrder site) :
    t.Current site works paired := by
  refine ⟨hs, ?_, ?_⟩
  · intro maker
    rw [ht.conducts]
    exact h.answers maker
  · intro key
    rw [ht.roster, ht.supported, ht.links, isEnabled, ht.store, ht.id]
    exact h.atWork key

/-- A setting of another name leaves a plugin switched as it was. -/
theorem isEnabled_tryWrite {name key : String} (h : name ≠ key) (value : String) :
    (s.tryWrite (.putString s.device.id name value)).isEnabled site key =
      s.isEnabled site key := by
  have hstore : (s.env.ledger.tryWrite (.putString s.device.id name value)).store.getBool?
      s.device.id key = s.env.ledger.store.getBool? s.device.id key := by
    rcases (s.env.ledger.tryWrite_cases (.putString s.device.id name value)).2 with
      hdone | ⟨-, hsame⟩
    · rw [hdone, Store.getBool?, Store.Change.putString, Store.find?_put_other _ h, Store.getBool?]
    · rw [hsame]
  rw [isEnabled, isEnabled, tryWrite_device]
  show ((Store.getBool? (s.env.ledger.tryWrite _).store _ _).or _).getD false = _
  rw [hstore]
  rfl

theorem Current.named (h : s.Current site works paired) {name : String} (value : String)
    (hname : name ∉ site.registry.names) :
    (s.tryWrite (.putString s.device.id name value)).Current site works paired := by
  refine ⟨⟨h.supported, h.roster⟩, h.answers, fun key => ?_⟩
  rw [tryWrite_device, h.atWork key]
  refine and_congr_right fun _ => exists_congr fun i => and_congr_right fun hi => ?_
  have hne : name ≠ key := fun heq => hname (heq ▸ Registry.mem_names_iff.mpr ⟨i, hi⟩)
  rw [isEnabled_tryWrite hne]

theorem Current.reload (hf : site.registry.Formed) (h : s.Current site works paired)
    (ht : s.Moved t) (hs : t.InOrder site) :
    (t.reload site).Current site works t.device.isPaired := by
  refine hs.current hf ?_ ?_
  · intro maker
    rw [ht.conducts]
    exact h.answers maker
  · intro key hkey
    rw [ht.roster] at hkey
    obtain ⟨-, i, -, -, -, -, hworks⟩ := (h.atWork key).mp hkey
    exact hworks

theorem upkept_current (hf : site.registry.Formed)
    (hnames : Store.nameKey ∉ site.registry.names ∧ Store.kindKey ∉ site.registry.names) :
    Upkept site (Current site works) where
  idle ht h := h.idle ht (h.toInOrder.moved hf ht.roster (.inl ht.supported))
  named value hkey h := by
    rcases hkey with rfl | rfl
    · exact h.named value hnames.1
    · exact h.named value hnames.2
  reload ht _ hsupported h := h.reload hf ht (h.toInOrder.moved hf ht.roster (.inl hsupported))

theorem Begun.current (hf : site.registry.Formed) (h : Begun site s) :
    s.Current site (fun maker => (s.env.conducts maker).comesUp) s.device.isPaired := by
  refine ⟨h.inOrder hf, fun _ => rfl, fun key => ?_⟩
  cases h <;> simp [Device.ofIdentity, Device.ofTrusted, Dict.names]

end Scene

/-- Nobody finishes the plugins, and what goes on elsewhere does not change which plugins
can be brought to work. -/
def Op.Keeps (works : String → Bool) : Op → Prop
  | .shutdownPlugins => False
  | .elsewhere env => ∀ maker, (env.conducts maker).comesUp = works maker
  | _ => True

namespace Scene

open Plugin (Conduct Registry Roster)

variable {site : Site} {s : Scene} {works : String → Bool}

theorem Current.run (hf : site.registry.Formed)
    (hnames : Store.nameKey ∉ site.registry.names ∧ Store.kindKey ∉ site.registry.names)
    {ops : List Op} (hops : ∀ op ∈ ops, op.Keeps works)
    (h : s.Current site works s.device.isPaired) :
    (s.run site ops).Current site works (s.run site ops).device.isPaired := by
  refine (upkept_current hf hnames).run ?_ ?_ h
  · exact fun _ _ _ _ _ hs => ⟨⟨hs.supported, hs.roster⟩, hs.answers, hs.atWork⟩
  · intro op hop
    have hkeeps := hops op hop
    cases op with
    | attach i link =>
        exact fun _ _ _ ht hfitting hs =>
          hs.reload hf ht (hs.toInOrder.moved hf ht.roster (.inr hfitting))
    | detach link =>
        exact fun _ _ _ ht hsame hs =>
          hs.reload hf ht (hs.toInOrder.moved hf ht.roster (.inl hsame))
    | shutdownPlugins => exact hkeeps.elim
    | elsewhere env => exact fun _ _ hs => ⟨⟨hs.supported, hs.roster⟩, hkeeps, hs.atWork⟩
    | _ => trivial

/-- However a device comes into being and whatever happens to it: at work are those of the
plugins of use with it that it is paired enough for, that are switched on and that can be
brought to work, and none without a link. A packet type leads to those of them that receive
it, in order. -/
theorem atWork_iff (hr : site.registry.Built)
    (hnames : Store.nameKey ∉ site.registry.names ∧ Store.kindKey ∉ site.registry.names)
    (hs : Begun site s) {ops : List Op}
    (hops : ∀ op ∈ ops, op.Keeps fun maker => (s.env.conducts maker).comesUp) :
    let t := s.run site ops
    (∀ key, key ∈ t.device.roster.loaded.names ↔
      key ∈ t.device.supported ∧ ∃ i, Dict.find? site.registry key = some i ∧
        (t.device.isPaired = true ∨ i.listensToUnpaired = true) ∧ t.device.links ≠ [] ∧
        t.isEnabled site key = true ∧ (s.env.conducts key).comesUp = true) ∧
    t.device.roster.loaded.Ascending ∧
    ∀ type, t.device.roster.keysFor type =
      t.device.roster.loaded.names.filter (site.registry.admits type true) := by
  intro t
  have hcurrent := (hs.current hr.formed).run hr.formed hnames hops
  exact ⟨hcurrent.atWork, hcurrent.roster.ascending, hcurrent.roster.keysFor⟩

/-- A device is paired, and its user switches one of two plugins off. -/
theorem atWork_while_switched_off :
    let ring : Plugin.Info := { key := "ring", name := "Ring", incoming := ["ping"] }
    let news : Plugin.Info :=
      { key := "news", name := "News", incoming := ["ping"], listensToUnpaired := true }
    let site : Site := { registry := [("news", news), ("ring", ring)] }
    let s : Scene := { device := .ofIdentity 0 { id := "peer" }, env := {} }
    let ops : List Op :=
      [.attach { id := "peer" } "lan", .pairing .request, .receive (Pairing.packet 1 true),
        .setPlugin "news" false]
    "ring" ∈ (s.run site ops).device.roster.loaded.names ∧
      "news" ∉ (s.run site ops).device.roster.loaded.names ∧
      (s.run site ops).device.roster.keysFor "ping" = ["ring"] := by
  intro ring news site s ops
  have hring : Registry.Built [("ring", ring)] :=
    .register (i := ring) .empty (List.pairwise_singleton _ _) List.Pairwise.nil rfl
  have hboth : site.registry.Built :=
    .register (i := news) hring (List.pairwise_singleton _ _) List.Pairwise.nil (by decide)
  have hops : ∀ op ∈ ops, op.Keeps fun maker => (s.env.conducts maker).comesUp := by
    intro op hop
    simp only [ops, List.mem_cons, List.not_mem_nil, or_false] at hop
    rcases hop with rfl | rfl | rfl | rfl <;> trivial
  have hbegun : Begun site s := .seen 0 { id := "peer" }
  obtain ⟨hatWork, -, hkeys⟩ := atWork_iff hboth (by decide) hbegun hops
  refine ⟨?_, ?_, ?_⟩
  · have hsupported : "ring" ∈ (s.run site ops).device.supported := by decide +kernel
    have hpaired : (s.run site ops).device.isPaired = true := by decide +kernel
    have hlinks : (s.run site ops).device.links ≠ [] := by decide +kernel
    have hon : (s.run site ops).isEnabled site "ring" = true := by decide +kernel
    have hfind : Dict.find? site.registry "ring" = some ring := by decide
    exact (hatWork "ring").mpr ⟨hsupported, ring, hfind, .inl hpaired, hlinks, hon, by decide⟩
  · have hoff : (s.run site ops).isEnabled site "news" = false := by decide +kernel
    intro hnews
    obtain ⟨-, i, -, -, -, hon, -⟩ := (hatWork "news").mp hnews
    rw [hoff] at hon
    cases hon
  · rw [hkeys]
    decide +kernel

end Tether.Scene
