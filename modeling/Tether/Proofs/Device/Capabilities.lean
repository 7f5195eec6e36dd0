import Mathlib.Data.List.Induction
import Tether.Proofs.Device.Activation
import Tether.Proofs.Device.Fastened

/-!
# Which plugins are of use

A device announces what packet types it receives and sends, on each link and not always
both. What it last announced decides which plugins are of use with it. The roll of those is
kept, and it is made anew only when a link is newly attached: an identity that comes again
on a link that is attached already is learned, and the roll stays as it was.

So the roll fits what was last announced, unless something was overlooked in this way and no
link was newly attached since (`supported_or_overlooked`). That it can be overlooked is no
accident of the statement: `supported_overlooked` shows a device that ends up with a plugin
it has no use for.
-/

namespace Tether

/-- The packet types that a device said it receives and sends, as far as it did. -/
structure Capabilities where
  incoming : Option Roll
  outgoing : Option Roll
deriving DecidableEq

def Details.capabilities (d : Details) : Capabilities :=
  ⟨d.incoming, d.outgoing⟩

namespace Capabilities

/-- What is announced after an operation. What an identity leaves out stays. -/
def after (id : String) (c : Capabilities) : Op → Capabilities
  | .attach i _ => if i.id = id then ⟨i.incoming.or c.incoming, i.outgoing.or c.outgoing⟩ else c
  | _ => c

/-- A registered plugin is of use if it has no types or shares one with the device; if not
both sides are known, every one is. -/
def Suit (registry : Plugin.Registry) (c : Capabilities) (key : String) : Prop :=
  ∃ i, Dict.find? registry key = some i ∧
    ∀ incoming outgoing, c.incoming = some incoming → c.outgoing = some outgoing →
      i.incoming = [] ∧ i.outgoing = [] ∨ (∃ type ∈ i.incoming, type ∈ outgoing) ∨
        ∃ type ∈ i.outgoing, type ∈ incoming

end Capabilities

namespace Scene

variable {site : Site} {s t : Scene}

/-- What was last announced after operations. -/
def announced (s : Scene) (ops : List Op) : Capabilities :=
  ops.foldl (Capabilities.after s.device.id) s.device.details.capabilities

theorem announced_concat (s : Scene) (ops : List Op) (op : Op) :
    s.announced (ops ++ [op]) = (s.announced ops).after s.device.id op :=
  List.foldl_concat _ _ _ _

theorem learned_capabilities (id : String) (d : Details) (op : Op) :
    (learned id d op).capabilities = d.capabilities.after id op := by
  cases op with
  | attach i link =>
      rw [learned, Capabilities.after]
      split <;> rfl
  | _ => rfl

theorem run_announced (site : Site) (s : Scene) (ops : List Op) :
    (s.run site ops).device.details.capabilities = s.announced ops := by
  rw [run_details, announced]
  generalize s.device.details = d
  induction ops generalizing d with
  | nil => rfl
  | cons op rest ih => rw [List.foldl_cons, ih, learned_capabilities, List.foldl_cons]

theorem mem_fitting (hf : site.registry.Formed) {d : Details} {key : String} :
    key ∈ fitting site d ↔ d.capabilities.Suit site.registry key := by
  rw [fitting, Capabilities.Suit, Details.capabilities]
  split
  · next incoming outgoing hincoming houtgoing =>
      rw [hf.mem_forCapabilities]
      refine exists_congr fun i => and_congr_right fun _ => ?_
      rw [Plugin.Info.isSupportedBy_iff]
      simp [hincoming, houtgoing]
  · next hunknown =>
      rw [Plugin.Registry.mem_names_iff]
      refine exists_congr fun i => (and_iff_left ?_).symm
      intro incoming outgoing hincoming houtgoing
      exact (hunknown _ _ hincoming houtgoing).elim

/-! ## What an operation does to the roll -/

theorem attach_ok {i : PeerIdentity} (hid : i.id = s.device.id) (link : String) :
    (s.attach site i link).1 = .ok () := by
  rw [attach, if_neg (fun hne => hne hid)]
  dsimp only
  split <;> rfl

/-- A link that is newly attached comes last, and the roll is made anew. -/
theorem attach_new {i : PeerIdentity} {link : String} (hid : i.id = s.device.id)
    (h : link ∉ s.device.links) :
    (s.attach site i link).2.device.links = s.device.links ++ [link] ∧
      (s.attach site i link).2.device.supported =
        fitting site (s.attach site i link).2.device.details := by
  have hadd : (s.learn i).device.links.add? link = some (s.device.links ++ [link]) := by
    rw [learn_device, LinkSet.add?, if_neg]
    simpa using h
  rw [attach, if_neg (fun hne => hne hid)]
  simp only [hadd]
  refine ⟨?_, ?_⟩
  · split <;> exact (idle_openOutbox _).links
  · split <;> rfl

theorem attach_links {i : PeerIdentity} (hid : i.id = s.device.id) (link : String) :
    (s.attach site i link).2.device.links ≠ [] := by
  by_cases h : link ∈ s.device.links
  · rw [attach_repeated hid h, learn_device]
    exact List.ne_nil_of_mem h
  · rw [(attach_new hid h).1]
    exact List.concat_ne_nil _ _

/-- An operation attaches a link newly. -/
def Adds (s : Scene) (op : Op) : Prop :=
  ∃ i link, op = .attach i link ∧ i.id = s.device.id ∧ link ∉ s.device.links

theorem apply_of_adds {op : Op} (h : s.Adds op) :
    (s.apply site op).device.supported = fitting site (s.apply site op).device.details := by
  obtain ⟨i, link, rfl, hid, hnew⟩ := h
  exact (attach_new hid hnew).2

theorem upkept_rolls (site : Site) (links : LinkSet) (supported : Roll) :
    Upkept site fun _ s => s.device.links = links ∧ s.device.supported = supported where
  idle h hs := ⟨h.links.trans hs.1, h.supported.trans hs.2⟩
  named _ _ hs := hs
  reload _ hlinks hsupported hs := ⟨hlinks.trans hs.1, hsupported.trans hs.2⟩

/-- Nothing else makes the roll anew, and nothing else attaches the first link. -/
theorem apply_of_not_adds {op : Op} (h : ¬s.Adds op) :
    (s.apply site op).device.supported = s.device.supported ∧
      (s.device.links = [] → (s.apply site op).device.links = []) := by
  have hrolls := upkept_rolls site s.device.links s.device.supported
  have hkeep : op.Spares site (fun _ t => t.device.links = s.device.links ∧
      t.device.supported = s.device.supported) →
      (s.apply site op).device.supported = s.device.supported ∧
        (s.device.links = [] → (s.apply site op).device.links = []) := by
    intro hop
    obtain ⟨hlinks, hsupported⟩ := hrolls.apply (fun _ _ _ _ _ hs => hs) hop ⟨rfl, rfl⟩
    exact ⟨hsupported, fun hnone => hlinks.trans hnone⟩
  cases op with
  | attach i link =>
      rw [apply]
      by_cases hid : i.id = s.device.id
      · have hold : link ∈ s.device.links := by
          by_contra hnew
          exact h ⟨i, link, rfl, hid, hnew⟩
        rw [attach_repeated hid hold, learn_device]
        exact ⟨rfl, id⟩
      · rw [attach, if_pos hid]
        exact ⟨rfl, id⟩
  | detach link =>
      rw [apply, detach]
      split
      · exact ⟨rfl, id⟩
      · next links hremove =>
          refine ⟨?_, fun hnone => ?_⟩
          · dsimp only
            split
            · exact (idle_closeOutbox _).supported
            · rfl
          · rw [hnone] at hremove
            cases hremove
  | shutdownPlugins => exact hkeep fun _ _ hs => hs
  | elsewhere env => exact hkeep fun _ _ hs => hs
  | _ => exact hkeep trivial

/-! ## Runs -/

/-- Somewhere in a run an identity on a link that was attached already changed what is
announced, and no link was newly attached since. -/
def Overlooked (site : Site) (s : Scene) (ops : List Op) : Prop :=
  ∃ earlier i link later, ops = earlier ++ .attach i link :: later ∧ i.id = s.device.id ∧
    link ∈ (s.run site earlier).device.links ∧
    s.announced (earlier ++ [.attach i link]) ≠ s.announced earlier ∧
    ∀ before op rest, later = before ++ op :: rest →
      ¬(s.run site (earlier ++ .attach i link :: before)).Adds op

theorem Overlooked.concat {ops : List Op} {op : Op} (h : s.Overlooked site ops)
    (hop : ¬(s.run site ops).Adds op) : s.Overlooked site (ops ++ [op]) := by
  obtain ⟨earlier, i, link, later, rfl, hid, hold, hchange, hsince⟩ := h
  refine ⟨earlier, i, link, later ++ [op], by simp, hid, hold, hchange, ?_⟩
  intro before other rest hsplit
  rcases List.eq_nil_or_concat rest with rfl | ⟨rest, last, rfl⟩
  · obtain ⟨rfl, hlast⟩ := List.append_inj' hsplit rfl
    cases hlast
    exact hop
  · rw [List.concat_eq_append, ← List.cons_append, ← List.append_assoc] at hsplit
    obtain ⟨hlater, -⟩ := List.append_inj' hsplit rfl
    exact hsince before other rest hlater

/-- The roll fits what was last announced, or the device is out of reach, or something was
overlooked. -/
theorem supported_cases (hf : site.registry.Formed) (hs : s.device.links = [])
    (ops : List Op) :
    (s.run site ops).device.links = [] ∨
    (∀ key, key ∈ (s.run site ops).device.supported ↔
      (s.announced ops).Suit site.registry key) ∨
    s.Overlooked site ops := by
  induction ops using List.reverseRecOn with
  | nil => exact .inl hs
  | append_singleton ops op ih =>
      have hrun : s.run site (ops ++ [op]) = (s.run site ops).apply site op := by
        rw [run_append]
        rfl
      rw [hrun]
      by_cases hadds : (s.run site ops).Adds op
      · refine .inr (.inl fun key => ?_)
        rw [apply_of_adds hadds, mem_fitting hf, ← hrun, run_announced]
      · obtain ⟨hsupported, hlinks⟩ := @apply_of_not_adds site _ _ hadds
        rcases ih with hnone | hexact | hover
        · exact .inl (hlinks hnone)
        · by_cases hsame : s.announced (ops ++ [op]) = s.announced ops
          · rw [hsupported, hsame]
            exact .inr (.inl hexact)
          · refine .inr (.inr ?_)
            -- Only an identity of the device changes what is announced.
            obtain ⟨i, link, rfl, hid⟩ : ∃ i link, op = .attach i link ∧ i.id = s.device.id := by
              rw [announced_concat] at hsame
              cases op with
              | attach i link =>
                  by_contra hforeign
                  refine hsame (if_neg fun hid => hforeign ⟨i, link, rfl, hid⟩)
              | _ => exact absurd rfl hsame
            refine ⟨ops, i, link, [], rfl, hid, ?_, hsame, fun _ _ _ hnil => by simp at hnil⟩
            by_contra hnew
            exact hadds ⟨i, link, rfl, by rw [run_id, hid], hnew⟩
        · exact .inr (.inr (hover.concat hadds))

/-- However a device comes into being and whatever happens to it: after each attachment of a
link that the device accepts, the plugins of use with it are those that fit the capabilities
last announced, unless an identity on a link that was attached already changed these and no
link was newly attached since. -/
theorem supported_or_overlooked (hr : site.registry.Built) (hs : Begun site s)
    (ops : List Op) (i : PeerIdentity) (link : String) (hid : i.id = s.device.id) :
    ((s.run site ops).attach site i link).1 = .ok () ∧
    ((∀ key, key ∈ ((s.run site ops).attach site i link).2.device.supported ↔
      (s.announced (ops ++ [.attach i link])).Suit site.registry key) ∨
    s.Overlooked site (ops ++ [.attach i link])) := by
  have hown : i.id = (s.run site ops).device.id := by rw [run_id, hid]
  refine ⟨attach_ok hown link, ?_⟩
  have hrun : s.run site (ops ++ [.attach i link]) =
      ((s.run site ops).attach site i link).2 := by
    rw [run_append]
    rfl
  have hnone : s.device.links = [] := by cases hs <;> rfl
  rw [← hrun]
  rcases supported_cases hr.formed hnone (ops ++ [.attach i link]) with hlinks | hrest
  · rw [hrun] at hlinks
    exact absurd hlinks (attach_links hown link)
  · exact hrest

/-- A device that is trusted announces what it sends, and of two plugins one receives it. -/
theorem supported_at_first_link :
    let ring : Plugin.Info := { key := "ring", name := "Ring", incoming := ["ping"] }
    let news : Plugin.Info := { key := "news", name := "News", incoming := ["news"] }
    let site : Site := { registry := [("news", news), ("ring", ring)] }
    let env : Env := {}
    let s : Scene := { device := .ofTrusted site 0 env.store "peer", env }
    let peer : PeerIdentity := { id := "peer", incoming := some [], outgoing := some ["ping"] }
    "ring" ∈ (s.attach site peer "lan").2.device.supported ∧
      "news" ∉ (s.attach site peer "lan").2.device.supported := by
  intro ring news site env s peer
  have hring : Plugin.Registry.Built [("ring", ring)] :=
    .register (i := ring) .empty (List.pairwise_singleton _ _) List.Pairwise.nil rfl
  have hboth : site.registry.Built :=
    .register (i := news) hring (List.pairwise_singleton _ _) List.Pairwise.nil (by decide)
  have hbegun : Begun site s := .restored 0 "peer"
  have hfits := (supported_or_overlooked hboth hbegun [] peer "lan" rfl).2.resolve_right <| by
    rintro ⟨earlier, i, link, later, hsplit, -, hold, -⟩
    cases earlier with
    | nil => cases hold
    | cons op rest => simp at hsplit
  refine ⟨(hfits "ring").mpr ?_, fun hnews => ?_⟩
  · refine ⟨ring, by decide, fun incoming outgoing _ houtgoing => .inr (.inl ⟨"ping", ?_, ?_⟩)⟩
    · exact List.mem_cons_self
    · cases houtgoing
      exact List.mem_cons_self
  · obtain ⟨i, hi, hall⟩ := (hfits "news").mp hnews
    have hinfo : Dict.find? site.registry "news" = some news := by decide
    rw [hinfo] at hi
    cases hi
    have hmeets := hall [] ["ping"] (by decide) (by decide)
    revert hmeets
    decide

/-- The device announces on the same link that it sends nothing any more. The plugin for what
it sent stays among those of use. -/
theorem supported_overlooked :
    let ring : Plugin.Info := { key := "ring", name := "Ring", incoming := ["ping"] }
    let site : Site := { registry := [("ring", ring)] }
    let peer (types : Roll) : PeerIdentity :=
      { id := "peer", incoming := some [], outgoing := some types }
    let s : Scene := { device := .ofIdentity 0 { id := "peer" }, env := {} }
    let ops : List Op := [.attach (peer ["ping"]) "lan"]
    ((s.run site ops).attach site (peer []) "lan").1 = .ok () ∧
      "ring" ∈ ((s.run site ops).attach site (peer []) "lan").2.device.supported ∧
      ¬(s.announced (ops ++ [.attach (peer []) "lan"])).Suit site.registry "ring" := by
  intro ring site peer s ops
  refine ⟨attach_ok rfl "lan", by decide +kernel, ?_⟩
  rintro ⟨i, hi, hall⟩
  have hinfo : Dict.find? site.registry "ring" = some ring := by decide
  rw [hinfo] at hi
  cases hi
  have hmeets := hall [] [] (by decide) (by decide)
  revert hmeets
  decide

end Scene

end Tether
