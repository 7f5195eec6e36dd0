import Tether.Proofs.Device.Activation

/-!
# Who is given a packet

A packet of pairing goes to the session and to nobody else. Any other packet goes to
plugins, and which ones depends on whether the device is paired when the packet arrives: if
it is not, it is unpaired first, which reloads its plugins, and only those that listen to
any device are given the packet. No path leads from a device that is not paired to a plugin
for paired devices.

What plugins were handed is a reading of the trace, and everything but the dispatch itself
leaves it alone: pairing and reloads hand out nothing (`upkept_handed`). The dispatch hands
the packet to the recipients of the roster it finds. How a plugin takes the packet does not
matter to the others. What it asks for while it has the packet may, so here plugins ask for
nothing; the recipients are those of the beginning in any case.
-/

namespace Tether.Scene

variable {site : Site} {s : Scene}

/-- Plugins ask for nothing while they handle a packet. -/
def Silent (s : Scene) : Prop :=
  ∀ maker, (s.env.conducts maker).requests = []

theorem settlePlugins_env (site : Site) (s : Scene) :
    (s.settlePlugins site).env =
      (s.env.call fun shop => s.device.roster.reload shop s.owner (s.candidates site)).2 := rfl

theorem reload_handed (site : Site) (s : Scene) :
    (s.reload site).env.handed = s.env.handed := by
  have hcall := s.env.handed_call_untouched fun shop =>
    s.device.roster.reload_untouched Plugin.Shop.handed_untouched shop s.owner
      (s.candidates site)
  rw [reload_eq, (idle_tellListeners _).handed, settlePlugins_env, hcall]

theorem upkept_handed (site : Site) (handed : List (Plugin.Instance × Bool × Packet)) :
    Upkept site fun _ s => s.env.handed = handed where
  idle h hs := h.handed.trans hs
  named _ _ hs := hs
  reload h _ _ hs := by
    rw [reload_handed, h.handed]
    exact hs

theorem give_silent (h : s.Silent) (p : Packet) (paired : Bool) (i : Plugin.Instance) :
    s.give site p paired i =
      { s with env := (s.env.call fun shop => shop.handle i paired p).2 } := by
  have hnone : (s.env.call fun shop => shop.handle i paired p).1 = [] := h i.maker
  show List.foldl _ _ (s.env.call fun shop => shop.handle i paired p).1 = _
  rw [hnone]
  rfl

theorem give_handed (site : Site) (h : s.Silent) (p : Packet) (paired : Bool) (i : Plugin.Instance) :
    (s.give site p paired i).Silent ∧ (s.give site p paired i).device = s.device ∧
      (s.give site p paired i).env.handed = s.env.handed ++ [(i, paired, p)] := by
  have halike := s.env.alike_call fun shop => shop.conducts_handle i paired p
  rw [give_silent h]
  refine ⟨?_, rfl, ?_⟩
  · intro maker
    rw [halike.conducts]
    exact h maker
  · rw [Env.handed_call, Plugin.Shop.handed_handle]
    rfl

/-- A dispatch hands the packet to each recipient, one after the other, and changes nothing
about the device. -/
theorem dispatch_handed (site : Site) (h : s.Silent) (p : Packet) (paired : Bool) :
    (s.dispatch site p paired).device = s.device ∧
      (s.dispatch site p paired).env.handed = s.env.handed ++
        (s.device.roster.recipients p.type paired).map fun i => (i, paired, p) := by
  rw [dispatch]
  generalize s.device.roster.recipients p.type paired = recipients
  induction recipients generalizing s with
  | nil => exact ⟨rfl, (List.append_nil _).symm⟩
  | cons i rest ih =>
      obtain ⟨hsilent, hdevice, hhanded⟩ := give_handed site h p paired i
      obtain ⟨hlast, hall⟩ := ih hsilent
      rw [List.foldl_cons, hlast, hall, hdevice, hhanded, List.append_assoc]
      exact ⟨rfl, rfl⟩

/-- A device in order hands a packet to the plugins at work that are to be given it. -/
theorem InOrder.dispatch_handed (ho : s.InOrder site) (h : s.Silent) (p : Packet)
    (paired : Bool) :
    (s.dispatch site p paired).device = s.device ∧
      (s.dispatch site p paired).env.handed = s.env.handed ++
        (s.device.roster.loaded.filter fun e => site.registry.admits p.type paired e.1).map
          fun e => (e.2, paired, p) := by
  obtain ⟨hdevice, hhanded⟩ := Scene.dispatch_handed site h p paired
  refine ⟨hdevice, ?_⟩
  rw [hhanded, ho.roster.recipients, List.map_map]
  rfl

/-- For every device and every packet that arrives, in whatever state: a packet of pairing
is handed to no plugin. Another packet is handed once to each plugin at work that receives
its type, in the order of their keys, if the device is paired; and if it is not, it is
unpaired after that, and of those plugins only the ones that listen to any device are handed
the packet. -/
theorem receive_routes (hr : site.registry.Built) (hs : Begun site s) (ops : List Op)
    (p : Packet) (hsilent : (s.run site ops).Silent) :
    let t := s.run site ops
    let u := t.receive site p
    (p.isType Packet.pairType = true → u.env.handed = t.env.handed) ∧
    (p.isType Packet.pairType = false → t.device.isPaired = true →
      (t.device.roster.table ≠ [] → u.device.roster = t.device.roster) ∧
      u.env.handed = t.env.handed ++
        (u.device.roster.loaded.filter fun e => site.registry.admits p.type true e.1).map
          fun e => (e.2, true, p)) ∧
    (p.isType Packet.pairType = false → t.device.isPaired = false →
      u.device.session.state = .unpaired ∧
      u.env.handed = t.env.handed ++
        (u.device.roster.loaded.filter fun e => site.registry.admits p.type false e.1).map
          fun e => (e.2, false, p)) ∧
    u.device.roster.loaded.Ascending ∧
    ∀ key i, Dict.find? u.device.roster.loaded key = some i → i.key = key := by
  intro t u
  have horder : t.InOrder site := (hs.inOrder hr.formed).run hr.formed ops
  have hafter : u.InOrder site := horder.run hr.formed [.receive p]
  have hhands := upkept_handed site t.env.handed
  refine ⟨?_, ?_, ?_, hafter.roster.ascending, fun key i hi => (hafter.roster.own key i hi).1⟩
  · intro hpair
    have hreceive : u = t.pair site (.received p) := by
      show t.receive site p = _
      rw [receive, if_pos hpair]
    rw [hreceive]
    exact hhands.pair _ rfl
  · intro hother hpaired
    have hreceive : u = (t.reloadOnce site).dispatch site p true := by
      show t.receive site p = _
      rw [receive, if_neg (Bool.eq_false_iff.mp hother), if_pos hpaired]
    have hready : (t.reloadOnce site).InOrder site :=
      (upkept_inOrder hr.formed).reloadOnce horder
    have hkept : (t.reloadOnce site).env.handed = t.env.handed := hhands.reloadOnce rfl
    have hquiet : (t.reloadOnce site).Silent := by
      intro maker
      rw [(steady_of_asides (@asides_reloadOnce site (fun _ => True) t)).conducts]
      exact hsilent maker
    obtain ⟨hdevice, hhanded⟩ := hready.dispatch_handed hquiet p true
    rw [hreceive, hdevice, hhanded, hkept]
    refine ⟨fun htable => ?_, rfl⟩
    have hbusy : t.device.roster.table.isEmpty = false := by
      rw [Bool.eq_false_iff, Ne, List.isEmpty_iff]
      exact htable
    rw [reloadOnce, hbusy, Bool.false_and, if_neg Bool.false_ne_true]
  · intro hother hunpaired
    have hreceive : u = (t.pair site .unpair).dispatch site p false := by
      show t.receive site p = _
      rw [receive, if_neg (Bool.eq_false_iff.mp hother), if_neg (Bool.eq_false_iff.mp hunpaired)]
    have hready : (t.pair site .unpair).InOrder site := (upkept_inOrder hr.formed).pair _ horder
    have hkept : (t.pair site .unpair).env.handed = t.env.handed := hhands.pair _ rfl
    have hquiet : (t.pair site .unpair).Silent := by
      intro maker
      rw [(t.steady_pair site .unpair).conducts]
      exact hsilent maker
    obtain ⟨hdevice, hhanded⟩ := hready.dispatch_handed hquiet p false
    rw [hreceive, hdevice, hhanded, hkept]
    refine ⟨?_, rfl⟩
    rw [pair_session, Pairing.Session.turn_unpair]

/-- A device that is not paired sends a packet, and the one plugin that is handed it
crashes. -/
theorem receive_routes_unpaired :
    let ring : Plugin.Info := { key := "ring", name := "Ring", incoming := ["ping"] }
    let news : Plugin.Info :=
      { key := "news", name := "News", incoming := ["ping"], listensToUnpaired := true }
    let site : Site := { registry := [("news", news), ("ring", ring)] }
    let env : Env :=
      { makers := [("news", { conduct := { onPacket := .crash } })] }
    let s : Scene := { device := .ofIdentity 0 { id := "peer" }, env }
    let ops : List Op := [.attach { id := "peer" } "lan"]
    let p : Packet := Packet.make 7 "ping" .null
    (s.run site ops).env.handed = [] ∧
      ((s.run site ops).receive site p).env.handed = [(⟨"news", "news", 1⟩, false, p)] := by
  intro ring news site env s ops p
  have hring : Plugin.Registry.Built [("ring", ring)] :=
    .register (i := ring) .empty (List.pairwise_singleton _ _) List.Pairwise.nil rfl
  have hboth : site.registry.Built :=
    .register (i := news) hring (List.pairwise_singleton _ _) List.Pairwise.nil (by decide)
  have hbegun : Begun site s := .seen 0 { id := "peer" }
  have hconducts : (s.run site ops).env.conducts = s.env.conducts := by
    have hasides := @asides_of_apply site s (.attach { id := "peer" } "lan")
    exact (steady_of_asides hasides).conducts.trans (s.learn_conducts _)
  have hsilent : (s.run site ops).Silent := by
    intro maker
    rw [hconducts]
    show ((Dict.find? env.makers maker).getD {}).conduct.requests = []
    simp only [env, Dict.find?]
    split <;> rfl
  have hroutes := receive_routes hboth hbegun ops p hsilent
  have hbefore : (s.run site ops).env.handed = [] := by decide +kernel
  have hloaded : ((s.run site ops).receive site p).device.roster.loaded =
      [("news", ⟨"news", "news", 1⟩)] := by decide +kernel
  have hnone := (hroutes.2.2.1 (by decide) (by decide +kernel)).2
  rw [hbefore, hloaded] at hnone
  refine ⟨hbefore, hnone.trans ?_⟩
  decide +kernel

end Tether.Scene
