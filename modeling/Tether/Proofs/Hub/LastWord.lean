import Tether.Proofs.Device.Parting
import Tether.Proofs.Env.Begun
import Tether.Proofs.Hub.Reached

/-!
# The last word to a device that is forgotten

The other side is told of the end of trust by a packet, and that waits in the outbox for the worker
while the device goes on to take leave. When the links are asked to close, either the worker got
that far, and the packet was handed to a link, or it did not, and the packet waits still.

That is so for whatever jobs are done meanwhile (`World.jobs`): the device has its outbox and its
links all the time (`World.Tends`), and what waits in an outbox waits still or was begun
(`World.Bides`). As nothing in forgetting waits for the worker, the second case is the usual one.
-/

namespace Tether

/-! ## Links that hold nobody up -/

namespace Links

variable {ls ls' : Links} {ids : LinkSet}

theorem Ready.change (h : ls.Ready ids) (id : String) {f : Link → Link}
    (hf : ∀ l, (f l).gated = l.gated ∧ (f l).conduct = l.conduct) : (ls.change id f).Ready ids := by
  intro other hother
  have hready := h other hother
  simp only [link, Links.change, Dict.find?_adjust] at hready ⊢
  cases hlink : Dict.find? ls other with
  | none =>
      rw [hlink] at hready
      exact hready
  | some l =>
      obtain ⟨hgated, hconduct⟩ := hf l
      rw [hlink] at hready
      simp only [Option.map_some, Option.getD_some] at hready ⊢
      split
      · rw [hgated, hconduct]
        exact hready
      · exact hready

theorem Ready.pass (h : ls.Ready ids) {id : String} (hpass : ls.pass? id = some ls') :
    ls'.Ready ids := by
  simp only [pass?] at hpass
  split at hpass
  · cases hpass
    exact h
  · split at hpass
    · cases hpass
    · cases hpass
      exact h.change id fun _ => ⟨rfl, rfl⟩

theorem Ready.removeEverywhere (h : ls.Ready ids) (device : Nat) :
    (ls.removeEverywhere device).Ready ids := by
  intro other hother
  have hready := h other hother
  have hfind := Dict.find?_map
    (fun l : Link => { l with receivers := l.receivers.filter (· ≠ device) }) ls other
  rw [link, Links.removeEverywhere, hfind]
  rw [link] at hready
  cases hlink : Dict.find? ls other <;> rw [hlink] at hready <;> exact hready

end Links

namespace Env

variable {e f : Env} {o : Nat} {links : LinkSet}

theorem Carries.ready (h : e.Carries f) (hready : e.links.Ready links) : f.links.Ready links := by
  induction h with
  | refl => exact hready
  | tail _ hstep ih =>
      cases hstep with
      | pass hpass => exact ih.pass hpass
      | park | pop | worker | call | record | spawn => exact ih

theorem Queues.hands (h : e.Queues f) : Hands o links e f := by
  obtain ⟨new, hnew, -⟩ := h.trace
  refine ⟨?_, fun item hitem => .inl ((h.items o).subset hitem)⟩
  rw [hnew]
  exact List.prefix_append _ _

end Env

namespace World

variable {site : Site} {w w' w'' : World} {ref other o : Nat} {links : LinkSet} {d : Device}

theorem setDevice_setDevice (w : World) {d d' : Device} (h : d'.ref = d.ref) :
    (w.setDevice d).setDevice d' = w.setDevice d' := by
  simp only [setDevice, List.map_map, h]
  congr 2
  funext other
  dsimp only [Function.comp]
  by_cases hother : other.ref = d.ref <;> simp [hother]

/-- Two things that are done to a device, one after the other. -/
theorem act_act (f g : Scene → Scene) (hd : w.device? ref = some d)
    (hf : (f ⟨d, w.env⟩).device.ref = d.ref) (hg : (g (f ⟨d, w.env⟩)).device.ref = d.ref) :
    (w.act ref f).act ref g = w.act ref fun s => g (f s) := by
  have hact : w.act ref f =
      { w with env := (f ⟨d, w.env⟩).env }.setDevice (f ⟨d, w.env⟩).device := by
    rw [act, visit, hd]
  have hfound := (device?_act hd hf ref).trans (if_pos rfl)
  show ((w.act ref f).visit ref _).2 = (w.visit ref _).2
  rw [visit, hfound, visit, hd, hact]
  exact setDevice_setDevice { w with env := (g (f ⟨d, w.env⟩)).env } (hg.trans hf.symm)

/-! ## While a device takes leave -/

/-- Jobs are done one after the other. -/
def jobs (site : Site) (w : World) (todo : List Job) : World :=
  todo.foldl (perform site) w

/-- Somebody keeps a device that has an outbox, and links. -/
structure Tends (w : World) (ref o : Nat) (links : LinkSet) : Prop where
  wired : w.Wired
  kept : ref ∈ w.kept
  there : ∃ d, w.device? ref = some d ∧ d.outbox = some o ∧ d.links = links

/-- The device has its outbox and its links, and what waits in the outbox waits still, or was begun.
The links hold nobody up if they did not before. -/
structure Bides (ref o : Nat) (links : LinkSet) (w w' : World) : Prop extends
    w'.Tends ref o links, w.env.Hands o links w'.env where
  ready : w.env.links.Ready links → w'.env.links.Ready links

theorem Tends.bides (h : w.Tends ref o links) : Bides ref o links w w :=
  ⟨h, .refl _, id⟩

theorem Bides.trans (h : Bides ref o links w w') (h' : Bides ref o links w' w'') :
    Bides ref o links w w'' :=
  ⟨h'.toTends, h.toHands.trans h'.toHands, fun hready => h'.ready (h.ready hready)⟩

/-- The outbox of the device is that of no other. -/
theorem Tends.linksOf (h : w.Tends ref o links) : w.linksOf o = links := by
  obtain ⟨d, hd, houtbox, hlinks⟩ := h.there
  have hin := mem_of_device? hd
  rw [World.linksOf]
  cases hfind : w.devices.find? fun d => d.outbox = some o with
  | none => exact absurd houtbox (by simpa using List.find?_eq_none.mp hfind d hin)
  | some d' =>
      have houtbox' : d'.outbox = some o := by simpa using List.find?_some hfind
      have hin' := List.mem_of_find?_eq_some hfind
      have hsame := h.wired.apart d' hin' d hin o houtbox' houtbox
      rw [List.inj_on_of_nodup_map h.wired.once hin' hin hsame]
      exact hlinks

theorem Tends.act (h : w.Tends ref o links) (other : Nat) {f : Scene → Scene}
    (hf : ∀ s : Scene, s.Keeps (f s)) : (w.act other f).Tends ref o links := by
  obtain ⟨d, hd, houtbox, hlinks⟩ := h.there
  cases hother : w.device? other with
  | none =>
      rw [act_none hother]
      exact h
  | some d' =>
      have hkeeps := hf ⟨d', w.env⟩
      refine ⟨h.wired.act other fun s => (hf s).minds, (act_eq hother f).2.2 ▸ h.kept, ?_⟩
      rw [device?_act hother hkeeps.ref]
      split
      · next heq =>
          subst heq
          rw [hd] at hother
          cases hother
          exact ⟨_, rfl, hkeeps.outbox.trans houtbox, hkeeps.links.trans hlinks⟩
      · exact ⟨d, hd, houtbox, hlinks⟩

/-- Something by which packets are queued at most is done to a device. -/
theorem Tends.bides_act (h : w.Tends ref o links) (other : Nat) {f : Scene → Scene}
    (hkeeps : ∀ s : Scene, s.Keeps (f s)) (hqueues : ∀ s : Scene, s.Queues (f s)) :
    Bides ref o links w (w.act other f) := by
  have hlater := h.act other hkeeps
  cases hother : w.device? other with
  | none =>
      rw [act_none hother]
      exact h.bides
  | some d' =>
      have henv := (act_eq hother f).1
      have hq := hqueues ⟨d', w.env⟩
      refine ⟨hlater, ?_, fun hready => ?_⟩
      · rw [henv]
        exact hq.toQueues.hands
      · rw [henv, hq.links]
        exact hready

/-- Whoever goes takes nothing with it but what is its own. -/
theorem Tends.env_sweep (h : w.Tends ref o links) :
    w.env.trace <+: w.sweep.env.trace ∧ w.sweep.env.outbox o = w.env.outbox o ∧
      (w.env.links.Ready links → w.sweep.env.links.Ready links) := by
  obtain ⟨d, hd, houtbox, -⟩ := h.there
  have hgone : ∀ gone ∈ w.devices.filter (not ∘ fun d => w.isHeld d.ref),
      gone.outbox ≠ some o := by
    intro gone hgone hsame
    obtain ⟨hin, hfree⟩ := List.mem_filter.mp hgone
    have href := h.wired.apart gone hin d (mem_of_device? hd) o hsame houtbox
    rw [ref_of_device? hd] at href
    simp [href, isHeld_of_kept h.kept] at hfree
  rw [World.sweep, List.partition_eq_filter_filter]
  refine List.foldlRecOn
    (motive := fun e : Env => w.env.trace <+: e.trace ∧ e.outbox o = w.env.outbox o ∧
      (w.env.links.Ready links → e.links.Ready links))
    _ part ⟨List.prefix_rfl, rfl, id⟩ fun e he gone hmem => ?_
  obtain ⟨htrace, hbox, hready⟩ := he
  refine ⟨htrace.trans ?_, (part_outbox e gone (hgone gone hmem)).trans hbox, fun hbefore => ?_⟩
  · rw [part]
    split
    · exact List.prefix_append _ _
    · exact List.prefix_rfl
  · have hleft := (hready hbefore).removeEverywhere gone.ref
    rw [part]
    split <;> exact hleft

theorem Tends.bides_sweep (h : w.Tends ref o links) : Bides ref o links w w.sweep := by
  obtain ⟨d, hd, houtbox, hlinks⟩ := h.there
  obtain ⟨htrace, hbox, hready⟩ := h.env_sweep
  refine ⟨⟨h.wired.sweep, h.kept, d, ?_, houtbox, hlinks⟩, .of_outbox htrace hbox, hready⟩
  rw [device?_sweep, if_pos (isHeld_of_kept h.kept)]
  exact hd

theorem Tends.bides_perform (site : Site) (h : w.Tends ref o links) (job : Job) :
    Bides ref o links w (w.perform site job) := by
  have hpair (other : Nat) (i : Pairing.Input) :
      Bides ref o links w (w.act other fun s => s.pair site i).sweep := by
    have hacted := h.bides_act other (f := fun s => s.pair site i)
      (fun s => Scene.keeps_pair site s i) fun s => Scene.queues_pair site s i
    exact hacted.trans hacted.bides_sweep
  have htraffic {env : Env} (hcarries : w.env.Carries env) (hhands : w.env.Hands o links env) :
      Bides ref o links w { w with env }.sweep := by
    have hcarried : Bides ref o links w { w with env } :=
      ⟨⟨h.wired.around hcarries.keeps, h.kept, h.there⟩, hhands, hcarries.ready⟩
    exact hcarried.trans hcarried.bides_sweep
  have hcall {env : Env} (herrands : w.env.Errands env) :
      Bides ref o links w { w with env }.sweep := by
    refine htraffic herrands.carries (.of_outbox herrands.carries.trace ?_)
    rw [Env.outbox, herrands.outboxes, Env.outbox]
  have hlinks {other : Nat} (heq : other = o) : w.linksOf other = links := heq ▸ h.linksOf
  cases job with
  | report other reason => exact hpair other _
  | expire other generation => exact hpair other _
  | work other => exact htraffic (w.env.carries_work other _) (w.env.hands_work hlinks)
  | resume runner p =>
      cases runner with
      | worker other =>
          exact htraffic (w.env.carries_resumeWork other _ p) (w.env.hands_resumeWork hlinks p)
      | call c => exact hcall (w.env.errands_resumeCall c p)
  | begin c => exact hcall (w.env.errands_begin c _)
  | transfer c => exact hcall (w.env.errands_transfer c)
  | wake c => exact hcall (w.env.errands_wake c)

theorem Tends.bides_jobs (site : Site) (h : w.Tends ref o links) (todo : List Job) :
    Bides ref o links w (w.jobs site todo) := by
  induction todo generalizing w with
  | nil => exact h.bides
  | cons job rest ih =>
      have hfirst := h.bides_perform site job
      exact hfirst.trans (ih hfirst.toTends)

/-- In its turn a worker that no link holds up takes out all that waits. -/
theorem Tends.items_work (site : Site) (h : w.Tends ref o links) (hready : w.env.links.Ready links) :
    ((w.perform site (.work o)).env.outbox o).items = [] := by
  obtain ⟨d, hd, houtbox, -⟩ := h.there
  have hopen := (h.wired.fastened d (mem_of_device? hd)).opened o houtbox
  have hworked : ({ w with env := w.env.work o (w.linksOf o) } : World).Tends ref o links :=
    ⟨h.wired.around (w.env.carries_work o _).keeps, h.kept, h.there⟩
  show ((World.sweep { w with env := w.env.work o (w.linksOf o) }).env.outbox o).items = []
  rw [hworked.env_sweep.2.1, h.linksOf]
  exact Env.items_work hready hopen

/-- Among jobs of which one is the turn of the worker, what waits is begun if no link holds the
worker up. -/
theorem Tends.begins_in_turn (site : Site) (h : w.Tends ref o links)
    (hready : w.env.links.Ready links) {todo : List Job} (hturn : .work o ∈ todo)
    {item : Outbox.Item} (hitem : item ∈ (w.env.outbox o).items) :
    w.env.Begins (item.over links) (w.jobs site todo).env := by
  obtain ⟨earlier, later, rfl⟩ := List.append_of_mem hturn
  have hsplit : w.jobs site (earlier ++ .work o :: later) =
      ((w.jobs site earlier).perform site (.work o)).jobs site later := by
    rw [jobs, List.foldl_append]
    rfl
  have hearlier := h.bides_jobs site earlier
  have hworked := hearlier.bides_perform site (.work o)
  have hlater := hworked.bides_jobs site later
  have hempty := hearlier.items_work site (hearlier.ready hready)
  have hbegun := ((hearlier.trans hworked).items item hitem).resolve_left (by simp [hempty])
  rw [hsplit]
  exact hbegun.mono List.prefix_rfl hlater.trace

/-- What waits when the worker has its turn was waiting all the time, or was begun before. -/
theorem Bides.begins_in_turn (site : Site) (h : Bides ref o links w w')
    (hready : w.env.links.Ready links) {todo : List Job} (hturn : .work o ∈ todo)
    {item : Outbox.Item} (hitem : item ∈ (w.env.outbox o).items) :
    w.env.Begins (item.over links) (w'.jobs site todo).env := by
  rcases h.items item hitem with hwaits | hbegun
  · exact (h.toTends.begins_in_turn site (h.ready hready) hturn hwaits).mono h.trace
      List.prefix_rfl
  · exact hbegun.mono List.prefix_rfl (h.bides_jobs site todo).trace

/-- The world when trust in a device has ended, before anybody is told but the other side. -/
def unpair (w : World) (ref : Nat) : World :=
  w.act ref fun s => s.unpaired.bidFarewell

/-- A device takes leave, up to where its links are asked to close. After each step jobs are
done. -/
def leaving (site : Site) (w : World) (ref : Nat) (first second third : List Job) : World :=
  let untrusted := ((w.unpair ref).jobs site first).act ref fun s => s.onPairing site .unpaired
  ((untrusted.jobs site second).act ref Scene.shutdownPlugins).jobs site third

theorem Tends.bides_unpair (h : w.Tends ref o links) : Bides ref o links w (w.unpair ref) :=
  h.bides_act ref Scene.keeps_bidFarewell Scene.queues_bidFarewell

theorem Tends.bides_onPairing (site : Site) (h : w.Tends ref o links) (event : PairingEvent) :
    Bides ref o links w (w.act ref fun s => s.onPairing site event) :=
  h.bides_act ref (fun s => Scene.keeps_onPairing site s event)
    fun s => Scene.queues_onPairing site s event

theorem Tends.bides_shutdown (h : w.Tends ref o links) :
    Bides ref o links w (w.act ref Scene.shutdownPlugins) :=
  h.bides_act ref Scene.keeps_shutdownPlugins Scene.queues_shutdownPlugins

/-- When the links are asked to close, what waited at the end of trust waits still or was begun. It
was begun if the worker had its turn and no link held it up. -/
theorem Tends.leaving (site : Site) (h : w.Tends ref o links) (first second third : List Job) :
    Bides ref o links (w.unpair ref) (w.leaving site ref first second third) ∧
      (w.env.links.Ready links → .work o ∈ first ++ second ++ third →
        ∀ item ∈ ((w.unpair ref).env.outbox o).items, (w.unpair ref).env.Begins
          (item.over links) (w.leaving site ref first second third).env) := by
  have htold := h.bides_unpair
  have hfirst := htold.bides_jobs site first
  have huntrusted := hfirst.bides_onPairing site .unpaired
  have hsecond := huntrusted.bides_jobs site second
  have hfinished := hsecond.bides_shutdown
  have hthird := hfinished.bides_jobs site third
  have hlate := hsecond.trans (hfinished.trans hthird)
  refine ⟨hfirst.trans (huntrusted.trans hlate), fun hready hturn item hitem => ?_⟩
  have hstill := htold.ready hready
  rw [List.append_assoc, List.mem_append, List.mem_append] at hturn
  rcases hturn with hturn | hturn | hturn
  · exact (htold.toTends.begins_in_turn site hstill hturn hitem).mono List.prefix_rfl
      (huntrusted.trans hlate).trace
  · exact ((hfirst.trans huntrusted).begins_in_turn site hstill hturn hitem).mono List.prefix_rfl
      (hfinished.trans hthird).trace
  · exact (hfirst.trans (huntrusted.trans (hsecond.trans hfinished))).begins_in_turn site hstill
      hturn hitem

theorem Tends.trace_disconnect (h : w.Tends ref o links) :
    (w.act ref Scene.disconnect).env.trace = w.env.trace ++ links.map .closing := by
  obtain ⟨d, hd, -, hlinks⟩ := h.there
  rw [(act_eq hd _).1, Scene.disconnect_trace, hlinks]

end World

namespace Hub

variable {site : Site} {h : Hub} {id : String} {d : Device}

/-- A device that is known and has links has an outbox. -/
theorem Orderly.tends (ho : h.Orderly) (hd : h.device? id = some d) (hlinks : d.links ≠ []) :
    ∃ o, d.outbox = some o ∧ (h.world.env.outbox o).closed = false ∧
      h.world.Tends d.ref o d.links := by
  obtain ⟨hknown, hdevice, -⟩ := ho.known hd
  have hfastened := ho.wired.fastened d (World.mem_of_device? hdevice)
  obtain ⟨o, houtbox⟩ := Option.isSome_iff_exists.mp (hfastened.outbox.mpr hlinks)
  exact ⟨o, houtbox, hfastened.opened o houtbox, ho.wired, (ho.there id d.ref hknown).1, d, hdevice,
    houtbox, rfl⟩

theorem forget_world (site : Site) (hf : h.Formed) (hd : h.device? id = some d) :
    (h.forget site id).2.world = h.world.act d.ref (leave site) :=
  congrArg (fun answer => answer.2.world) (forget_known site hf hd)

/-- Forgetting as it is does no jobs. -/
theorem forget_leaving (site : Site) (hf : h.Formed) (hd : h.device? id = some d) :
    (h.forget site id).2.world =
      (h.world.leaving site d.ref [] [] []).act d.ref Scene.disconnect := by
  obtain ⟨-, hdevice, -⟩ := hf.known hd
  have htold := (Scene.keeps_bidFarewell (h.scene d)).ref
  have hpair := (Scene.keeps_onPairing site (h.scene d).unpaired.bidFarewell .unpaired).ref.trans
    htold
  have hshut := (Scene.keeps_shutdownPlugins
    ((h.scene d).unpaired.bidFarewell.onPairing site .unpaired)).ref.trans hpair
  have hleave := (Scene.keeps_disconnect
    ((h.scene d).unpaired.bidFarewell.onPairing site .unpaired).shutdownPlugins).ref.trans hshut
  have hall : leave site = fun s =>
      ((s.unpaired.bidFarewell.onPairing site .unpaired).shutdownPlugins).disconnect := by
    funext s
    rw [leave, Scene.pair_unpair]
    rfl
  have htwo := World.act_act (fun s => s.unpaired.bidFarewell)
    (fun s => s.onPairing site .unpaired) hdevice htold hpair
  have hthree := World.act_act (fun s => s.unpaired.bidFarewell.onPairing site .unpaired)
    Scene.shutdownPlugins hdevice hpair hshut
  have hfour := World.act_act
    (fun s => (s.unpaired.bidFarewell.onPairing site .unpaired).shutdownPlugins)
    Scene.disconnect hdevice hshut hleave
  rw [forget_world site hf hd, hall, World.leaving, World.unpair]
  simp only [World.jobs, List.foldl_nil]
  rw [htwo, hthree, hfour]

/-- When a device that has links is forgotten, the reject waits behind everything else as soon as
trust has ended. Whatever jobs are done from then on until the links are asked to close, by then it
waits still, or it was handed to a link. If the worker had its turn and no link held it up, it was
handed.

Forgetting as it is gives no turn to anybody: links are asked to close before any of them is handed
anything, and the reject waits still. -/
theorem forget_unless_overtaken (hr : Reached site h) (hd : h.device? id = some d)
    (hlinks : d.links ≠ []) :
    let reject : Outbox.Item := ⟨(h.scene d).farewell, none, .pairing d.ref⟩
    let told := h.world.unpair d.ref
    let forgotten := (h.forget site id).2.world
    Pairing.ofPacket reject.packet = .ok false ∧
    (∀ ls, ∃ link ∈ d.links,
      ((reject.over d.links).run ls).events.head? = some (.attempt link false)) ∧
    ∃ o, d.outbox = some o ∧
      (told.env.outbox o).items = (h.world.env.outbox o).items ++ [reject] ∧
      (∀ first second third,
        let held := h.world.leaving site d.ref first second third
        (held.act d.ref Scene.disconnect).env.trace = held.env.trace ++ d.links.map .closing ∧
        (reject ∈ (held.env.outbox o).items ∨
          told.env.Begins (reject.over d.links) held.env) ∧
        (h.world.env.links.Ready d.links → .work o ∈ first ++ second ++ third →
          told.env.Begins (reject.over d.links) held.env)) ∧
      forgotten = (h.world.leaving site d.ref [] [] []).act d.ref Scene.disconnect ∧
      (∃ new, forgotten.env.trace = h.world.env.trace ++ new ++ d.links.map .closing ∧
        ∀ event ∈ new, event.attempted? = none) ∧
      reject ∈ (forgotten.env.outbox o).items := by
  intro reject told forgotten
  have ho := hr.orderly
  obtain ⟨-, hdevice, -⟩ := ho.known hd
  obtain ⟨o, houtbox, hopen, htends⟩ := ho.tends hd hlinks
  have htold : told.env = (h.scene d).unpaired.bidFarewell.env := (World.act_eq hdevice _).1
  have hgone : forgotten.env = (leave site (h.scene d)).env :=
    (congrArg World.env (forget_world site ho.toFormed hd)).trans (World.act_eq hdevice _).1
  have hlater : (h.scene d).unpaired.bidFarewell.Queues
      ((h.scene d).pair site .unpair).shutdownPlugins := by
    rw [Scene.pair_unpair]
    exact (Scene.queues_onPairing site _ .unpaired).trans (Scene.queues_shutdownPlugins _)
  have hitems : (told.env.outbox o).items = (h.world.env.outbox o).items ++ [reject] := by
    rw [htold]
    exact Scene.bidFarewell_items hlinks houtbox hopen
  have hin : reject ∈ (told.env.outbox o).items := by
    rw [hitems]
    exact List.mem_append_right _ List.mem_cons_self
  refine ⟨Scene.ofPacket_farewell _, fun ls => ?handed, o, houtbox, hitems,
    fun first second third => ?jobs, forget_leaving site ho.toFormed hd, ?silent, ?left⟩
  case handed =>
    obtain ⟨link, rest, hcons⟩ := List.exists_cons_of_ne_nil hlinks
    exact ⟨link, hcons ▸ List.mem_cons_self, Delivery.head?_run _ ls hcons⟩
  case jobs =>
    obtain ⟨hbides, hturn⟩ := htends.leaving site first second third
    exact ⟨hbides.trace_disconnect, hbides.items reject hin,
      fun hready hwork => hturn hready hwork reject hin⟩
  case silent =>
    have hkept : ((h.scene d).pair site .unpair).shutdownPlugins.device.links = d.links :=
      (Scene.keeps_pair site (h.scene d) .unpair).links
    obtain ⟨new, hnew, hnone⟩ := ((Scene.queues_bidFarewell _).trans hlater).trace
    refine ⟨new, ?_, hnone⟩
    rw [hgone, leave, Scene.disconnect_trace, hnew, hkept]
    rfl
  case left =>
    rw [hgone, leave, Env.outbox, Scene.disconnect_outboxes]
    exact (hlater.items o).subset (htold ▸ hin)

/-- The worker of a phone with one link, which delivers, has its turn when the plugins were
finished, and the phone is told. -/
theorem forget_unless_overtaken_phone :
    let phone : Hub := (new { links := [("lan", { name := "lan" })] }).play {}
      [.own (.connect { id := "phone" } "lan")]
    let told := phone.world.unpair 0
    let held := phone.world.leaving {} 0 [] [] [.work 0]
    phone.world.env.links.Ready ["lan"] ∧
      (held.act 0 Scene.disconnect).env.trace = held.env.trace ++ [.closing "lan"] ∧
      ∃ reject : Outbox.Item, Pairing.ofPacket reject.packet = .ok false ∧
        told.env.Begins (reject.over ["lan"]) held.env := by
  intro phone told held
  have hreached : Reached {} phone :=
    ⟨_, _, World.vacant_of_unknown rfl (by decide),
      List.forall_mem_singleton.mpr (by trivial), rfl⟩
  have hready : phone.world.env.links.Ready ["lan"] := by
    intro id hid
    rw [List.mem_singleton.mp hid]
    decide +kernel
  have hview : (phone.device? "phone").map (fun d => (d.ref, d.links, d.outbox)) =
      some (0, ["lan"], some 0) := by
    decide +kernel
  obtain ⟨d, hd, hshown⟩ := Option.map_eq_some_iff.mp hview
  obtain ⟨href, hrest⟩ := Prod.mk.inj hshown
  obtain ⟨hlinks, houtbox⟩ := Prod.mk.inj hrest
  obtain ⟨hreject, -, o, ho, -, hjobs, -⟩ :=
    forget_unless_overtaken hreached hd (hlinks ▸ List.cons_ne_nil _ _)
  cases houtbox.symm.trans ho
  obtain ⟨hclosing, -, hturn⟩ := hjobs [] [] [.work 0]
  rw [href, hlinks] at hclosing
  rw [href, hlinks] at hturn
  exact ⟨hready, hclosing, ⟨(phone.scene d).farewell, none, .pairing 0⟩, hreject,
    hturn hready List.mem_cons_self⟩

/-- A phone with one link is forgotten, and then let go by whoever asked. The link is asked to close
and is handed nothing, then or later, though it would deliver. -/
theorem forget_overtaken :
    let phone : Hub := (new { links := [("lan", { name := "lan" })] }).play {}
      [.own (.connect { id := "phone" } "lan")]
    let forgotten := (phone.forget {} "phone").2.world
    let settled := (forgotten.release 0).settle {}
    Reached {} phone ∧
      (phone.device? "phone").map Device.links = some ["lan"] ∧
      (phone.world.env.links.link "lan").conduct = .deliver ∧
      forgotten.env.trace = phone.world.env.trace ++ [.closing "lan"] ∧
      settled.env.trace.filterMap Event.attempted? = [] := by
  intro phone forgotten settled
  have hreached : Reached {} phone :=
    ⟨_, _, World.vacant_of_unknown rfl (by decide),
      List.forall_mem_singleton.mpr (by trivial), rfl⟩
  exact ⟨hreached, by decide +kernel, by decide +kernel, by decide +kernel,
    by decide +kernel⟩

end Hub

end Tether
