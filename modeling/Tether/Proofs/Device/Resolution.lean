import Tether.Proofs.Device.Steady
import Tether.Proofs.Env.Traffic
import Tether.World

/-!
# Every packet is resolved once

A packet that a device sends ends up in one of four ways: a link delivers it, no link
does, another packet takes its place while it is unsent, or it is taken back. Whoever
sent it is told in the first two cases, once, and in the others not at all. It does not
matter how often the outbox comes and goes in between, nor that a delivery goes on over
links that were detached long ago.

The steps of traffic are as small as they can be without opening a link: a worker takes
one packet and gets as far with it as links let it, and another step begins where it
has to wait. Between any two steps links may come to behave otherwise, as long as they
do not crash. So all that a device does about packets is a list of such steps, in an
order that no scheduler needs to have chosen. When a worker has its turn among the jobs of a
world, what it does is such a list, too (`perform_work`, `perform_resume`).

What is proved of a list of steps is a balance. The words said and outstanding, and the
packets that gave way or were taken back, are together as many as the packets that were
submitted.
-/

namespace Tether

/-- Something that concerns the packets of a device. -/
inductive Traffic where
  | attach (i : PeerIdentity) (link : String)
  | detach (link : String)
  | send (p : Packet) (replace : Option Nat) (callback : Callback)
  | takeBack (replace : Nat)
  /-- The worker of an outbox looks for a packet, and sends it until it has to wait. -/
  | work (outbox : Nat)
  /-- The worker that the job with a number is for goes on with its delivery. -/
  | goOn (job : Nat)
  /-- A link lets one packet pass. -/
  | permit (link : String)
  /-- Links are like this from now on. -/
  | links (links : Links)

namespace Traffic

/-- No link crashes from now on. -/
def Calm : Traffic → Prop
  | links ls => ls.Calm
  | _ => True

/-- Whether a packet is submitted in someone's name. -/
def submits (name : String) : Traffic → Bool
  | send _ _ callback => callback.isOf name
  | _ => false

end Traffic

namespace Scene

open Outbox (awaited)

/-- The links that an outbox sends over. -/
def linksOf (s : Scene) (o : Nat) : LinkSet :=
  if s.device.outbox = some o then s.device.links else []

/-- The scene after a step of traffic. -/
def carry (site : Site) (s : Scene) : Traffic → Scene
  | .attach i link => (s.attach site i link).2
  | .detach link => (s.detach site link).2
  | .send p replace callback => s.send p replace callback
  | .takeBack replace => (s.takeBack replace).2
  | .work o => { s with env := (s.env.workOnce o (s.linksOf o)).2 }
  | .goOn job => { s with env := s.env.goOn job }
  | .permit link => { s with env := s.env.permit link }
  | .links links => { s with env.links := links }

/-- The scene after steps of traffic. -/
def flow (site : Site) (s : Scene) (steps : List Traffic) : Scene :=
  steps.foldl (carry site) s

/-- The unsent packets that give way to a packet with a replacement number. -/
def yielding (s : Scene) (replace : Option Nat) : List Outbox.Item :=
  s.device.outbox.elim [] fun o => (s.env.outbox o).under replace

/-- The unsent packets that give way or are taken back in a step. -/
def leaving (s : Scene) : Traffic → List Outbox.Item
  | .send _ replace _ => s.yielding replace
  | .takeBack replace => s.yielding (some replace)
  | _ => []

/-- Some packet of someone was unsent, and in a step it gave way or was taken back. -/
def GaveWay (site : Site) (name : String) (s : Scene) (steps : List Traffic) : Prop :=
  ∃ earlier m later, steps = earlier ++ m :: later ∧
    ∃ i ∈ (s.flow site earlier).leaving m, i.callback.isOf name = true

/-- How many packets of someone gave way or were taken back. -/
def withdrawn (site : Site) (name : String) (s : Scene) : List Traffic → Nat
  | [] => 0
  | m :: rest => awaited name (s.leaving m) + (s.carry site m).withdrawn site name rest

variable {site : Site} {name : String} {s : Scene}

/-! ## Jobs of workers

What a worker does in one go is a number of steps, over the links that it is given in a
world with this device alone.
-/

theorem linksOf_eq (w : World) {d : Device} (h : w.devices = [d]) (o : Nat) :
    w.linksOf o = linksOf ⟨d, w.env⟩ o := by
  rw [World.linksOf, h, linksOf]
  by_cases hbox : d.outbox = some o <;> simp [hbox]

theorem flow_workAtMost (site : Site) (o n : Nat) (s : Scene) :
    ∃ k, s.flow site (.replicate k (.work o)) =
      { s with env := Env.workAtMost o (s.linksOf o) n s.env } := by
  induction n generalizing s with
  | zero => exact ⟨0, rfl⟩
  | succ n ih =>
      rw [Env.workAtMost]
      obtain ⟨k, hk⟩ := ih (s.carry site (.work o))
      split
      · next e hmore =>
          refine ⟨k + 1, hk.trans ?_⟩
          have henv : (s.carry site (.work o)).env = e := by rw [carry, hmore]
          rw [henv]
          rfl
      · next e hdone =>
          refine ⟨1, ?_⟩
          show s.carry site (.work o) = _
          rw [carry, hdone]

theorem flow_work (site : Site) (o : Nat) (s : Scene) :
    ∃ k, s.flow site (.replicate k (.work o)) =
      { s with env := s.env.work o (s.linksOf o) } :=
  flow_workAtMost site o _ s

theorem flow_resumeWork (site : Site) {o : Nat} {w : Delivery.Waiting} {ready : List Job}
    (h : s.env.ready = .resume (.worker o) w :: ready) :
    ∃ k, s.flow site (.goOn 0 :: .replicate k (.work o)) =
      { s with env := { s.env with ready }.resumeWork o (s.linksOf o) w } := by
  have hgoOn : s.env.goOn 0 =
      ((({ s.env with ready } : Env).follow (.worker o) w.resume).2.settleWorker o
        (({ s.env with ready } : Env).follow (.worker o) w.resume).1).2 := by
    rw [Env.goOn, h]
    rfl
  rw [Env.resumeWork]
  dsimp only
  split
  · next e hmore =>
      obtain ⟨k, hk⟩ := flow_work site o (s.carry site (.goOn 0))
      refine ⟨k, hk.trans ?_⟩
      have henv : (s.carry site (.goOn 0)).env = e := by rw [carry, hgoOn, hmore]
      rw [henv]
      rfl
  · next e hdone =>
      refine ⟨0, ?_⟩
      show s.carry site (.goOn 0) = _
      rw [carry, hgoOn, hdone]

/-- A job that lets a worker go on is steps of traffic. -/
theorem perform_work (site : Site) (w : World) {d : Device} (h : w.devices = [d]) (o : Nat) :
    ∃ k, w.perform site (.work o) =
      World.sweep { w with env := (flow site ⟨d, w.env⟩ (.replicate k (.work o))).env } := by
  obtain ⟨k, hk⟩ := flow_work site o ⟨d, w.env⟩
  refine ⟨k, ?_⟩
  rw [hk, World.perform, linksOf_eq w h]

/-- So is the next job, if it lets a worker go on with its delivery. -/
theorem perform_resume (site : Site) (w : World) {d : Device} (h : w.devices = [d]) {o : Nat}
    {waiting : Delivery.Waiting} {ready : List Job}
    (hready : w.env.ready = .resume (.worker o) waiting :: ready) :
    ∃ k, w.next?.map (fun next => next.2.perform site next.1) =
      some (World.sweep { w with
        env := (flow site ⟨d, w.env⟩ (.goOn 0 :: .replicate k (.work o))).env }) := by
  obtain ⟨k, hk⟩ := flow_resumeWork (s := ⟨d, w.env⟩) site hready
  refine ⟨k, ?_⟩
  rw [hk, World.next?, Env.next?, hready, ← linksOf_eq w h]
  rfl

/-! ## Order

What a device does besides sending and taking back keeps things in order, and the tally as
it is.
-/

/-- What someone with a name waits for is in order, and a device without links has no
outbox. -/
structure Moored (name : String) (s : Scene) : Prop where
  holds : s.env.Holds name s.device.outbox
  idle : s.device.links = [] → s.device.outbox = none

/-- Links may change as long as they do not crash. -/
theorem Moored.relink {t : Scene} (h : s.Moored name) {links : Links} (hcalm : links.Calm)
    (henv : t.env = { s.env with links }) (hbox : t.device.outbox = s.device.outbox)
    (hlinks : t.device.links = s.device.links) :
    t.Moored name ∧ t.env.tally name = s.env.tally name := by
  refine ⟨⟨?_, ?_⟩, by rw [henv]; rfl⟩
  · rw [henv, hbox]
    exact h.holds.of_outboxes hcalm rfl
  · rw [hbox, hlinks]
    exact h.idle

theorem writes_env (changes : List Store.Change) (s : Scene) :
    ∃ ledger, (changes.foldl tryWrite s).env = { s.env with ledger } := by
  induction changes generalizing s with
  | nil => exact ⟨_, rfl⟩
  | cons c rest ih =>
      obtain ⟨ledger, hrest⟩ := ih (s.tryWrite c)
      exact ⟨ledger, hrest⟩

theorem Moored.learn (h : s.Moored name) (i : PeerIdentity) :
    (s.learn i).Moored name ∧ (s.learn i).env.tally name = s.env.tally name := by
  obtain ⟨changes, hfollow, -⟩ := s.follow_eq i
  obtain ⟨ledger, hwrites⟩ := writes_env changes s
  have henv : (s.learn i).env = { s.env with ledger } := by
    rw [Scene.learn, hfollow]
    exact hwrites
  refine ⟨⟨?_, ?_⟩, by rw [henv]; rfl⟩
  · rw [henv, learn_device]
    exact h.holds.of_outboxes h.holds.calm rfl
  · rw [learn_device]
    exact h.idle

theorem Moored.reload (h : s.Moored name) (site : Site) :
    (s.reload site).Moored name ∧ (s.reload site).env.tally name = s.env.tally name := by
  obtain ⟨hcall, htally⟩ : (s.settlePlugins site).env.Holds name s.device.outbox ∧
      (s.settlePlugins site).env.tally name = s.env.tally name :=
    h.holds.call fun shop => s.device.roster.reload shop s.owner (s.candidates site)
  have hnone : ∀ t : Scene, (t.device.listeners.map fun l =>
      Event.pluginsChanged l t.device.id t.glimpse).countP (Event.settles name) = 0 := by
    intro t
    rw [List.countP_map, List.countP_eq_zero]
    exact fun _ _ => Bool.false_ne_true
  refine ⟨⟨hcall.record _, h.idle⟩, ?_⟩
  rw [reload_eq, tellListeners, ← htally]
  exact (Env.tally_record _ _ _).trans (by rw [hnone, Nat.add_zero])

theorem moored_openOutbox (h : s.env.Holds name s.device.outbox) (hlinks : s.device.links ≠ []) :
    s.openOutbox.Moored name ∧ s.openOutbox.env.tally name = s.env.tally name := by
  rw [openOutbox]
  split
  · exact ⟨⟨h, fun hnil => absurd hnil hlinks⟩, rfl⟩
  · next hnone =>
      rw [hnone] at h
      obtain ⟨hopen, htally⟩ := h.openOutbox s.device.id
      exact ⟨⟨hopen, fun hnil => absurd hnil hlinks⟩, htally⟩

theorem moored_closeOutbox (h : s.env.Holds name s.device.outbox) :
    s.closeOutbox.Moored name ∧ s.closeOutbox.env.tally name = s.env.tally name := by
  rw [closeOutbox]
  split
  · next o hsome =>
      rw [hsome] at h
      obtain ⟨hclosed, htally⟩ := h.closeOutbox
      exact ⟨⟨hclosed, fun _ => rfl⟩, htally⟩
  · next hnone => exact ⟨⟨h, fun _ => hnone⟩, rfl⟩

/-! ## Steps -/

theorem Moored.attach (h : s.Moored name) (site : Site) (i : PeerIdentity) (link : String) :
    (s.attach site i link).2.Moored name ∧
      (s.attach site i link).2.env.tally name = s.env.tally name := by
  rw [Scene.attach]
  split
  · exact ⟨h, rfl⟩
  · obtain ⟨hknown, hlearn⟩ := h.learn i
    rw [← hlearn]
    generalize s.learn i = t at *
    dsimp only
    cases hadd : t.device.links.add? link with
    | none => exact ⟨hknown, rfl⟩
    | some links =>
        have hlinks : links ≠ [] := by
          rw [LinkSet.add?] at hadd
          split at hadd
          · cases hadd
          · cases hadd
            exact List.append_ne_nil_of_right_ne_nil _ (List.cons_ne_nil _ _)
        obtain ⟨hopen, htally⟩ :=
          moored_openOutbox (s := { t with device.links := links }) hknown.holds hlinks
        -- What follows is the same for the first link and for any other.
        have hrest : ∀ (v : Scene) (ref : Nat),
            v.env = { (openOutbox { t with device.links := links }).env with
              links := (openOutbox { t with device.links := links }).env.links.addReceiver
                link ref } →
            v.device.outbox = (openOutbox { t with device.links := links }).device.outbox →
            v.device.links = (openOutbox { t with device.links := links }).device.links →
            (v.reload site).Moored name ∧ (v.reload site).env.tally name = t.env.tally name := by
          intro v ref henv hbox hsame
          have hcalm : ((openOutbox { t with device.links := links }).env.links.addReceiver
              link ref).Calm := hopen.holds.calm.change link fun _ => rfl
          obtain ⟨hv, hreceiving⟩ := hopen.relink hcalm henv hbox hsame
          obtain ⟨hreload, hlast⟩ := hv.reload site
          exact ⟨hreload, hlast.trans (hreceiving.trans htally)⟩
        dsimp only
        split
        · exact hrest _ _ rfl rfl rfl
        · exact hrest _ _ rfl rfl rfl

theorem Moored.detach (h : s.Moored name) (site : Site) (link : String) :
    (s.detach site link).2.Moored name ∧
      (s.detach site link).2.env.tally name = s.env.tally name := by
  rw [Scene.detach]
  cases hremove : s.device.links.remove? link with
  | none => exact ⟨h, rfl⟩
  | some links =>
      have hcalm : (s.env.links.removeReceiver link s.device.ref).Calm :=
        h.holds.calm.change link fun _ => rfl
      have hleft : ({ s.env with links := s.env.links.removeReceiver link s.device.ref } :
          Env).Holds name s.device.outbox := h.holds.of_outboxes hcalm rfl
      dsimp only
      split
      · obtain ⟨hclosed, htally⟩ := moored_closeOutbox (s := { s with
          device.links := links
          env.links := s.env.links.removeReceiver link s.device.ref }) hleft
        obtain ⟨hnoted, hsame⟩ := hclosed.relink (t := { closeOutbox { s with
            device.links := links
            env.links := s.env.links.removeReceiver link s.device.ref } with
          device.reloadOnPacket := true }) hclosed.holds.calm rfl rfl rfl
        obtain ⟨hreload, hlast⟩ := hnoted.reload site
        exact ⟨hreload, hlast.trans (hsame.trans htally)⟩
      · next hlinks =>
          obtain ⟨hreload, hlast⟩ := Moored.reload (s := { s with
            device.links := links
            env.links := s.env.links.removeReceiver link s.device.ref })
            ⟨hleft, fun hnil => absurd (List.isEmpty_iff.mpr hnil) hlinks⟩ site
          exact ⟨hreload, hlast⟩

theorem Moored.send (h : s.Moored name) (p : Packet) (replace : Option Nat)
    (c : Callback) :
    (s.send p replace c).Moored name ∧
      (s.send p replace c).env.tally name + awaited name (s.yielding replace) =
        s.env.tally name + if c.isOf name then 1 else 0 := by
  have hholds := h.holds
  rw [Scene.send, yielding]
  cases hbox : s.device.outbox with
  | some o =>
      rw [hbox] at hholds
      obtain ⟨hadded, htally⟩ := hholds.submit p replace c
      exact ⟨⟨by rw [hbox]; exact hadded, h.idle⟩, htally⟩
  | none =>
      refine ⟨⟨h.holds.record _, h.idle⟩, (Env.tally_record _ _ _).trans ?_⟩
      simp [Callback.countP_tell, Report.isFinal]

theorem Moored.takeBack (h : s.Moored name) (n : Nat) :
    (s.takeBack n).2.Moored name ∧
      (s.takeBack n).2.env.tally name + awaited name (s.yielding (some n)) =
        s.env.tally name := by
  have hholds := h.holds
  rw [Scene.takeBack, yielding]
  cases hbox : s.device.outbox with
  | some o =>
      rw [hbox] at hholds
      obtain ⟨htaken, htally⟩ := hholds.takeFrom n
      exact ⟨⟨by rw [hbox]; exact htaken, h.idle⟩, htally⟩
  | none => exact ⟨h, rfl⟩

/-- A step keeps things in order, and the tally grows by what is submitted and shrinks by
what gives way or is taken back. -/
theorem Moored.carry (h : s.Moored name) (site : Site) {m : Traffic} (hm : m.Calm) :
    (s.carry site m).Moored name ∧
      (s.carry site m).env.tally name + awaited name (s.leaving m) =
        s.env.tally name + if m.submits name then 1 else 0 := by
  cases m with
  | attach i link => exact h.attach site i link
  | detach link => exact h.detach site link
  | send p replace c => exact h.send p replace c
  | takeBack n => exact h.takeBack n
  | work o =>
      obtain ⟨hholds, htally⟩ := h.holds.workOnce o (s.linksOf o)
      exact ⟨⟨hholds, h.idle⟩, htally⟩
  | goOn job =>
      obtain ⟨hholds, htally⟩ := h.holds.goOn job
      exact ⟨⟨hholds, h.idle⟩, htally⟩
  | permit link =>
      obtain ⟨hholds, htally⟩ := h.holds.permit link
      exact ⟨⟨hholds, h.idle⟩, htally⟩
  | links links => exact ⟨⟨h.holds.of_outboxes hm rfl, h.idle⟩, rfl⟩

theorem gaveWay_cons {m : Traffic} {rest : List Traffic} :
    s.GaveWay site name (m :: rest) ↔
      (∃ i ∈ s.leaving m, i.callback.isOf name = true) ∨
        (s.carry site m).GaveWay site name rest := by
  constructor
  · rintro ⟨earlier, m', later, heq, hleft⟩
    cases earlier with
    | nil =>
        cases heq
        exact .inl hleft
    | cons first earlier =>
        obtain ⟨rfl, rfl⟩ := List.cons.inj heq
        exact .inr ⟨earlier, m', later, rfl, hleft⟩
  · rintro (hleft | ⟨earlier, m', later, rfl, hleft⟩)
    · exact ⟨[], m, rest, rfl, hleft⟩
    · exact ⟨m :: earlier, m', later, rfl, hleft⟩

theorem withdrawn_pos {steps : List Traffic} :
    0 < s.withdrawn site name steps ↔ s.GaveWay site name steps := by
  induction steps generalizing s with
  | nil =>
      refine ⟨nofun, ?_⟩
      rintro ⟨earlier, m, later, heq, -⟩
      cases earlier <;> cases heq
  | cons m rest ih =>
      rw [withdrawn, gaveWay_cons, ← ih, Nat.add_pos_iff_pos_or_pos, awaited,
        List.countP_pos_iff]

/-- However many steps there are: what was submitted was said, is outstanding, gave way or
was taken back. -/
theorem Moored.flow (h : s.Moored name) (site : Site) {steps : List Traffic}
    (hcalm : ∀ m ∈ steps, m.Calm) :
    (s.flow site steps).Moored name ∧
      (s.flow site steps).env.tally name + s.withdrawn site name steps =
        s.env.tally name + steps.countP (Traffic.submits name) := by
  induction steps generalizing s with
  | nil => exact ⟨h, rfl⟩
  | cons m rest ih =>
      obtain ⟨hcarry, hstep⟩ := h.carry site (hcalm m List.mem_cons_self)
      obtain ⟨hflow, hrest⟩ := ih hcarry fun m hm => hcalm m (List.mem_cons_of_mem _ hm)
      refine ⟨hflow, ?_⟩
      rw [withdrawn, List.countP_cons]
      show ((s.carry site m).flow site rest).env.tally name + _ = _
      omega

theorem moored_start (hbox : s.device.outbox = none)
    (hcalm : s.env.links.Calm) (hnew : s.env.tally name = 0) : s.Moored name := by
  have hunsent : s.env.unsent name = 0 := by
    rw [Env.tally, Env.owed] at hnew
    omega
  refine ⟨⟨hcalm, ?_, ?_, fun o _ => (s.env.unsent_eq_zero name).mp hunsent o⟩,
    fun _ => hbox⟩
  · intro o ho
    rw [hbox] at ho
    cases ho
  · intro o ho
    rw [hbox] at ho
    cases ho

theorem Moored.unsent_eq_zero (h : s.Moored name) (hlinks : s.device.links = []) :
    s.env.unsent name = 0 := by
  rw [Env.unsent_eq_zero]
  intro o
  refine h.holds.elsewhere o ?_
  rw [h.idle hlinks]
  exact (Option.some_ne_none o).symm

/-- A device starts without an outbox, and links do not crash. A packet is sent in a name
that nobody used before and nobody uses afterwards. Whatever else is sent, taken back,
attached and detached, and however workers, links and permits take turns: that name is
told how the packet fared at most once, and not at all if the packet gave way to another
or was taken back while it was unsent. When there is no link left and the packet is not
on its way, it was told once unless it gave way or was taken back. -/
theorem resolved_once (site : Site) (hbox : s.device.outbox = none)
    (hcalm : s.env.links.Calm) (hnew : s.env.tally name = 0)
    {before after : List Traffic} {p : Packet} {replace : Option Nat} {quiet : Bool} :
    let steps := before ++ .send p replace (.named name quiet) :: after
    let now := s.flow site steps
    (∀ m ∈ steps, m.Calm) →
    (∀ m ∈ before ++ after, m.submits name = false) →
    now.env.told name ≤ 1 ∧
    (s.GaveWay site name steps → now.env.told name = 0) ∧
    (now.device.links = [] → now.env.pending name = 0 → ¬s.GaveWay site name steps →
      now.env.told name = 1) := by
  intro steps now hsteps hothers
  obtain ⟨hmoored, htally⟩ := (moored_start hbox hcalm hnew).flow site hsteps
  have hone : steps.countP (Traffic.submits name) = 1 := by
    have hnone : (before ++ after).countP (Traffic.submits name) = 0 := by
      rw [List.countP_eq_zero]
      intro m hm
      rw [hothers m hm]
      exact Bool.false_ne_true
    have hown : (Traffic.send p replace (.named name quiet)).submits name = true :=
      decide_eq_true rfl
    rw [List.countP_append] at hnone
    rw [List.countP_append, List.countP_cons_of_pos hown]
    omega
  -- Said, outstanding and withdrawn are one in all, so each of them is at most one.
  have hbalance : now.env.told name + (now.env.unsent name + now.env.pending name) +
      s.withdrawn site name steps = 1 := by
    rw [hone, hnew] at htally
    exact htally
  refine ⟨by omega, fun hgone => ?_, fun hidle hlanded hstayed => ?_⟩
  · have hpos := withdrawn_pos.mpr hgone
    omega
  · have hempty : now.env.unsent name = 0 := hmoored.unsent_eq_zero hidle
    rw [← withdrawn_pos] at hstayed
    omega

/-- A link is slow, and the device loses it and gets it back. One packet is still on its
way over the link it had, another gave way before, and the third fails with the outbox
it was in. -/
theorem resolved_once_after_detaching :
    let peer : PeerIdentity := { id := "peer" }
    let slow : Link := { name := "lan", gated := true }
    let s : Scene := { device := .ofIdentity 0 peer, env := { links := [("lan", slow)] } }
    let p : Packet := .make 1 "ping" (.obj [])
    let steps : List Traffic :=
      [.attach peer "lan", .send p none (.named "first" false), .work 0,
        .send p (some 7) (.named "second" false), .send p (some 7) (.named "third" false),
        .detach "lan", .attach peer "lan", .permit "lan", .goOn 2, .detach "lan"]
    let now := s.flow {} steps
    now.env.told "first" = 1 ∧ now.env.told "second" = 0 ∧ now.env.told "third" = 1 := by
  intro peer slow s p steps now
  have hcalm : s.env.links.Calm := List.forall_mem_singleton.mpr nofun
  have hsteps : ∀ m ∈ steps, m.Calm := by simp [steps, Traffic.Calm]
  obtain ⟨-, -, hfirst⟩ := @resolved_once "first" s {} rfl hcalm (by decide)
    (steps.take 1) (steps.drop 2) p none false hsteps (by decide)
  obtain ⟨-, hsecond, -⟩ := @resolved_once "second" s {} rfl hcalm (by decide)
    (steps.take 3) (steps.drop 4) p (some 7) false hsteps (by decide)
  obtain ⟨-, -, hthird⟩ := @resolved_once "third" s {} rfl hcalm (by decide)
    (steps.take 4) (steps.drop 5) p (some 7) false hsteps (by decide)
  exact ⟨hfirst (by decide) (by decide) (by rw [← withdrawn_pos]; decide),
    hsecond (by rw [← withdrawn_pos]; decide),
    hthird (by decide) (by decide) (by rw [← withdrawn_pos]; decide)⟩

end Scene

end Tether
