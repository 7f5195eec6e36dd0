import Tether.Proofs.Device.Fastened
import Tether.Proofs.World.Devices

/-!
# All devices in step with their links

Several devices share links and outboxes, and jobs, time and the end of other devices come between
the operations on one of them. Still each device is in step with its links at any time
(`links_in_step`).

The invariant is that every device is fastened, and that devices are told apart: no two have the
same number or the same outbox, and no link knows a device that is yet to come (`Wired`). An
operation on one device minds its own business, traffic registers nobody and closes nothing, and
with the devices that nobody holds goes only what is theirs.
-/

namespace Tether.World

/-- Something that happens in a world. -/
inductive Move where
  /-- A device is seen for the first time. -/
  | meet (i : PeerIdentity)
  /-- A device that is trusted is restored from settings. -/
  | restore (id : String)
  /-- Something happens to a device. -/
  | visit (ref : Nat) (op : Op)
  /-- A packet is read from a link. -/
  | deliver (link : String) (p : Packet)
  /-- The next job is done. -/
  | next
  | permit (link : String)
  | moveTo (time : Nat)
  /-- Whoever keeps a device lets it go. -/
  | release (ref : Nat)
  /-- A link behaves in another way from now on. -/
  | turn (link : String) (conduct : Link.Conduct)
  /-- Plugins behave in another way from now on. -/
  | remake (makers : Dict Plugin.Maker)

/-- The world after a move. -/
def move (site : Site) (w : World) : Move → World
  | .meet i => (w.keep fun ref => .ofIdentity ref i).2
  | .restore id => (w.keep fun ref => .ofTrusted site ref w.env.store id).2
  | .visit ref op => w.act ref fun s => s.apply site op
  | .deliver link p => (w.deliver site link p).2
  | .next =>
      match w.next? with
      | some (job, w) => w.perform site job
      | none => w
  | .permit link => { w with env := w.env.permit link }
  | .moveTo time => { w with env := w.env.moveTo time }
  | .release ref => w.release ref
  | .turn link conduct =>
      { w with env.links := w.env.links.change link fun l => { l with conduct } }
  | .remake makers => { w with env.makers := makers }

/-- The world after moves. -/
def run (site : Site) (w : World) (moves : List Move) : World :=
  moves.foldl (move site) w

/-- Devices are fastened, and told apart. -/
structure Wired (w : World) : Prop where
  once : (w.devices.map Device.ref).Nodup
  young : ∀ d ∈ w.devices, d.ref < w.born
  fastened : ∀ d ∈ w.devices, d.Fastened w.env
  apart : ∀ d ∈ w.devices, ∀ d' ∈ w.devices, ∀ o,
    d.outbox = some o → d'.outbox = some o → d.ref = d'.ref
  unborn : ∀ ref, w.born ≤ ref → ∀ id n, w.env.links.registered id ref = some n → n = 0

/-- There is no device yet, and no link knows one that is yet to come. -/
def Vacant (w : World) : Prop :=
  w.devices = [] ∧ ∀ id l, Dict.find? w.env.links id = some l → ∀ ref ∈ l.receivers, ref < w.born

variable {site : Site} {w : World} {ref : Nat} {d : Device}

theorem mem_of_device? (h : w.device? ref = some d) : d ∈ w.devices :=
  List.mem_of_find?_eq_some h

theorem vacant_of_unknown (hdevices : w.devices = [])
    (h : ∀ p ∈ w.env.links, p.2.receivers = []) : w.Vacant := by
  refine ⟨hdevices, fun id l hl ref href => ?_⟩
  rw [h (id, l) (Dict.mem_of_find? hl)] at href
  cases href

theorem Vacant.wired (h : w.Vacant) : w.Wired := by
  obtain ⟨hempty, hreceivers⟩ := h
  have hnone : ∀ d, d ∉ w.devices := by
    rw [hempty]
    exact fun d => List.not_mem_nil
  refine ⟨?_, fun d hd => absurd hd (hnone d), fun d hd => absurd hd (hnone d),
    fun d hd => absurd hd (hnone d), fun ref href id n hn => ?_⟩
  · rw [hempty]
    exact List.nodup_nil
  · obtain ⟨l, hl, rfl⟩ := Option.map_eq_some_iff.mp hn
    rw [List.count_eq_zero]
    exact fun hmem => absurd (hreceivers id l hl ref hmem) (Nat.not_lt.mpr href)

/-! ## One move -/

theorem Wired.around (h : w.Wired) {env : Env} (he : w.env.Keeps env) :
    ({ w with env } : World).Wired := by
  refine ⟨h.once, h.young, fun d hd => ?_, h.apart, ?_⟩
  · obtain ⟨hnodup, hregistered, houtbox, hopened⟩ := h.fastened d hd
    exact ⟨hnodup, he.registered ▸ hregistered, houtbox, fun o ho => he.opened o (hopened o ho)⟩
  · show ∀ ref, _ → ∀ id n, env.links.registered id ref = some n → n = 0
    rw [he.registered]
    exact h.unborn

/-- A device that comes has no links, and no link knows it. -/
theorem Wired.keep (h : w.Wired) {make : Nat → Device} (href : (make w.born).ref = w.born)
    (hlinks : (make w.born).links = []) (houtbox : (make w.born).outbox = none) :
    (w.keep make).2.Wired := by
  have hmem : ∀ d ∈ (w.keep make).2.devices, d ∈ w.devices ∨ d = make w.born := by
    simp [World.keep]
  refine ⟨?_, fun d hd => ?_, fun d hd => ?_, fun d hd d' hd' o ho ho' => ?_,
    fun ref hborn => h.unborn ref (Nat.le_of_succ_le hborn)⟩
  · show ((w.devices ++ [make w.born]).map Device.ref).Nodup
    rw [List.map_append, List.map_singleton, href, ← List.concat_eq_append]
    refine List.Nodup.concat (fun hborn => ?_) h.once
    obtain ⟨d, hd, hdref⟩ := List.mem_map.mp hborn
    exact Nat.ne_of_lt (h.young d hd) hdref
  · rcases hmem d hd with hd | rfl
    · exact Nat.lt_succ_of_lt (h.young d hd)
    · rw [href]
      exact Nat.lt_succ_self w.born
  · rcases hmem d hd with hd | rfl
    · exact h.fastened d hd
    · refine ⟨?_, fun id n hn => ?_, ?_, fun o ho => ?_⟩
      · rw [hlinks]
        exact List.nodup_nil
      · rw [href] at hn
        rw [h.unborn _ (Nat.le_refl _) id n hn, hlinks, if_neg List.not_mem_nil]
      · simp [hlinks, houtbox]
      · cases houtbox.symm.trans ho
  · rcases hmem d hd with hd | rfl
    · rcases hmem d' hd' with hd' | rfl
      · exact h.apart d hd d' hd' o ho ho'
      · cases houtbox.symm.trans ho'
    · cases houtbox.symm.trans ho

theorem act_devices (h : w.device? ref = some d) {f : Scene → Scene}
    (hf : (f ⟨d, w.env⟩).device.ref = d.ref) :
    (w.act ref f).devices =
      w.devices.map fun other => if other.ref = d.ref then (f ⟨d, w.env⟩).device else other := by
  rw [← hf, act, visit, h]
  rfl

/-- The numbers of the devices stay the same. -/
theorem act_refs (h : w.device? ref = some d) {f : Scene → Scene}
    (hf : (f ⟨d, w.env⟩).device.ref = d.ref) :
    (w.act ref f).devices.map Device.ref = w.devices.map Device.ref := by
  rw [act_devices h hf, List.map_map]
  refine List.map_congr_left fun other _ => ?_
  dsimp only [Function.comp]
  split
  · next heq => rw [hf, heq]
  · rfl

theorem mem_act (h : w.device? ref = some d) {f : Scene → Scene}
    (hf : (f ⟨d, w.env⟩).device.ref = d.ref) {d' : Device} (hd' : d' ∈ (w.act ref f).devices) :
    d' = (f ⟨d, w.env⟩).device ∨ d' ∈ w.devices ∧ d.ref ≠ d'.ref := by
  rw [act_devices h hf] at hd'
  obtain ⟨other, hother, rfl⟩ := List.mem_map.mp hd'
  split
  · exact .inl rfl
  · next hne => exact .inr ⟨hother, Ne.symm hne⟩

/-- What one device does leaves the others fastened, and it does not get the outbox of any. -/
theorem Wired.others (h : w.Wired) (hd : d ∈ w.devices) {t : Scene}
    (ht : (⟨d, w.env⟩ : Scene).Minds t) {d' : Device} (hd' : d' ∈ w.devices)
    (hne : d.ref ≠ d'.ref) :
    d'.Fastened t.env ∧ ∀ o, d'.outbox = some o → t.device.outbox ≠ some o := by
  obtain ⟨hnodup, hregistered, houtbox, hopened⟩ := h.fastened d' hd'
  have hforeign : ∀ o, d'.outbox = some o → d.outbox ≠ some o :=
    fun o ho hsame => hne (h.apart d hd d' hd' o hsame ho)
  refine ⟨⟨hnodup, fun id n hn => ?_, houtbox, fun o ho => ?_⟩, fun o ho hsame => ?_⟩
  · rw [ht.others _ hne] at hn
    exact hregistered id n hn
  · exact ht.opened o (hforeign o ho) (hopened o ho)
  · rcases ht.fresh o hsame with heq | hclosed
    · exact hforeign o ho heq
    · exact Bool.noConfusion ((hopened o ho).symm.trans hclosed)

theorem Wired.act (h : w.Wired) (ref : Nat) {f : Scene → Scene} (hf : ∀ s : Scene, s.Minds (f s)) :
    (w.act ref f).Wired := by
  cases hd : w.device? ref with
  | none =>
      rw [act_none hd]
      exact h
  | some d =>
      have hin := mem_of_device? hd
      have hminds := hf ⟨d, w.env⟩
      have hmem := fun d' => @mem_act w ref d hd f hminds.ref d'
      have hrefs := act_refs hd hminds.ref
      obtain ⟨henv, hborn, -⟩ := act_eq hd f
      generalize f ⟨d, w.env⟩ = t at hminds henv hmem
      refine ⟨hrefs ▸ h.once, fun d' hd' => ?_, fun d' hd' => ?_,
        fun d' hd' d'' hd'' o ho ho' => ?_, fun ref hunborn id n hn => ?_⟩
      · rw [hborn]
        rcases hmem d' hd' with rfl | ⟨hd', -⟩
        · rw [hminds.ref]
          exact h.young d hin
        · exact h.young d' hd'
      · rw [henv]
        rcases hmem d' hd' with rfl | ⟨hd', hne⟩
        · exact hminds.fastened (h.fastened d hin)
        · exact (h.others hin hminds hd' hne).1
      · rcases hmem d' hd' with rfl | ⟨hd', hne⟩
        · rcases hmem d'' hd'' with rfl | ⟨hd'', hne'⟩
          · rfl
          · exact absurd ho ((h.others hin hminds hd'' hne').2 o ho')
        · rcases hmem d'' hd'' with rfl | ⟨hd'', -⟩
          · exact absurd ho' ((h.others hin hminds hd' hne).2 o ho)
          · exact h.apart d' hd' d'' hd'' o ho ho'
      · rw [hborn] at hunborn
        have hother : d.ref ≠ ref := Nat.ne_of_lt (Nat.lt_of_lt_of_le (h.young d hin) hunborn)
        rw [henv, hminds.others ref hother] at hn
        exact h.unborn ref hunborn id n hn

/-- What a device that goes leaves behind. -/
theorem part_registered (e : Env) (d : Device) (id : String) (ref : Nat) :
    (part e d).links.registered id ref =
      (e.links.registered id ref).map fun n => if d.ref = ref then 0 else n := by
  rw [part, Links.registered_removeEverywhere]
  cases d.outbox <;> rfl

theorem part_outbox (e : Env) (d : Device) {o : Nat} (h : d.outbox ≠ some o) :
    (part e d).outbox o = e.outbox o := by
  rw [part]
  cases hbox : d.outbox with
  | none => rfl
  | some own => exact e.closeOutbox_other fun heq => h (hbox.trans (congrArg some heq))

/-- A device that goes takes only what is its own. -/
theorem fastened_part {e : Env} {d gone : Device} (h : d.Fastened e) (href : gone.ref ≠ d.ref)
    (houtbox : ∀ o, d.outbox = some o → gone.outbox ≠ some o) : d.Fastened (part e gone) := by
  refine ⟨h.nodup, fun id n hn => ?_, h.outbox, fun o ho => ?_⟩
  · rw [part_registered, Option.map_eq_some_iff] at hn
    obtain ⟨m, hm, rfl⟩ := hn
    rw [if_neg href]
    exact h.registered id m hm
  · rw [part_outbox e gone (houtbox o ho)]
    exact h.opened o ho

theorem Wired.sweep (h : w.Wired) : w.sweep.Wired := by
  rw [World.sweep, List.partition_eq_filter_filter]
  dsimp only
  have hgone : ∀ gone ∈ w.devices.filter (not ∘ fun d => w.isHeld d.ref),
      gone ∈ w.devices ∧ w.isHeld gone.ref = false := by
    intro gone hgone
    simpa using List.mem_filter.mp hgone
  generalize w.devices.filter (not ∘ fun d => w.isHeld d.ref) = go at hgone
  have hstay : ∀ d ∈ w.devices.filter fun d => w.isHeld d.ref,
      d ∈ w.devices ∧ w.isHeld d.ref = true := fun d hd => List.mem_filter.mp hd
  refine ⟨h.once.sublist (List.filter_sublist.map _), fun d hd => h.young d (hstay d hd).1,
    fun d hd => ?_, fun d hd d' hd' => h.apart d (hstay d hd).1 d' (hstay d' hd').1,
    fun ref hborn id => ?_⟩
  · obtain ⟨hin, hheld⟩ := hstay d hd
    refine List.foldlRecOn go part (h.fastened d hin) fun e he gone hmem => ?_
    obtain ⟨hleaves, hfree⟩ := hgone gone hmem
    have href : gone.ref ≠ d.ref := by
      intro heq
      rw [heq, hheld] at hfree
      cases hfree
    exact fastened_part he href fun o ho hsame => href (h.apart gone hleaves d hin o hsame ho)
  · refine List.foldlRecOn go part
      (motive := fun e => ∀ n, e.links.registered id ref = some n → n = 0)
      (h.unborn ref hborn id) fun e he gone _ n hn => ?_
    rw [part_registered, Option.map_eq_some_iff] at hn
    obtain ⟨m, hm, rfl⟩ := hn
    split
    · rfl
    · exact he m hm

theorem Wired.perform (h : w.Wired) (job : Job) : (w.perform site job).Wired := by
  rcases w.perform_cases site job with ⟨ref, i, -, hperform⟩ | ⟨env, hcarries, hperform⟩
  · have hact := h.act ref (f := fun s => s.pair site i) fun s => (Scene.keeps_pair site s i).minds
    rw [hperform]
    exact hact.sweep
  · rw [hperform]
    exact (h.around hcarries.keeps).sweep

theorem Wired.deliver (h : w.Wired) (link : String) (p : Packet) :
    (w.deliver site link p).2.Wired := by
  rw [World.deliver]
  dsimp only
  generalize (w.env.links.link link).receivers = receivers
  induction receivers generalizing w with
  | nil => exact h
  | cons ref rest ih =>
      have hact := h.act ref (f := fun s => s.receive site p)
        fun s => (Scene.keeps_receive site s p).minds
      exact ih hact

/-- A move is one of the world: no environment is replaced. -/
def Move.Own : Move → Prop
  | visit _ op => op.Own
  | _ => True

theorem Wired.move (site : Site) (h : w.Wired) {m : Move} (hm : m.Own) : (w.move site m).Wired := by
  cases m with
  | meet i => exact h.keep rfl rfl rfl
  | restore id => exact h.keep rfl rfl rfl
  | visit ref op =>
      have hact := h.act ref (f := fun s => s.apply site op) fun s => Scene.minds_apply site s hm
      exact hact
  | deliver link p => exact h.deliver link p
  | next =>
      rw [World.move]
      split
      · next job w' hnext =>
          obtain ⟨⟨job', env⟩, henv, heq⟩ := Option.map_eq_some_iff.mp hnext
          cases heq
          exact (h.around (Env.keeps_next henv)).perform job
      · exact h
  | permit link => exact h.around (w.env.keeps_permit link)
  | moveTo time => exact h.around ⟨rfl, fun _ ho => ho⟩
  | release ref =>
      have hfree : ({ w with kept := w.kept.filter (· ≠ ref) } : World).Wired :=
        ⟨h.once, h.young, h.fastened, h.apart, h.unborn⟩
      exact hfree.sweep
  | turn link conduct =>
      have hsame : (w.env.links.change link fun l => { l with conduct }).registered =
          w.env.links.registered := w.env.links.registered_same link fun _ => rfl
      exact h.around ⟨hsame, fun _ ho => ho⟩
  | remake makers => exact h.around ⟨rfl, fun _ ho => ho⟩

theorem Wired.run (site : Site) (h : w.Wired) {moves : List Move} (hmoves : ∀ m ∈ moves, m.Own) :
    (w.run site moves).Wired := by
  induction moves generalizing w with
  | nil => exact h
  | cons m rest ih =>
      obtain ⟨hm, hrest⟩ := List.forall_mem_cons.mp hmoves
      exact ih (h.move site hm) hrest

/-- Whatever happens in a world that begins without devices, a device that is there has each link
once, is registered once at each of its links and at no other, and has an outbox, which is open,
just if it has a link. The identity of another device and a link that it does not have change
nothing at all. Its links are those that are attached to it and were not detached since, and
meanwhile what is under way goes on over the links that it started with. -/
theorem links_in_step (site : Site) (h : w.Vacant) {moves : List Move}
    (hmoves : ∀ m ∈ moves, m.Own) (hd : (w.run site moves).device? ref = some d) :
    let s : Scene := ⟨d, (w.run site moves).env⟩
    d.links.Nodup ∧
    (∀ id l, Dict.find? s.env.links id = some l →
      l.receivers.count ref = if id ∈ d.links then 1 else 0) ∧
    (d.links = [] ∧ d.outbox = none ∨
      d.links ≠ [] ∧ ∃ o, d.outbox = some o ∧ (s.env.outbox o).closed = false) ∧
    (∀ i link, i.id ≠ d.id → (s.attach site i link).2 = s) ∧
    (∀ link, link ∉ d.links → s.detach site link = (false, s)) ∧
    ∀ ops : List Op, (∀ op ∈ ops, op.Own) →
      (s.run site ops).device.links = ops.foldl (Scene.linked d.id) d.links ∧
      (s.run site ops).env.inFlight = s.env.inFlight ∧
      s.env.calls <+: (s.run site ops).env.calls := by
  intro s
  obtain ⟨hnodup, hregistered, houtbox, hopened⟩ :=
    (h.wired.run site hmoves).fastened d (mem_of_device? hd)
  rw [ref_of_device? hd] at hregistered
  refine ⟨hnodup, fun id l hl => ?_, ?_, fun i link hid => ?_, fun link hlink => ?_,
    fun ops hops => ?_⟩
  · exact hregistered id _ (by rw [Links.registered, hl, Option.map_some])
  · cases hbox : d.outbox with
    | none =>
        rw [hbox] at houtbox
        exact .inl ⟨not_not.mp fun hlinks => Bool.noConfusion (houtbox.mpr hlinks), rfl⟩
    | some o =>
        rw [hbox] at houtbox
        exact .inr ⟨houtbox.mp rfl, o, rfl, hopened o hbox⟩
  · rcases Scene.attach_cases site s i link with ⟨-, hsame⟩ | ⟨hown, -⟩ | ⟨hown, -⟩
    · exact hsame
    · exact absurd hown hid
    · exact absurd hown hid
  · rcases Scene.detach_cases site s link with ⟨-, hsame⟩ | ⟨hthere, -⟩
    · exact hsame
    · exact absurd hthere hlink
  · have hminds := Scene.minds_run site s hops
    exact ⟨Scene.run_links site s hops, hminds.spares.inFlight, hminds.spares.calls⟩

/-- A packet waits at a gated link when the link is detached, after it was attached twice, and a
guest came and went. The packet still goes over both links, whatever is attached and detached
then. -/
theorem links_in_step_while_sending :
    let peer : PeerIdentity := { id := "peer" }
    let guest : PeerIdentity := { id := "guest" }
    let links : Links := [("bt", { name := "BT" }), ("lan", { name := "LAN", gated := true })]
    let w : World := { env := { links } }
    let moves : List Move :=
      [.meet peer, .meet guest, .visit 0 (.attach peer "lan"), .visit 0 (.attach peer "lan"),
        .visit 0 (.attach guest "bt"), .visit 1 (.attach guest "bt"), .visit 0 (.attach peer "bt"),
        .visit 0 (.send (Packet.make 7 "kdeconnect.ping" .null) none (.log "ping")), .next, .next,
        .visit 0 (.detach "lan"), .release 1]
    let ops : List Op := [.detach "bt", .attach peer "lan"]
    w.Vacant ∧ (∀ m ∈ moves, m.Own) ∧ (∀ op ∈ ops, op.Own) ∧
      (w.run {} moves).env.inFlight.map (fun f => f.delivery.links) = [["lan", "bt"]] ∧
      ∃ d, (w.run {} moves).device? 0 = some d ∧ d.links = ["bt"] ∧
        (∀ id l, Dict.find? (w.run {} moves).env.links id = some l →
          l.receivers.count 0 = if id = "bt" then 1 else 0) ∧
        ((⟨d, (w.run {} moves).env⟩ : Scene).run {} ops).device.links = ["lan"] ∧
        ((⟨d, (w.run {} moves).env⟩ : Scene).run {} ops).env.inFlight =
          (w.run {} moves).env.inFlight := by
  intro peer guest links w moves ops
  have hvacant : w.Vacant := vacant_of_unknown rfl (by decide)
  have hmoves : ∀ m ∈ moves, m.Own := by simp [moves, Move.Own, Op.Own]
  have hops : ∀ op ∈ ops, op.Own := by simp [ops, Op.Own]
  have hflight :
      (w.run {} moves).env.inFlight.map (fun f => f.delivery.links) = [["lan", "bt"]] := by
    decide +kernel
  have hview : ((w.run {} moves).device? 0).map (fun d => (d.id, d.links)) =
      some ("peer", ["bt"]) := by
    decide +kernel
  obtain ⟨d, hd, hpair⟩ := Option.map_eq_some_iff.mp hview
  obtain ⟨hid, hlinks⟩ := Prod.mk.inj hpair
  obtain ⟨-, hreceivers, -, -, -, hrun⟩ := links_in_step {} hvacant hmoves hd
  obtain ⟨hafter, hsame, -⟩ := hrun ops hops
  have hlan : ops.foldl (Scene.linked "peer") ["bt"] = ["lan"] := by decide
  dsimp only at hreceivers hsame
  rw [hlinks] at hreceivers
  rw [hlinks, hid, hlan] at hafter
  refine ⟨hvacant, hmoves, hops, hflight, d, hd, hlinks, fun id l hl => ?_, hafter, hsame⟩
  simpa using hreceivers id l hl

end Tether.World
