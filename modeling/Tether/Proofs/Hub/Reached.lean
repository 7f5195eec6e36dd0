import Tether.Proofs.Hub.Restart
import Tether.Proofs.World.Wired

/-!
# The states that a hub gets to

A hub begins without devices. After that it is used (`Op`), and the world around it moves: devices
are used by those who hold them, forgotten ones among them, packets are read from links, jobs are
done and time passes (`World.Move`). Whatever the order, devices that are known are found and kept,
and all devices are in step with their links (`Reached.orderly`).

What moves do to devices and to settings is made of a few small steps: an operation on a device, the
end of those that nobody holds, and whatever else leaves settings alone (`World.Stirs`). Each
operation can be asked to be of a certain kind, so that what only some operations do can be read off
the small steps, too.
-/

namespace Tether

namespace World

/-! ## Small steps -/

/-- A small step of a world, in which devices do only what they may. -/
inductive Stir (site : Site) (may : Device → Op → Prop) : World → World → Prop where
  | act {w : World} (ref : Nat) (op : Op) (h : ∀ d, w.device? ref = some d → may d op) :
      Stir site may w (w.act ref fun s => s.apply site op)
  | sweep (w : World) : Stir site may w w.sweep
  | around {w : World} {env : Env} (h : env.ledger = w.env.ledger) : Stir site may w { w with env }

/-- Any number of small steps, one after the other. -/
abbrev Stirs (site : Site) (may : Device → Op → Prop) : World → World → Prop :=
  Relation.ReflTransGen (Stir site may)

/-- Devices are those that were there, under the same ids, and who is kept is there still. -/
structure Lasts (w w' : World) : Prop where
  kept : w'.kept = w.kept
  found : ∀ ref d', w'.device? ref = some d' → ∃ d, w.device? ref = some d ∧ d'.id = d.id
  stays : ∀ ref ∈ w.kept, ∀ d, w.device? ref = some d → ∃ d', w'.device? ref = some d'

variable {site : Site} {may : Device → Op → Prop} {w w' w'' : World} {ref : Nat}

theorem Lasts.of_devices (hdevices : w'.devices = w.devices) (hkept : w'.kept = w.kept) :
    w.Lasts w' := by
  refine ⟨hkept, fun ref d hd => ⟨d, ?_, rfl⟩, fun ref _ d hd => ⟨d, ?_⟩⟩
  · rw [device?, ← hdevices]
    exact hd
  · rw [device?, hdevices]
    exact hd

theorem Lasts.trans (h : w.Lasts w') (h' : w'.Lasts w'') : w.Lasts w'' := by
  refine ⟨h'.kept.trans h.kept, fun ref d'' hd'' => ?_, fun ref href d hd => ?_⟩
  · obtain ⟨d', hd', hid'⟩ := h'.found ref d'' hd''
    obtain ⟨d, hd, hid⟩ := h.found ref d' hd'
    exact ⟨d, hd, hid'.trans hid⟩
  · obtain ⟨d', hd'⟩ := h.stays ref href d hd
    exact h'.stays ref (h.kept ▸ href) d' hd'

theorem lasts_act (site : Site) (w : World) (ref : Nat) (ops : List Op) :
    w.Lasts (w.act ref fun s => s.run site ops) := by
  cases hd : w.device? ref with
  | none =>
      rw [act_none hd]
      exact .of_devices rfl rfl
  | some d =>
      have hview := device?_act hd (f := fun s => s.run site ops) (Scene.run_ref site _ ops)
      refine ⟨(act_eq hd _).2.2, fun other d' hd' => ?_, fun other _ d' hd' => ?_⟩
      · rw [hview] at hd'
        split at hd'
        · next heq =>
            cases hd'
            exact ⟨d, heq ▸ hd, Scene.run_id site _ ops⟩
        · exact ⟨d', hd', rfl⟩
      · rw [hview]
        split
        · exact ⟨_, rfl⟩
        · exact ⟨d', hd'⟩

theorem lasts_sweep (w : World) : w.Lasts w.sweep := by
  refine ⟨rfl, fun ref d hd => ?_, fun ref href d hd => ⟨d, ?_⟩⟩
  · rw [device?_sweep] at hd
    split at hd
    · exact ⟨d, hd, rfl⟩
    · cases hd
  · rw [device?_sweep, if_pos (isHeld_of_kept href)]
    exact hd

theorem Stir.lasts (h : Stir site may w w') : w.Lasts w' := by
  cases h with
  | act ref op => exact lasts_act site w ref [op]
  | sweep => exact lasts_sweep w
  | around => exact .of_devices rfl rfl

theorem Stirs.lasts (h : Stirs site may w w') : w.Lasts w' := by
  induction h with
  | refl => exact .of_devices rfl rfl
  | tail _ hlast ih => exact ih.trans hlast.lasts

/-! ## Moves in small steps -/

/-- A device may do what a move has it do. -/
def Move.Fits (may : Device → Op → Prop) (w : World) : Move → Prop
  | .visit ref op => ∀ d, w.device? ref = some d → may d op
  | .deliver link p => ∀ ref ∈ (w.env.links.link link).receivers,
      ∀ d, w.device? ref = some d → ∀ d' : Device, d'.id = d.id → may d' (.receive p)
  | _ => True

/-- No device comes or goes by the move alone. -/
def Move.Inside : Move → Prop
  | .meet _ | .restore _ | .release _ => False
  | _ => True

theorem stirs_perform (hlate : ∀ d i, Late i → may d (.pairing i)) (w : World) (job : Job) :
    Stirs site may w (w.perform site job) := by
  rcases w.perform_cases site job with ⟨ref, i, hi, hperform⟩ | ⟨env, hcarries, hperform⟩
  · rw [hperform]
    exact (Relation.ReflTransGen.single (.act ref (.pairing i) fun d _ => hlate d i hi)).tail
      (.sweep _)
  · rw [hperform]
    exact (Relation.ReflTransGen.single (.around hcarries.hauls.ledger)).tail (.sweep _)

/-- Whatever a receiver makes of a packet, the receivers after it have the ids that they had. -/
theorem stirs_deliver (w : World) (link : String) (p : Packet)
    (h : (Move.deliver link p).Fits may w) : Stirs site may w (w.deliver site link p).2 := by
  have hreceivers : ∀ ref ∈ (w.env.links.link link).receivers,
      ∀ d, w.device? ref = some d → ∀ d' : Device, d'.id = d.id → may d' (.receive p) := h
  rw [deliver]
  dsimp only
  generalize (w.env.links.link link).receivers = receivers at hreceivers
  clear h
  induction receivers generalizing w with
  | nil => exact .refl
  | cons ref rest ih =>
      obtain ⟨hfirst, hrest⟩ := List.forall_mem_cons.mp hreceivers
      have hact : Stir site may w (w.act ref fun s => s.receive site p) :=
        .act ref (.receive p) fun d hd => hfirst d hd d rfl
      refine .head hact (ih _ fun other hother d' hd' d'' hid => ?_)
      obtain ⟨d, hd, hsame⟩ := hact.lasts.found other d' hd'
      exact hrest other hother d hd d'' (hid.trans hsame)

theorem stirs_move (hlate : ∀ d i, Late i → may d (.pairing i)) (w : World) {m : Move}
    (hinside : m.Inside) (hfits : m.Fits may w) : Stirs site may w (w.move site m) := by
  cases m with
  | meet _ | restore _ | release _ => exact hinside.elim
  | visit ref op => exact .single (.act ref op hfits)
  | deliver link p => exact w.stirs_deliver link p hfits
  | next =>
      rw [move]
      split
      · next job w' hnext =>
          obtain ⟨⟨job', env⟩, henv, heq⟩ := Option.map_eq_some_iff.mp hnext
          cases heq
          have htaken : env.ledger = w.env.ledger := by
            rw [Env.next?] at henv
            split at henv
            · cases henv
            · cases henv
              rfl
          exact .head (.around htaken) (stirs_perform hlate _ job)
      · exact .refl
  | permit link =>
      refine .single (.around ?_)
      rw [Env.permit]
      split <;> rfl
  | moveTo time => exact .single (.around rfl)
  | turn link conduct => exact .single (.around rfl)
  | remake makers => exact .single (.around rfl)

/-! ## What small steps keep -/

theorem Stir.reliable (h : Stir site may w w') (hl : w.env.ledger.Reliable) :
    w'.env.ledger.Reliable := by
  cases h with
  | act ref op =>
      cases hd : w.device? ref with
      | none =>
          rw [act_none hd]
          exact hl
      | some d =>
          rw [(act_eq hd _).1]
          exact (Scene.rewritten_apply site ⟨d, w.env⟩ op).reliable hl
  | sweep =>
      rw [w.sweep_hauls.ledger]
      exact hl
  | around h => exact h.symm ▸ hl

theorem Stirs.reliable (h : Stirs site may w w') (hl : w.env.ledger.Reliable) :
    w'.env.ledger.Reliable := by
  induction h with
  | refl => exact hl
  | tail _ hlast ih => exact hlast.reliable ih

end World

namespace Hub

variable {site : Site} {may : Device → Tether.Op → Prop} {h : Hub} {w : World} {id : String}
  {d : Device}

/-- The operation is one of the hub or of a device: no environment is replaced. -/
def Op.Own : Op → Prop
  | .elsewhere _ => False
  | .visit _ op => op.Own
  | _ => True

/-- Something that happens to a hub or around it. -/
inductive Move where
  | own (op : Op)
  | around (m : World.Move)

/-- The hub after a move. -/
def move (site : Site) (h : Hub) : Move → Hub
  | .own op => h.apply site op
  | .around m => { h with world := h.world.move site m }

/-- The hub after moves. -/
def play (site : Site) (h : Hub) (moves : List Move) : Hub :=
  moves.foldl (move site) h

/-- No environment is replaced, and devices come and go by the hub alone. -/
def Move.Own : Move → Prop
  | .own op => op.Own
  | .around m => m.Own ∧ m.Inside

/-- A state that a hub gets to which begins without devices. -/
def Reached (site : Site) (h : Hub) : Prop :=
  ∃ env moves, (new env).world.Vacant ∧ (∀ m ∈ moves, m.Own) ∧ h = (new env).play site moves

/-- Devices that are known are found and kept, and all devices are in step with their links. -/
structure Orderly (h : Hub) : Prop extends Formed h where
  wired : h.world.Wired

theorem Formed.lasts (hf : h.Formed) (hlasts : h.world.Lasts w) (hw : w.Wired) :
    ({ h with world := w } : Hub).Formed := by
  refine ⟨fun ref d hd => ?_, fun id ref hknown => ?_⟩
  · rw [← World.ref_of_device? hd]
    exact hw.young d (World.mem_of_device? hd)
  · obtain ⟨hkept, d, hd, hid⟩ := hf.there id ref hknown
    obtain ⟨d', hd'⟩ := hlasts.stays ref hkept d hd
    obtain ⟨d'', hd'', hid'⟩ := hlasts.found ref d' hd'
    rw [hd] at hd''
    cases hd''
    exact ⟨hlasts.kept ▸ hkept, d', hd', hid'.trans hid⟩

theorem Orderly.lasts (ho : h.Orderly) (hlasts : h.world.Lasts w) (hw : w.Wired) :
    ({ h with world := w } : Hub).Orderly :=
  ⟨ho.toFormed.lasts hlasts hw, hw⟩

/-- Operations on a device, whether it is known or not. -/
theorem Orderly.act (ho : h.Orderly) (site : Site) (ref : Nat) {ops : List Tether.Op}
    (hops : ∀ op ∈ ops, op.Own) : (h.act site ref ops).Orderly :=
  ho.lasts (World.lasts_act site h.world ref ops)
    (ho.wired.act ref fun s => Scene.minds_run site s hops)

theorem Orderly.add (ho : h.Orderly) (id : String) {make : Nat → Device}
    (href : (make h.world.born).ref = h.world.born) (hid : (make h.world.born).id = id)
    (hlinks : (make h.world.born).links = []) (houtbox : (make h.world.born).outbox = none) :
    (h.add id make).2.Orderly :=
  ⟨ho.toFormed.add href hid, ho.wired.keep href hlinks houtbox⟩

theorem Orderly.restore (ho : h.Orderly) (site : Site) (id : String) :
    (restore site h id).Orderly := by
  rw [Hub.restore]
  split
  · exact ho
  · exact ho.add id rfl rfl rfl rfl

theorem Orderly.apply (ho : h.Orderly) (site : Site) {op : Op} (hop : op.Own) :
    (h.apply site op).Orderly := by
  have hvisit (id : String) (op : Tether.Op) (hop : op.Own) {α : Type} {f : Scene → α × Scene}
      (hf : ∀ s, (f s).2 = s.apply site op) : (h.visit id f).2.Orderly := by
    rcases visit_cases ho.toFormed id op hf with hsame | ⟨d, -, hact⟩
    · rw [hsame]
      exact ho
    · rw [hact]
      exact ho.act site d.ref (List.forall_mem_singleton.mpr hop)
  cases op with
  | load =>
      show (h.store.trusted.foldl (Hub.restore site) h).Orderly
      exact List.foldlRecOn _ _ ho fun h ho id _ => ho.restore site id
  | connect i link =>
      have hattach : ∀ op ∈ [Tether.Op.attach i link], op.Own :=
        List.forall_mem_singleton.mpr trivial
      cases hknown : Dict.find? h.known i.id with
      | some ref =>
          rw [Hub.apply, connect_known hknown]
          exact ho.act site ref hattach
      | none =>
          rw [Hub.apply, connect_unknown hknown]
          exact (ho.add i.id rfl rfl rfl rfl).act site _ hattach
  | disconnected id link => exact hvisit id (.detach link) trivial fun _ => rfl
  | forget id =>
      rw [Hub.apply, Hub.forget]
      split
      · exact ho
      · next ref _ =>
          have hleft : (h.act site ref parting).Orderly :=
            ho.act site ref (by simp [parting, Tether.Op.Own])
          exact ⟨hleft.toFormed.without id, hleft.wired⟩
  | visit id op => exact hvisit id op hop fun _ => rfl
  | job job =>
      have hstirs : World.Stirs site (fun _ _ => True) h.world (h.world.perform site job) :=
        World.stirs_perform (fun _ _ _ => trivial) h.world job
      exact ho.lasts hstirs.lasts (ho.wired.perform job)
  | release ref =>
      rw [Hub.apply]
      split
      · exact ho
      · next href =>
          have hfree := ho.toFormed.unkeep href
          have hwired : (h.world.release ref).Wired := ho.wired.move site (m := .release ref) trivial
          exact ⟨(hfree.formed ho.toFormed).sweep.formed (hfree.formed ho.toFormed), hwired⟩
  | elsewhere env => exact hop.elim

/-- Whatever happens to a hub or around it, it is in order as before. -/
theorem Orderly.move (ho : h.Orderly) (site : Site) {m : Move} (hm : m.Own) :
    (h.move site m).Orderly := by
  cases m with
  | own op => exact ho.apply site hm
  | around m =>
      have hstirs : World.Stirs site (fun _ _ => True) h.world (h.world.move site m) := by
        refine World.stirs_move (fun _ _ _ => trivial) h.world hm.2 ?_
        cases m <;> simp [World.Move.Fits]
      exact ho.lasts hstirs.lasts (ho.wired.move site hm.1)

theorem Orderly.play (ho : h.Orderly) (site : Site) {moves : List Move}
    (hmoves : ∀ m ∈ moves, m.Own) : (h.play site moves).Orderly := by
  induction moves generalizing h with
  | nil => exact ho
  | cons m rest ih =>
      obtain ⟨hm, hrest⟩ := List.forall_mem_cons.mp hmoves
      exact ih (ho.move site hm) hrest

theorem Reached.orderly (hr : Reached site h) : h.Orderly := by
  obtain ⟨env, moves, hvacant, hmoves, rfl⟩ := hr
  have hnew : (new env).Orderly := ⟨formed_new env, hvacant.wired⟩
  exact hnew.play site hmoves

end Hub

end Tether
