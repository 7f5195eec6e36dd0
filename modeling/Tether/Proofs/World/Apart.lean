import Tether.Proofs.Env.Sending
import Tether.Proofs.Env.Serving
import Tether.Proofs.World.Wired

/-!
# Blocking sends among all that happens

Whatever happens in a world leaves a blocking send alone, unless a job of that send is done, a
permit is given, time passes or a link turns (`move_cases`). A send that is not there yet has no job
and no alarm (`Numbered`), and a device that a send waits for stays (`isSome_move`).

What is heard of a send is what happens while its jobs are done (`World.hears`). Devices that go
after such a job, and what is said of their packets then, are no part of it.
-/

namespace Tether

namespace Links

theorem answer_removeEverywhere (ls : Links) (device : Nat) (id : String) :
    ((ls.removeEverywhere device).link id).answer = (ls.link id).answer := by
  have hfind := Dict.find?_map
    (fun l : Link => { l with receivers := l.receivers.filter (· ≠ device) }) ls id
  rw [link, removeEverywhere, hfind, link]
  cases Dict.find? ls id <;> rfl

end Links

namespace World

variable {site : Site} {w u : World} {ref c : Nat} {d : Device} {job : Job} {m : Move}

/-! ## What leaves sends alone -/

theorem leaves_part (e : Env) (d : Device) : e.Leaves none (part e d) := by
  have hremoved : ∀ e : Env, e.Leaves none { e with links := e.links.removeEverywhere d.ref } :=
    fun e => ⟨⟨rfl, e.links.answer_removeEverywhere d.ref, Nat.le_refl _, fun _ _ _ => rfl⟩,
      List.prefix_rfl⟩
  rw [part]
  cases d.outbox with
  | none => exact hremoved e
  | some o => exact (e.leaves_closeOutbox o).trans (hremoved _)

theorem leaves_sweep (w : World) : w.env.Leaves none w.sweep.env := by
  rw [sweep, List.partition_eq_filter_filter]
  exact List.foldlRecOn (motive := fun e => w.env.Leaves none e) _ part (.refl none w.env)
    fun e he gone _ => he.trans (leaves_part e gone)

theorem slip_sweep (h : c < w.env.calls.length) : w.sweep.env.slip c = w.env.slip c :=
  w.leaves_sweep.slips c (Option.some_ne_none c).symm (.inl h)

theorem calls_sweep (w : World) : w.sweep.env.calls = w.env.calls := by
  rw [sweep, List.partition_eq_filter_filter]
  refine List.foldlRecOn (motive := fun e : Env => e.calls = w.env.calls) _ part rfl
    fun e he gone _ => ?_
  rw [← he, part]
  cases gone.outbox <;> rfl

theorem leaves_act (w : World) (ref : Nat) {f : Scene → Scene} (hf : ∀ s : Scene, s.Minds (f s)) :
    w.env.Leaves none (w.act ref f).env := by
  cases hd : w.device? ref with
  | none =>
      rw [act_none hd]
      exact .refl none w.env
  | some d =>
      rw [(act_eq hd f).1]
      exact (hf ⟨d, w.env⟩).leaves

theorem leaves_deliver (site : Site) (w : World) (link : String) (p : Packet) :
    w.env.Leaves none (w.deliver site link p).2.env := by
  rw [deliver]
  refine List.foldlRecOn (motive := fun u : World => w.env.Leaves none u.env) _ _
    (.refl none w.env) fun u hu ref _ => ?_
  exact hu.trans (u.leaves_act ref fun s => (Scene.keeps_receive site s p).minds)

theorem next_eq (h : w.next? = some (job, u)) :
    w.env.next? = some (job, u.env) ∧ u = { w with env := u.env } := by
  obtain ⟨⟨job', env⟩, henv, heq⟩ := Option.map_eq_some_iff.mp h
  cases heq
  exact ⟨henv, rfl⟩

/-- A job of a send is done, and then whoever is not held goes. -/
theorem perform_call (site : Site) (w : World) (h : job.call? = some c) :
    w.perform site job = ({ w with env := w.env.serve (w.callLinks c) job } : World).sweep := by
  cases job with
  | resume runner d =>
      cases runner with
      | worker o => cases h
      | call c' => rfl
  | begin c' | transfer c' | wake c' =>
      cases h
      rfl
  | work _ | report _ _ | expire _ _ => cases h

/-- A job leaves all sends alone but the one that it is done for. -/
theorem leaves_perform (site : Site) (w : World) (job : Job) :
    w.env.Leaves job.call? (w.perform site job).env := by
  have hswept : ∀ {own} {env : Env}, w.env.Leaves own env →
      w.env.Leaves own ({ w with env } : World).sweep.env := by
    intro own env h
    have hsweep := leaves_sweep { w with env }
    exact h.trans (hsweep.of_none own)
  have hcall : ∀ {c}, job.call? = some c → w.env.Leaves job.call? (w.perform site job).env := by
    intro c hc
    rw [w.perform_call site hc, hc]
    exact hswept (w.env.leaves_serve _ hc)
  have hpair : ∀ ref i, w.env.Leaves none (w.act ref fun s => s.pair site i).sweep.env :=
    fun ref i =>
      (w.leaves_act ref fun s => (Scene.keeps_pair site s i).minds).trans (leaves_sweep _)
  cases job with
  | work o => exact hswept ((w.env.carries_work o _).leaves fun c _ => w.env.slip_work o _ c)
  | report ref reason => exact hpair ref (.sendFailed reason)
  | expire ref generation => exact hpair ref (.expired generation)
  | resume runner d =>
      cases runner with
      | worker o =>
          exact hswept ((w.env.carries_resumeWork o _ d).leaves fun c _ =>
            w.env.slip_resumeWork o _ d c)
      | call c => exact hcall rfl
  | begin c | transfer c | wake c => exact hcall rfl

/-- A job is taken and done. -/
theorem avoids_move_next (site : Site) (h : w.next? = some (job, u)) :
    w.env.Avoids job.call? (w.move site .next).env := by
  rw [move, h]
  exact (Env.avoids_next (next_eq h).1).trans (u.leaves_perform site job).toAvoids

/-! ## What is heard of a send -/

/-- What is heard of a send while a move is made: if a job of it is done, all that happens, with the
time. -/
def heard (w : World) (c : Nat) : Move → List (Nat × Event)
  | .next =>
      match w.next? with
      | some (job, u) =>
          if job.call? = some c then
            stamp u.env.clock
              ((u.env.serve (u.callLinks c) job).trace.drop u.env.trace.length)
          else []
      | none => []
  | _ => []

/-- What is heard of a send during moves. -/
def hears (site : Site) (w : World) (c : Nat) : List Move → List (Nat × Event)
  | [] => []
  | m :: rest => w.heard c m ++ (w.move site m).hears site c rest

theorem run_append (site : Site) (w : World) (earlier later : List Move) :
    w.run site (earlier ++ later) = (w.run site earlier).run site later :=
  List.foldl_append

theorem hears_append (site : Site) (w : World) (c : Nat) (earlier later : List Move) :
    w.hears site c (earlier ++ later) =
      w.hears site c earlier ++ (w.run site earlier).hears site c later := by
  induction earlier generalizing w with
  | nil => rfl
  | cons m rest ih => rw [List.cons_append, hears, ih, hears, List.append_assoc]; rfl

/-- No time passes while there is something to do, and no alarm is passed over. -/
def Move.Prompt (w : World) : Move → Prop
  | .moveTo time => w.env.ready = [] ∧ w.env.clock ≤ time ∧ ∀ a ∈ w.env.alarms, time ≤ a.due
  | _ => True

/-- All moves are prompt. -/
def Timely (site : Site) (w : World) : List Move → Prop
  | [] => True
  | m :: rest => m.Prompt w ∧ (w.move site m).Timely site rest

instance (w : World) : (m : Move) → Decidable (m.Prompt w)
  | .moveTo time =>
      inferInstanceAs
        (Decidable (w.env.ready = [] ∧ w.env.clock ≤ time ∧ ∀ a ∈ w.env.alarms, time ≤ a.due))
  | .meet _ | .restore _ | .visit .. | .deliver .. | .next | .permit _ | .release _ | .turn ..
  | .remake _ => inferInstanceAs (Decidable True)

instance decidableTimely (site : Site) : (w : World) → (moves : List Move) →
    Decidable (w.Timely site moves)
  | _, [] => inferInstanceAs (Decidable True)
  | w, m :: rest =>
      have := decidableTimely site (w.move site m) rest
      inferInstanceAs (Decidable (m.Prompt w ∧ (w.move site m).Timely site rest))

theorem timely_append (site : Site) (w : World) (earlier later : List Move) :
    w.Timely site (earlier ++ later) ↔
      w.Timely site earlier ∧ (w.run site earlier).Timely site later := by
  induction earlier generalizing w with
  | nil => exact (and_iff_right trivial).symm
  | cons m rest ih =>
      rw [List.cons_append, Timely, ih, Timely, and_assoc]
      rfl

/-- A send is left alone by a move, unless its own jobs are done, a permit is given, time passes or
a link turns. -/
theorem move_cases (site : Site) (w : World) (c : Nat) (hm : m.Own) :
    (∃ own, own ≠ some c ∧ w.env.Avoids own (w.move site m).env ∧ w.heard c m = []) ∨
      (∃ job u, m = .next ∧ w.next? = some (job, u) ∧ job.call? = some c) ∨
      (∃ link, m = .permit link) ∨ (∃ time, m = .moveTo time) ∨
      ∃ link conduct, m = .turn link conduct := by
  have hnone : none ≠ some c := nofun
  cases m with
  | meet _ | restore _ | remake _ =>
      exact .inl ⟨none, hnone, .of_slips rfl rfl rfl fun _ _ => rfl, rfl⟩
  | visit ref op =>
      have hact := w.leaves_act ref (f := fun s => s.apply site op)
        fun s => Scene.minds_apply site s hm
      exact .inl ⟨none, hnone, hact.toAvoids, rfl⟩
  | deliver link p => exact .inl ⟨none, hnone, (w.leaves_deliver site link p).toAvoids, rfl⟩
  | release ref =>
      have hswept := leaves_sweep { w with kept := w.kept.filter (· ≠ ref) }
      exact .inl ⟨none, hnone, hswept.toAvoids, rfl⟩
  | permit link => exact .inr (.inr (.inl ⟨link, rfl⟩))
  | moveTo time => exact .inr (.inr (.inr (.inl ⟨time, rfl⟩)))
  | turn link conduct => exact .inr (.inr (.inr (.inr ⟨link, conduct, rfl⟩)))
  | next =>
      rw [heard]
      cases hnext : w.next? with
      | none =>
          refine .inl ⟨none, hnone, ?_, rfl⟩
          rw [move, hnext]
          exact .refl none w.env
      | some p =>
          obtain ⟨job, u⟩ := p
          by_cases hjob : job.call? = some c
          · exact .inr (.inl ⟨job, u, rfl, rfl, hjob⟩)
          · exact .inl ⟨job.call?, hjob, avoids_move_next site hnext, if_neg hjob⟩

/-- Sends are never given up. -/
theorem grows_run (site : Site) (w : World) {moves : List Move} (hmoves : ∀ m ∈ moves, m.Own) :
    w.env.calls.length ≤ (w.run site moves).env.calls.length := by
  induction moves generalizing w with
  | nil => exact Nat.le_refl _
  | cons m rest ih =>
      obtain ⟨hm, hrest⟩ := List.forall_mem_cons.mp hmoves
      refine Nat.le_trans ?_ (ih _ hrest)
      rcases w.move_cases site 0 hm with ⟨own, -, havoids, -⟩ | ⟨job, u, rfl, hnext, -⟩ |
        ⟨link, rfl⟩ | ⟨time, rfl⟩ | ⟨link, conduct, rfl⟩
      · exact havoids.grows
      · exact (avoids_move_next site hnext).grows
      · obtain ⟨hcalls, -, -⟩ := w.env.permit_eq link
        exact Nat.le_of_eq (congrArg List.length hcalls.symm)
      · exact Nat.le_refl _
      · exact Nat.le_refl _

/-! ## Sends that are not there yet -/

/-- Nothing is there of a send whose number was not given out. -/
def Numbered (w : World) : Prop :=
  ∀ c, w.env.calls.length ≤ c → w.env.slip c = ⟨none, [], [], []⟩

/-- Nothing is to be done, and nothing waits. -/
structure Idle (w : World) : Prop where
  parked : w.env.parked = []
  ready : w.env.ready = []
  alarms : w.env.alarms = []

theorem Idle.numbered (h : w.Idle) : w.Numbered := by
  intro c hc
  rw [Env.slip, h.parked, h.ready, h.alarms, List.getElem?_eq_none hc]
  rfl

theorem Numbered.move (h : w.Numbered) (hm : m.Own) : (w.move site m).Numbered := by
  intro c hc
  rcases w.move_cases site c hm with ⟨own, hown, hleaves, -⟩ | ⟨job, u, rfl, hnext, hjob⟩ |
    ⟨link, rfl⟩ | ⟨time, rfl⟩ | ⟨link, conduct, rfl⟩
  · rw [hleaves.slips c hown (.inr hc), h c (hleaves.grows.trans hc)]
  · -- its job would be there already
    have hblank := h c ((avoids_move_next site hnext).grows.trans hc)
    rw [Env.slip_next (next_eq hnext).1, if_pos hjob] at hblank
    cases congrArg Slip.ready hblank
  · obtain ⟨hcalls, -, -⟩ := w.env.permit_eq link
    have hblank := h c (hcalls ▸ hc)
    rcases w.env.slip_permit link c with hsame | ⟨pre, runner, waiting, post, hparked, -⟩
    · exact hsame.trans hblank
    · rw [hblank] at hparked
      exact absurd hparked (by simp)
  · exact (w.env.slip_moveTo time c).trans (by rw [h c hc]; rfl)
  · exact h c hc

theorem Numbered.run (h : w.Numbered) {moves : List Move} (hmoves : ∀ m ∈ moves, m.Own) :
    (w.run site moves).Numbered := by
  induction moves generalizing w with
  | nil => exact h
  | cons m rest ih =>
      obtain ⟨hm, hrest⟩ := List.forall_mem_cons.mp hmoves
      exact ih (h.move hm) hrest

/-! ## Devices that a send waits for -/

theorem isHeld_of_call {call : Call} (h : w.env.calls[c]? = some call)
    (hopen : call.isOpen = true) : w.isHeld call.device = true := by
  rw [isHeld, Bool.or_eq_true]
  refine .inr (List.any_eq_true.mpr ⟨call, List.mem_of_getElem? h, ?_⟩)
  simp [hopen]

theorem isSome_act (w : World) (ref other : Nat) {f : Scene → Scene}
    (hf : ∀ s : Scene, (f s).device.ref = s.device.ref) :
    ((w.act ref f).device? other).isSome = (w.device? other).isSome := by
  cases hd : w.device? ref with
  | none => rw [act_none hd]
  | some d =>
      rw [device?_act hd (hf ⟨d, w.env⟩)]
      split
      · next heq => rw [← heq, hd]; rfl
      · rfl

theorem isSome_sweep {call : Call} (hcall : w.sweep.env.calls[c]? = some call)
    (hopen : call.isOpen = true) :
    (w.sweep.device? call.device).isSome = (w.device? call.device).isSome := by
  rw [calls_sweep] at hcall
  rw [device?_sweep, if_pos (isHeld_of_call hcall hopen)]

/-- A device that a send waits for stays. -/
theorem isSome_move (h : w.Wired) (hm : m.Own) {call : Call}
    (hcall : (w.move site m).env.calls[c]? = some call) (hopen : call.isOpen = true)
    (hd : (w.device? call.device).isSome = true) :
    ((w.move site m).device? call.device).isSome = true := by
  have hyoung : w.Young := fun ref d hd => ref_of_device? hd ▸ h.young d (mem_of_device? hd)
  have hkept : ∀ make : Nat → Device, (make w.born).ref = w.born →
      ((w.keep make).2.device? call.device).isSome = true := by
    intro make hmake
    rw [device?_keep hyoung hmake]
    split
    · rfl
    · exact hd
  cases m with
  | meet i => exact hkept _ rfl
  | restore id => exact hkept _ rfl
  | permit _ | moveTo _ | turn _ _ | remake _ => exact hd
  | visit ref op =>
      have hact := w.isSome_act ref call.device (f := fun s => s.apply site op)
        fun s => (Scene.minds_apply site s hm).ref
      exact hact.trans hd
  | deliver link p =>
      rw [move, deliver]
      refine List.foldlRecOn (motive := fun u : World => (u.device? call.device).isSome = true) _ _
        hd fun u hu ref _ => ?_
      exact (u.isSome_act ref call.device fun s => (Scene.keeps_receive site s p).ref).trans hu
  | release ref => exact (isSome_sweep hcall hopen).trans hd
  | next =>
      rw [move] at hcall ⊢
      split at hcall
      · next job u hnext =>
          obtain ⟨-, hu⟩ := next_eq hnext
          have hthere : (u.device? call.device).isSome = true := by
            rw [hu]
            exact hd
          rcases u.perform_cases site job with ⟨ref, i, -, hperform⟩ | ⟨env, -, hperform⟩
          · rw [hperform] at hcall ⊢
            exact (isSome_sweep hcall hopen).trans <|
              (u.isSome_act ref call.device fun s => (Scene.keeps_pair site s i).ref).trans hthere
          · rw [hperform] at hcall ⊢
            exact (isSome_sweep hcall hopen).trans hthere
      · exact hd

end World

end Tether
