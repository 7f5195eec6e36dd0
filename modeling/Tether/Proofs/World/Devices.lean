import Tether.Proofs.Device.Remembered
import Tether.Proofs.Env.Carried
import Tether.World

/-!
# Devices found by their numbers

A world is looked into by the number of a device (`World.device?`), and what can be done to a world
is told by what is found afterwards. What is done to one device leaves the others as they are
(`device?_act`), because no operation gives a device another number. A device that is added gets a
number that none has (`device?_keep`). Whoever is held by someone stays (`device?_sweep`).

Jobs are of two kinds. Traffic empties outboxes and ends blocking sends (`Env.Carries`); it touches
neither settings nor plugins (`Env.Hauls`). The others have something happen to the session of a
device (`perform_cases`).
-/

namespace Tether

namespace Env

/-- Packets were carried on. Neither settings nor plugins were touched. -/
structure Hauls (e f : Env) : Prop where
  ledger : f.ledger = e.ledger
  makers : f.makers = e.makers

variable {e f g : Env}

theorem Hauls.refl (e : Env) : e.Hauls e :=
  ⟨rfl, rfl⟩

theorem Hauls.trans (h : e.Hauls f) (h' : f.Hauls g) : e.Hauls g :=
  ⟨h'.ledger.trans h.ledger, h'.makers.trans h.makers⟩

theorem Hauls.conducts (h : e.Hauls f) : f.conducts = e.conducts := by
  rw [Env.conducts, h.makers, Env.conducts]

theorem Carry.hauls (h : Carry e f) : e.Hauls f := by
  cases h <;> exact ⟨rfl, rfl⟩

theorem Carries.hauls (h : e.Carries f) : e.Hauls f := by
  induction h with
  | refl => exact .refl e
  | tail _ hstep ih => exact ih.trans hstep.hauls

end Env

namespace World

variable {w : World} {ref other : Nat} {d : Device}

theorem ref_of_device? (h : w.device? ref = some d) : d.ref = ref := by
  simpa using List.find?_some h

/-! ## Looking up -/

theorem device?_setDevice (w : World) (d : Device) (ref : Nat) :
    (w.setDevice d).device? ref =
      if d.ref = ref then (w.device? ref).map fun _ => d else w.device? ref := by
  rw [device?, device?, setDevice, List.find?_map]
  have hsame : ∀ other : Device,
      ((fun x : Device => decide (x.ref = ref)) ∘ fun x => if x.ref = d.ref then d else x) other =
        decide (other.ref = ref) := by
    intro other
    by_cases h : other.ref = d.ref <;> simp [h]
  rw [funext hsame]
  cases hfind : w.devices.find? fun x => decide (x.ref = ref) with
  | none => simp
  | some other =>
      have hother : other.ref = ref := by simpa using List.find?_some hfind
      by_cases h : d.ref = ref
      · simp [h, hother]
      · have hne : ¬ref = d.ref := fun heq => h heq.symm
        simp [h, hother, hne]

/-- What is done to a device can be seen of it, and of no other. -/
theorem device?_act {f : Scene → Scene} (h : w.device? ref = some d)
    (hf : (f ⟨d, w.env⟩).device.ref = d.ref) (other : Nat) :
    (w.act ref f).device? other =
      if ref = other then some (f ⟨d, w.env⟩).device else w.device? other := by
  have hact : w.act ref f =
      { w with env := (f ⟨d, w.env⟩).env }.setDevice (f ⟨d, w.env⟩).device := by
    rw [act, visit, h]
  rw [hact, device?_setDevice, hf, ref_of_device? h]
  split
  · next heq =>
      subst heq
      show (w.device? ref).map _ = _
      rw [h]
      rfl
  · rfl

theorem act_eq (h : w.device? ref = some d) (f : Scene → Scene) :
    (w.act ref f).env = (f ⟨d, w.env⟩).env ∧ (w.act ref f).born = w.born ∧
      (w.act ref f).kept = w.kept := by
  rw [act, visit, h]
  exact ⟨rfl, rfl, rfl⟩

theorem act_none (h : w.device? ref = none) (f : Scene → Scene) : w.act ref f = w := by
  rw [act, visit, h]

/-- The numbers of devices that are found have been given out. -/
def Young (w : World) : Prop :=
  ∀ ref d, w.device? ref = some d → ref < w.born

/-- A device that is added is found by its number, and whoever was found before is found still. -/
theorem device?_keep (h : w.Young) {make : Nat → Device} (hmake : (make w.born).ref = w.born)
    (other : Nat) :
    (w.keep make).2.device? other =
      if w.born = other then some (make w.born) else w.device? other := by
  have hnew : w.device? w.born = none := by
    cases hfind : w.device? w.born with
    | none => rfl
    | some d => exact absurd (h _ d hfind) (Nat.lt_irrefl _)
  rw [device?] at hnew
  rw [keep, device?, device?, List.find?_append]
  split
  · next heq =>
      subst heq
      rw [hnew]
      simp [hmake]
  · next heq => simp [hmake, heq]

/-- Devices that someone holds stay, and no others do. -/
theorem device?_sweep (w : World) (ref : Nat) :
    w.sweep.device? ref = if w.isHeld ref then w.device? ref else none := by
  have hsweep : w.sweep.devices = w.devices.filter fun d => w.isHeld d.ref := by
    rw [sweep, List.partition_eq_filter_filter]
  rw [device?, hsweep, List.find?_filter, device?]
  split
  · next h =>
      congr 1
      funext d
      by_cases hd : d.ref = ref <;> simp [hd, h]
  · next h =>
      rw [List.find?_eq_none]
      intro d _ hd
      by_cases href : d.ref = ref <;> simp_all

theorem sweep_hauls (w : World) : w.env.Hauls w.sweep.env := by
  rw [sweep, List.partition_eq_filter_filter]
  dsimp only
  generalize w.devices.filter (not ∘ fun d => w.isHeld d.ref) = go
  generalize w.env = e
  induction go generalizing e with
  | nil => exact .refl e
  | cons d rest ih =>
      refine Env.Hauls.trans ?_ (ih (part e d))
      rw [part]
      split <;> exact ⟨rfl, rfl⟩

theorem isHeld_of_kept (h : ref ∈ w.kept) : w.isHeld ref = true := by
  rw [isHeld, List.contains_iff_mem.mpr h, Bool.true_or]

/-! ## Jobs -/

/-- What a job tells the session of a device comes late: a packet was lost, or a timer ran out. -/
def Late (i : Pairing.Input) : Prop :=
  (∃ reason, i = .sendFailed reason) ∨ ∃ generation, i = .expired generation

/-- A job tells the session of a device something late, or it is traffic. After that, whoever is
not held goes. -/
theorem perform_cases (site : Site) (w : World) (job : Job) :
    (∃ ref i, Late i ∧ w.perform site job = (w.act ref fun s => s.pair site i).sweep) ∨
      ∃ env, w.env.Carries env ∧ w.perform site job = { w with env }.sweep := by
  cases job with
  | report ref reason => exact .inl ⟨ref, .sendFailed reason, .inl ⟨reason, rfl⟩, rfl⟩
  | expire ref generation => exact .inl ⟨ref, .expired generation, .inr ⟨generation, rfl⟩, rfl⟩
  | work o => exact .inr ⟨_, w.env.carries_work o _, rfl⟩
  | resume runner d =>
      cases runner with
      | worker o => exact .inr ⟨_, w.env.carries_resumeWork o _ d, rfl⟩
      | call c => exact .inr ⟨_, (w.env.errands_resumeCall c d).carries, rfl⟩
  | begin c => exact .inr ⟨_, (w.env.errands_begin c _).carries, rfl⟩
  | transfer c => exact .inr ⟨_, (w.env.errands_transfer c).carries, rfl⟩
  | wake c => exact .inr ⟨_, (w.env.errands_wake c).carries, rfl⟩

/-- What comes late makes no session paired. -/
theorem turn_late {session : Pairing.Session} {t : Pairing.Turn} (ht : Late t.input)
    (hs : session.state ≠ .paired) : (session.turn t).state ≠ .paired := by
  obtain ⟨state, generation⟩ := session
  obtain ⟨around, input⟩ := t
  rcases ht with ⟨reason, rfl⟩ | ⟨g, rfl⟩
  · cases state <;>
      simp [Pairing.Session.turn, Pairing.Session.step, Pairing.Session.actions,
        Pairing.Session.onSendFailed, Pairing.Session.perform] at hs ⊢
  · simp only [Pairing.Session.turn, Pairing.Session.step, Pairing.Session.actions]
    split
    · cases state <;> simp [Pairing.Session.onTimeout, Pairing.Session.perform] at hs ⊢
    · exact hs

/-- Nothing is written of a device that is not paired and told something late. -/
theorem pair_late (site : Site) {s : Scene} {i : Pairing.Input} (hi : Late i)
    (hs : s.device.session.state ≠ .paired) :
    (s.pair site i).device.session.state ≠ .paired ∧
      (s.pair site i).env.ledger = s.env.ledger := by
  have hstate := turn_late (t := ⟨s.around, i⟩) hi hs
  have hlate : i ≠ .unpair := by
    rintro rfl
    rcases hi with ⟨_, h⟩ | ⟨_, h⟩ <;> cases h
  rw [Scene.pair_session]
  exact ⟨hstate, Scene.performAll_ledger site
    (Pairing.Session.unwritten_of_unpaired hs hstate hlate) s⟩

end World

end Tether
