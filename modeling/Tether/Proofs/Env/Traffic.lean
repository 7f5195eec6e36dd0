import Tether.Proofs.Env.Tally

/-!
# No word is lost in traffic

A packet that leaves an outbox for a delivery, waits with it at a link, gets a permit
and comes to its end changes hands several times. The word about it is said at the end
only, so none of these steps changes the tally. A packet that is submitted adds one,
and one that gives way or is taken back takes its own away.

That needs a little order, and traffic keeps it (`Env.Holds`): links do not crash, the
outbox that is in use is open and has no number twice, and nobody waits for anything
in another one.
-/

namespace Tether.Env

open Outbox (awaited Distinct)

variable {name : String} {e f : Env} {used : Option Nat}

/-- Unsent packets that someone with a name waits for are in the outbox in use, if there
is one, and it is in order. -/
structure Holds (name : String) (used : Option Nat) (e : Env) : Prop where
  calm : e.links.Calm
  isOpen : ∀ o, used = some o → (e.outbox o).closed = false
  distinct : ∀ o, used = some o → Distinct (e.outbox o).items
  elsewhere : ∀ o, used ≠ some o → awaited name (e.outbox o).items = 0

theorem Holds.of_outboxes (h : e.Holds name used) (hcalm : f.links.Calm)
    (hsame : f.outboxes = e.outboxes) : f.Holds name used := by
  have hbox : ∀ o, f.outbox o = e.outbox o := fun o => by rw [outbox, hsame, outbox]
  refine ⟨hcalm, ?_, ?_, ?_⟩
  · intro o ho
    rw [hbox]
    exact h.isOpen o ho
  · intro o ho
    rw [hbox]
    exact h.distinct o ho
  · intro o ho
    rw [hbox]
    exact h.elsewhere o ho

/-- An outbox that is as good as the one it replaces. -/
theorem Holds.setOutbox (h : e.Holds name used) {o : Nat} {box : Outbox}
    (hin : used = some o → box.closed = false ∧ Distinct box.items)
    (hout : used ≠ some o → awaited name box.items = 0) :
    (e.setOutbox o box).Holds name used := by
  by_cases ho : o < e.outboxes.length
  · refine ⟨h.calm, ?_, ?_, ?_⟩ <;> intro other hother <;> by_cases heq : o = other
    · subst heq
      rw [e.outbox_setOutbox ho]
      exact (hin hother).1
    · rw [e.outbox_setOutbox_of_ne heq]
      exact h.isOpen other hother
    · subst heq
      rw [e.outbox_setOutbox ho]
      exact (hin hother).2
    · rw [e.outbox_setOutbox_of_ne heq]
      exact h.distinct other hother
    · subst heq
      rw [e.outbox_setOutbox ho]
      exact hout hother
    · rw [e.outbox_setOutbox_of_ne heq]
      exact h.elsewhere other hother
  · rw [e.setOutbox_of_le (Nat.le_of_not_lt ho)]
    exact h

/-- What a worker is doing is nothing that anybody waits for. -/
theorem Holds.setWorker (h : e.Holds name used) (o : Nat) (worker : Outbox.Worker) :
    (e.setWorker o worker).Holds name used ∧
      (e.setWorker o worker).tally name = e.tally name := by
  refine ⟨h.setOutbox (fun ho => ⟨h.isOpen o ho, h.distinct o ho⟩) (h.elsewhere o), ?_⟩
  have hbox : o < e.outboxes.length ∨ awaited name (e.outbox o).items = 0 := by
    by_cases ho : o < e.outboxes.length
    · exact .inl ho
    · rw [e.outbox_of_le (Nat.le_of_not_lt ho)]
      exact .inr rfl
  have htally := e.tally_setOutbox name { e.outbox o with worker } hbox
  exact Nat.add_right_cancel htally

theorem Holds.spawn (h : e.Holds name used) (job : Job) : (e.spawn job).Holds name used :=
  h.of_outboxes h.calm rfl

theorem Holds.record (h : e.Holds name used) (events : List Event) :
    (e.record events).Holds name used :=
  h.of_outboxes h.calm rfl

/-- Plugins send nothing while they are called. -/
theorem Holds.call (h : e.Holds name used) {α : Type}
    (f : Plugin.Shop → α × Plugin.Shop) :
    (e.call f).2.Holds name used ∧ (e.call f).2.tally name = e.tally name := by
  refine ⟨h.of_outboxes h.calm rfl, ?_⟩
  have hnone : ∀ notes : List (Plugin.Instance × Plugin.Note),
      (notes.map fun n => Event.plugin n.1 n.2).countP (Event.settles name) = 0 := by
    intro notes
    rw [List.countP_map, List.countP_eq_zero]
    exact fun _ _ => Bool.false_ne_true
  have htally := e.tally_record name ((f ⟨e.makers, []⟩).2.notes.map fun n => .plugin n.1 n.2)
  rw [hnone] at htally
  exact htally

/-! ## The outbox in use -/

theorem Holds.move {o : Nat} (h : e.Holds name (some o)) {m : Outbox.Move}
    (hm : m ≠ .close) : (e.setOutbox o ((e.outbox o).move m)).Holds name (some o) := by
  refine h.setOutbox (fun _ => ⟨?_, (h.distinct o rfl).move m⟩) fun hne => absurd rfl hne
  rw [← Bool.not_eq_true, Outbox.closed_move]
  simp [h.isOpen o rfl, hm]

theorem Holds.submit {o : Nat} (h : e.Holds name (some o)) (p : Packet)
    (replace : Option Nat) (c : Callback) :
    (e.submit o p replace c).Holds name (some o) ∧
      (e.submit o p replace c).tally name + awaited name ((e.outbox o).under replace) =
        e.tally name + if c.isOf name then 1 else 0 := by
  have hopen := h.isOpen o rfl
  have hlt := lt_of_open hopen
  obtain ⟨hsilent, hitems⟩ :=
    Outbox.awaited_add name hopen (h.distinct o rfl) p replace c
  have hput := h.move (m := .add p replace c) nofun
  rw [Env.submit]
  rw [Outbox.move] at hput
  generalize (e.outbox o).add p replace c = r at *
  obtain ⟨added, box, events⟩ := r
  have htally := e.tally_setOutbox name box (.inl hlt)
  cases hsilent
  dsimp only at hput hitems ⊢
  rw [record_nil]
  split
  · obtain ⟨hwoken, hsame⟩ := hput.setWorker o .awake
    rw [Env.setWorker, e.outbox_setOutbox hlt] at hwoken hsame
    refine ⟨hwoken.spawn _, ?_⟩
    rw [tally_spawn _ _ rfl, hsame]
    omega
  · exact ⟨hput, by omega⟩

theorem Holds.takeFrom {o : Nat} (h : e.Holds name (some o)) (n : Nat) :
    (e.takeFrom o n).2.Holds name (some o) ∧
      (e.takeFrom o n).2.tally name + awaited name ((e.outbox o).under (some n)) =
        e.tally name := by
  have hitems := Outbox.awaited_take name (h.distinct o rfl) n
  have htally := e.tally_setOutbox name ((e.outbox o).take n).2
    (.inl (lt_of_open (h.isOpen o rfl)))
  refine ⟨h.move (m := .take n) nofun, ?_⟩
  show (e.setOutbox o ((e.outbox o).take n).2).tally name + _ = _
  omega

theorem Holds.openOutbox (h : e.Holds name none) (device : String) :
    (e.openOutbox device).2.Holds name (some (e.openOutbox device).1) ∧
      (e.openOutbox device).2.tally name = e.tally name := by
  have hbox := e.outbox_openOutbox device
  refine ⟨⟨h.calm, ?_, ?_, ?_⟩, ?_⟩
  · intro o ho
    rw [hbox, if_pos (Option.some.inj ho).symm]
  · intro o ho
    rw [hbox, if_pos (Option.some.inj ho).symm]
    exact List.nodup_nil
  · intro o ho
    rw [hbox, if_neg fun heq => ho (congrArg some heq.symm)]
    exact h.elsewhere o (Option.some_ne_none o).symm
  · rw [Env.openOutbox, tally_spawn _ _ rfl]
    simp [tally, owed, told, unsent, pending, inFlight]

theorem Holds.closeOutbox {o : Nat} (h : e.Holds name (some o)) :
    (e.closeOutbox o).Holds name none ∧
      (e.closeOutbox o).tally name = e.tally name := by
  have hopen := h.isOpen o rfl
  have hlt := lt_of_open hopen
  obtain ⟨hempty, htold⟩ := Outbox.awaited_close name hopen
  have htally := e.tally_setOutbox name (e.outbox o).close.1 (.inl hlt)
  have hclosed : (e.setOutbox o (e.outbox o).close.1).Holds name none := by
    refine ⟨h.calm, fun _ hnone => (nomatch hnone), fun _ hnone => (nomatch hnone), ?_⟩
    intro other _
    by_cases heq : o = other
    · subst heq
      rw [e.outbox_setOutbox hlt, hempty]
      rfl
    · rw [e.outbox_setOutbox_of_ne heq]
      exact h.elsewhere other fun hsame => heq (Option.some.inj hsame)
  refine ⟨hclosed.record _, ?_⟩
  show ((e.setOutbox o (e.outbox o).close.1).record (e.outbox o).close.2).tally name = _
  rw [tally_record, htold]
  rw [hempty] at htally
  exact htally

/-! ## Workers -/

/-- A delivery adds the word about its packet to the tally, wherever it stops. -/
theorem Holds.follow (h : e.Holds name used) (runner : Runner) {d : Delivery}
    {run : Links → Delivery.Course} (hpays : (run e.links).Pays name d) :
    (e.follow runner run).2.Holds name used ∧ (e.follow runner run).1 ≠ .crashed ∧
      (e.follow runner run).2.tally name =
        e.tally name + if d.callback.isOf name then 1 else 0 := by
  have hword := hpays.word
  have hover : ({ e with links := (run e.links).links } : Env).Holds name used :=
    h.of_outboxes hpays.calm rfl
  have hcourse := hover.record (run e.links).events
  have htally : (({ e with links := (run e.links).links } : Env).record
      (run e.links).events).tally name =
        e.tally name + (run e.links).events.countP (Event.settles name) :=
    tally_record _ _ _
  rw [Env.follow]
  cases hhalt : (run e.links).halt with
  | crashed => exact absurd hhalt hpays.whole
  | ended delivered =>
      rw [hhalt] at hword
      refine ⟨hcourse, nofun, ?_⟩
      rw [htally, ← hword]
      rfl
  | waiting w =>
      rw [hhalt] at hword
      refine ⟨hcourse.of_outboxes hcourse.calm rfl, nofun, ?_⟩
      refine (tally_park name _ runner w).trans ?_
      rw [htally, ← hword, Nat.add_assoc]
      rfl

/-- Whatever a delivery came to, the worker that carried it out adds nothing. -/
theorem Holds.settleWorker (h : e.Holds name used) (o : Nat) {halt : Delivery.Halt}
    (hhalt : halt ≠ .crashed) :
    (e.settleWorker o halt).2.Holds name used ∧
      (e.settleWorker o halt).2.tally name = e.tally name := by
  cases halt with
  | crashed => exact absurd rfl hhalt
  | ended _ | waiting _ => exact ⟨h, rfl⟩

theorem Holds.workOnce (h : e.Holds name used) (o : Nat) (links : LinkSet) :
    (e.workOnce o links).2.Holds name used ∧
      (e.workOnce o links).2.tally name = e.tally name := by
  rw [Env.workOnce]
  rcases (e.outbox o).pop_cases with ⟨hpop, -⟩ | ⟨hopen, item, rest, hitems, hpop⟩
  · simp only [hpop]
    exact h.setWorker o _
  · simp only [hpop]
    -- The outbox gives up the word about the packet, and the delivery takes it over.
    have htally := e.tally_setOutbox name { e.outbox o with items := rest }
      (.inl (lt_of_open hopen))
    rw [hitems, Outbox.awaited_cons] at htally
    have hpopped : (e.setOutbox o { e.outbox o with items := rest }).Holds name used := by
      refine h.setOutbox (fun ho => ⟨hopen, ?_⟩) fun ho => ?_
      · have hdistinct := h.distinct o ho
        rw [hitems] at hdistinct
        exact hdistinct.sublist (List.sublist_cons_self item rest)
      · have hnone := h.elsewhere o ho
        rw [hitems, Outbox.awaited_cons] at hnone
        exact Nat.eq_zero_of_add_eq_zero_right hnone
    obtain ⟨hsent, hhalt, hadd⟩ := hpopped.follow (.worker o)
      (Delivery.pays_run ⟨item.packet, item.callback, false, links⟩ hpopped.calm)
    obtain ⟨hsettled, hsame⟩ := hsent.settleWorker o hhalt
    refine ⟨hsettled, hsame.trans ?_⟩
    rw [hadd]
    dsimp only at htally ⊢
    omega

/-- The job with a number, if it is that a worker goes on with a delivery, is done up to
the next stop of the delivery. -/
def goOn (e : Env) (k : Nat) : Env :=
  match e.ready[k]? with
  | some (.resume (.worker o) w) =>
      let (halt, e) := { e with ready := e.ready.eraseIdx k }.follow (.worker o) w.resume
      (e.settleWorker o halt).2
  | _ => e

theorem Holds.goOn (h : e.Holds name used) (k : Nat) :
    (e.goOn k).Holds name used ∧ (e.goOn k).tally name = e.tally name := by
  rw [Env.goOn]
  split
  · next o w hjob =>
      have hready : ({ e with ready := e.ready.eraseIdx k } : Env).Holds name used :=
        h.of_outboxes h.calm rfl
      have htally := e.tally_eraseReady name hjob
      obtain ⟨hsent, hhalt, hadd⟩ :=
        hready.follow (.worker o) (Delivery.pays_resume w hready.calm)
      obtain ⟨hsettled, hsame⟩ := hsent.settleWorker o hhalt
      refine ⟨hsettled, hsame.trans ?_⟩
      rw [hadd, htally]
  · exact ⟨h, rfl⟩

theorem Holds.permit (h : e.Holds name used) (id : String) :
    (e.permit id).Holds name used ∧ (e.permit id).tally name = e.tally name := by
  rw [Env.permit]
  split
  · next runner w parked hpark =>
      exact ⟨h.of_outboxes h.calm rfl, e.tally_unpark name hpark⟩
  · have hcalm : (e.links.change id fun l => { l with permits := l.permits + 1 }).Calm :=
      h.calm.change id fun _ => rfl
    exact ⟨h.of_outboxes hcalm rfl, rfl⟩

end Tether.Env
