import Tether.Proofs.Link.Failover

/-!
# Deliveries that come to stops

A delivery that waits is not over, and nobody has had the last word about it (`Reaches.calm`). A
delivery that does not wait any more is over, and it has the story that any delivery of this packet
has over links that answer so (`Reaches.over`), whatever it waited for in between.
-/

namespace Tether

/-- The last word about a packet. -/
def Event.isLastWord : Event → Bool
  | .told _ report => report.isFinal
  | .undelivered .. => true
  | _ => false

/-- A blocking send came back. -/
def Event.isReturn : Event → Bool
  | .returned .. => true
  | _ => false

/-- Whoever is told something hears the last word just if it is the last report. -/
theorem Callback.isLastWord_of_mem_tell {c : Callback} {r : Report} {event : Event}
    (h : event ∈ c.tell r) : event.isLastWord = r.isFinal := by
  cases c with
  | named name quiet =>
      cases r <;> cases quiet <;> simp_all [tell, Event.isLastWord]
  | log type => cases h
  | pairing device => cases r <;> simp_all [tell, Event.isLastWord, Report.isFinal]

namespace Delivery

/-- Nobody has had the last word in some events. -/
def Calm (events : List Event) : Prop :=
  ∀ event ∈ events, event.isLastWord = false

theorem Calm.append {earlier later : List Event} (h : Calm earlier) (h' : Calm later) :
    Calm (earlier ++ later) :=
  fun event hevent => (List.mem_append.mp hevent).elim (h event) (h' event)

theorem Calm.filter {events : List Event} (h : Calm events) :
    events.filter Event.isLastWord = [] :=
  List.filter_eq_nil_iff.mpr fun event hevent => Bool.eq_false_iff.mp (h event hevent)

theorem calm_reported (d : Delivery) (l : Link) : Calm (d.reported l) := by
  intro event hevent
  obtain ⟨n, -, htold⟩ := List.mem_flatMap.mp hevent
  exact Callback.isLastWord_of_mem_tell htold

theorem calm_trial (d : Delivery) (ls : Links) (id : String) : Calm (d.trial ls id) := by
  have hstrides : Calm ((strides ls id).flatMap d.callback.tell) := by
    rw [← reported_alike rfl]
    exact d.calm_reported _
  intro event hevent
  rw [trial, List.cons_append] at hevent
  rcases List.mem_cons.mp hevent with rfl | hevent
  · rfl
  · rcases List.mem_append.mp hevent with htold | hsent
    · exact hstrides event htold
    · split at hsent
      · cases List.mem_singleton.mp hsent
        rfl
      · cases hsent

/-! ## What is said before a stop -/

/-- A delivery says nothing of whoever waits for it to be over, and as long as it waits itself it
does not have the last word. -/
structure Course.Reserved (c : Course) : Prop where
  unreturned : ∀ event ∈ c.events, event.isReturn = false
  calm : ∀ w, c.halt = .waiting w → Calm c.events

theorem unreturned_tell (c : Callback) (r : Report) :
    ∀ event ∈ c.tell r, event.isReturn = false := by
  intro event hevent
  have hreport := Callback.isReport_of_mem_tell hevent
  cases event <;> simp_all [Event.isReport, Event.isReturn]

theorem unreturned_reported (d : Delivery) (l : Link) :
    ∀ event ∈ d.reported l, event.isReturn = false := by
  intro event hevent
  obtain ⟨n, -, htold⟩ := List.mem_flatMap.mp hevent
  exact unreturned_tell _ _ event htold

theorem Course.Reserved.after {c : Course} (h : c.Reserved) {earlier : List Event}
    (hreturn : ∀ event ∈ earlier, event.isReturn = false) (hcalm : Calm earlier) :
    (c.after earlier).Reserved :=
  ⟨List.forall_mem_append.mpr ⟨hreturn, h.unreturned⟩, fun w hw => hcalm.append (h.calm w hw)⟩

theorem reserved_hand (d : Delivery) (id : String) (ls : Links) {next : String → Course}
    (hnext : ∀ reason, (next reason).Reserved) : (d.hand id ls next).Reserved := by
  have hreported := d.unreturned_reported (ls.link id)
  simp only [hand]
  split
  · refine ⟨?_, fun _ hw => Halt.noConfusion hw⟩
    exact List.forall_mem_append.mpr
      ⟨List.forall_mem_append.mpr ⟨hreported, List.forall_mem_singleton.mpr rfl⟩,
        unreturned_tell d.callback _⟩
  · exact (hnext _).after hreported (d.calm_reported _)
  · exact (hnext _).after hreported (d.calm_reported _)
  · exact ⟨hreported, fun _ hw => Halt.noConfusion hw⟩

theorem reserved_tryLinks (d : Delivery) (rest : LinkSet) (ls : Links) (failures : List String) :
    (d.tryLinks rest ls failures).Reserved := by
  induction rest generalizing ls failures with
  | nil =>
      rw [tryLinks]
      exact ⟨unreturned_tell d.callback _, fun _ hw => Halt.noConfusion hw⟩
  | cons id rest ih =>
      have hreturn : ∀ event ∈ [Event.attempt id d.sameThread], event.isReturn = false :=
        List.forall_mem_singleton.mpr rfl
      have hcalm : Calm [.attempt id d.sameThread] := List.forall_mem_singleton.mpr rfl
      rw [tryLinks]
      refine Course.Reserved.after ?_ hreturn hcalm
      split
      · exact ⟨List.forall_mem_nil _, fun _ _ => List.forall_mem_nil _⟩
      · next passed _ => exact d.reserved_hand id passed fun _ => ih passed _

theorem reserved_run (d : Delivery) (ls : Links) : (d.run ls).Reserved :=
  d.reserved_tryLinks d.links ls []

theorem reserved_resume (w : Waiting) (ls : Links) : (w.resume ls).Reserved :=
  w.delivery.reserved_hand w.link ls fun _ => w.delivery.reserved_tryLinks w.rest ls _

/-! ## Courses with stops -/

theorem isFinal_verdict (d : Delivery) (ls : Links) : (d.verdict ls).isFinal = true := by
  rw [verdict]
  split
  · rfl
  · split <;> rfl

/-- Whether the last word about a packet is a good one. -/
def arrives (d : Delivery) (ls : Links) : Bool :=
  d.verdict ls = .success

theorem arrives_eq (d : Delivery) (ls : Links) : d.arrives ls = d.links.any ls.delivers := by
  rw [arrives, verdict]
  split
  · next h => simp [h]
  · next h =>
      rw [Bool.not_eq_true] at h
      rw [h]
      split <;> rfl

/-- All that happens to a packet over links that answer so. -/
def story (d : Delivery) (ls : Links) : List Event :=
  (tried ls d.links).flatMap (d.trial ls) ++ d.callback.tell (d.verdict ls)

/-- A course of a delivery up to one of its stops. Each time that it goes on, its links answer as
they would have. -/
inductive Reaches (d : Delivery) (ls : Links) : Course → Prop where
  | run {now : Links} (h : Links.Alike d.links ls now) : Reaches d ls (d.run now)
  | resume {c : Course} {w : Waiting} {now : Links} (hc : Reaches d ls c)
      (hw : c.halt = .waiting w) (h : Links.Alike d.links ls now) :
      Reaches d ls ((w.resume now).after c.events)

variable {d : Delivery} {ls : Links} {c : Course}

/-- Only who waits goes on. -/
theorem Course.goOn_stopped (h : ∀ w, c.halt ≠ .waiting w) (later : List Links) :
    c.goOn later = c := by
  cases later with
  | nil => rfl
  | cons now later =>
      rw [goOn]
      split
      · next w hw => exact absurd hw (h w)
      · rfl
      · rfl

theorem Course.goOn_append (c : Course) (earlier later : List Links) :
    c.goOn (earlier ++ later) = (c.goOn earlier).goOn later := by
  induction earlier generalizing c with
  | nil => rfl
  | cons now earlier ih =>
      rw [List.cons_append, goOn, goOn]
      split
      · exact ih _
      · next hended => rw [goOn_stopped fun _ hw => Halt.noConfusion (hended.symm.trans hw)]
      · next hcrashed => rw [goOn_stopped fun _ hw => Halt.noConfusion (hcrashed.symm.trans hw)]

theorem Reaches.exists_goOn (h : Reaches d ls c) :
    ∃ now stops, Links.Alike d.links ls now ∧ (∀ ls' ∈ stops, Links.Alike d.links ls ls') ∧
      c = (d.run now).goOn stops := by
  induction h with
  | run hnow => exact ⟨_, [], hnow, nofun, rfl⟩
  | @resume c w now hc hw hnow ih =>
      obtain ⟨first, stops, hfirst, hstops, rfl⟩ := ih
      refine ⟨first, stops ++ [now], hfirst, ?_, ?_⟩
      · exact List.forall_mem_append.mpr ⟨hstops, List.forall_mem_singleton.mpr hnow⟩
      · rw [Course.goOn_append, Course.goOn, hw]
        rfl

theorem Reaches.calm (h : Reaches d ls c) {w : Waiting} (hw : c.halt = .waiting w) :
    Calm c.events := by
  induction h generalizing w with
  | run _ => exact (d.reserved_run _).calm w hw
  | @resume c w' now hc hw' _ ih => exact (ih hw').append ((reserved_resume w' now).calm w hw)

/-- A delivery that does not wait is over, and its story is told to its end. -/
theorem Reaches.over (h : Reaches d ls c) (hsane : ls.Sane d.links) :
    (∃ w, c.halt = .waiting w) ∨ c.halt = .ended (d.arrives ls) ∧ c.events = d.story ls := by
  obtain ⟨now, stops, hnow, hstops, rfl⟩ := h.exists_goOn
  -- had it waited on, it would have come to its end; but only who waits goes on
  have hmore : ∀ ls' ∈ stops ++ List.replicate d.links.length ls, Links.Alike d.links ls ls' := by
    refine List.forall_mem_append.mpr ⟨hstops, fun ls' hls' id _ => ?_⟩
    rw [List.eq_of_mem_replicate hls']
  have hwhole : Course.Whole d ls d.links []
      (((d.run now).goOn stops).goOn (List.replicate d.links.length ls)) := by
    rw [← Course.goOn_append]
    exact d.course_goOn d.links hsane hnow hmore (by simp) []
  by_cases hwaits : ∃ w, ((d.run now).goOn stops).halt = .waiting w
  · exact .inl hwaits
  · rw [Course.goOn_stopped (not_exists.mp hwaits)] at hwhole
    exact .inr ⟨by rw [hwhole.halt, arrives_eq], by rw [hwhole.events, lastWord_links, story]⟩

/-- The last word of a story is the verdict, and it is the only one. -/
theorem lastWords_story (d : Delivery) (ls : Links) :
    (d.story ls).filter Event.isLastWord = d.callback.tell (d.verdict ls) := by
  have htrials : Calm ((tried ls d.links).flatMap (d.trial ls)) := by
    intro event hevent
    obtain ⟨id, -, htrial⟩ := List.mem_flatMap.mp hevent
    exact d.calm_trial ls id event htrial
  rw [story, List.filter_append, htrials.filter, List.nil_append, List.filter_eq_self]
  intro event hevent
  rw [Callback.isLastWord_of_mem_tell hevent, isFinal_verdict]

end Delivery

end Tether
