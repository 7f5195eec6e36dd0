import Tether.Proofs.Dict.Order
import Tether.Proofs.Env.Alike

/-!
# Failover

What becomes of a packet over a list of links is settled by what each of the links answers: the
links before the first one that delivers are tried, and that one, each once and in order, and then
one last word is told.

Gates only put this off. A delivery that waits at a gated link goes on with the links as they are
once there is a permit (`Course.goOn`), and as long as every link answers as it would have, the
whole course, in the order in which it happened, is the same as without gates: `course_goOn` is an
induction on the links that are left, whichever of the stops they come after.
-/

namespace Tether

/-! ## What a link answers -/

/-- What a link answers to a packet: its name and its conduct, and the progress it reports. -/
def Link.answer (l : Link) : String × Link.Conduct × List Nat :=
  (l.name, l.conduct, l.progress)

/-- Why a link does not deliver. -/
def Link.reason? (l : Link) : Option String :=
  match l.conduct with
  | .refuse => some (l.name ++ ": refused")
  | .fail fault => some (l.name ++ ": " ++ fault.message)
  | .deliver | .crash => none

namespace Links

/-- A link delivers. -/
def delivers (ls : Links) (id : String) : Bool :=
  (ls.link id).conduct = .deliver

/-- No link of a list crashes. -/
def Sane (ls : Links) (ids : LinkSet) : Prop :=
  ∀ id ∈ ids, (ls.link id).conduct ≠ .crash

/-- The links of a list answer alike in two states. -/
def Alike (ids : LinkSet) (ls ls' : Links) : Prop :=
  ∀ id ∈ ids, (ls'.link id).answer = (ls.link id).answer

/-- No link is changed but the one that is meant. -/
theorem link_change_other (ls : Links) {id other : String} (h : other ≠ id) (f : Link → Link) :
    (ls.change id f).link other = ls.link other := by
  simp [link, change, Dict.find?_adjust, h]

/-- All links answer as before if the one that is changed does. -/
theorem answer_change (ls : Links) (id other : String) {f : Link → Link}
    (hf : ∀ l, (f l).answer = l.answer) :
    ((ls.change id f).link other).answer = (ls.link other).answer := by
  simp only [link, change, Dict.find?_adjust]
  cases Dict.find? ls other with
  | none => rfl
  | some l =>
      by_cases hother : other = id
      · simpa [hother] using hf l
      · simp [hother]

/-- Passing a link uses up a permit at most. -/
theorem answer_pass {ls ls' : Links} {id : String} (h : ls.pass? id = some ls') (other : String) :
    (ls'.link other).answer = (ls.link other).answer := by
  simp only [pass?] at h
  split at h
  · cases h
    rfl
  · split at h
    · cases h
    · cases h
      exact ls.answer_change id other fun _ => rfl

theorem Alike.pass {ids : LinkSet} {ls ls' ls'' : Links} (h : Alike ids ls ls') {id : String}
    (hpass : ls'.pass? id = some ls'') : Alike ids ls ls'' :=
  fun other hother => (answer_pass hpass other).trans (h other hother)

/-- A link that does not deliver gives a reason. -/
theorem Sane.reason {ls : Links} {ids : LinkSet} (h : ls.Sane ids) {id : String} (hid : id ∈ ids)
    (hfails : ls.delivers id = false) : ∃ reason, (ls.link id).reason? = some reason := by
  have hcrash := h id hid
  simp only [delivers, decide_eq_false_iff_not] at hfails
  cases hconduct : (ls.link id).conduct with
  | deliver => exact absurd hconduct hfails
  | refuse => exact ⟨_, by rw [Link.reason?, hconduct]⟩
  | fail fault => exact ⟨_, by rw [Link.reason?, hconduct]⟩
  | crash => exact absurd hconduct hcrash

end Links

/-- The link that a packet was handed to. -/
def Event.attempted? : Event → Option String
  | .attempt id _ => some id
  | _ => none

/-- The link that delivered a packet, and the packet. -/
def Event.delivered? : Event → Option (String × Packet)
  | .sent id p => some (id, p)
  | _ => none

namespace Delivery

/-! ## Going on after a wait -/

/-- Go on as often as the delivery waits at a link, each time with the links as they are then. -/
def Course.goOn (c : Course) : List Links → Course
  | [] => c
  | ls :: later =>
      match c.halt with
      | .waiting w => ((w.resume ls).after c.events).goOn later
      | .ended _ | .crashed => c

theorem Course.after_after (earlier events : List Event) (c : Course) :
    (c.after events).after earlier = c.after (earlier ++ events) := by
  simp [Course.after]

theorem Course.goOn_after (earlier : List Event) (c : Course) (later : List Links) :
    (c.after earlier).goOn later = (c.goOn later).after earlier := by
  induction later generalizing c earlier with
  | nil => rfl
  | cons ls later ih =>
      obtain ⟨links, events, halt⟩ := c
      cases halt with
      | waiting w =>
          show ((w.resume ls).after (earlier ++ events)).goOn later =
            (((w.resume ls).after events).goOn later).after earlier
          rw [← ih, Course.after_after]
      | ended delivered => rfl
      | crashed => rfl

theorem Course.goOn_ended {c : Course} {delivered : Bool} (h : c.halt = .ended delivered)
    (later : List Links) : c.goOn later = c := by
  cases later with
  | nil => rfl
  | cons ls later => rw [goOn, h]

/-! ## The course of a packet -/

/-- The links that are tried: those before the first one that delivers, and that one. -/
def tried (ls : Links) (ids : LinkSet) : LinkSet :=
  ids.takeWhile (fun id => !ls.delivers id) ++ (ids.find? ls.delivers).toList

/-- The progress that is told of. -/
def strides (ls : Links) (id : String) : List Report :=
  (ls.link id).progress.map fun n => .progress (min n 100)

/-- The last word about a packet. -/
def verdict (d : Delivery) (ls : Links) : Report :=
  if d.links.any ls.delivers then .success
  else if d.links = [] then .failure .notConnected
  else .failure <| .transport <|
    d.packet.type ++ " packet not delivered over any of " ++ toString d.links.length
      ++ " link(s) (" ++ "; ".intercalate (d.links.filterMap fun id => (ls.link id).reason?) ++ ")"

/-- What happens while a packet is tried on a link, but for the last word. -/
def trial (d : Delivery) (ls : Links) (id : String) : List Event :=
  .attempt id d.sameThread :: (strides ls id).flatMap d.callback.tell
    ++ if ls.delivers id then [.sent id d.packet] else []

@[simp] theorem tried_nil (ls : Links) : tried ls [] = [] := rfl

theorem tried_delivers {ls : Links} {id : String} (h : ls.delivers id = true) (rest : LinkSet) :
    tried ls (id :: rest) = [id] := by
  simp [tried, h]

theorem tried_fails {ls : Links} {id : String} (h : ls.delivers id = false) (rest : LinkSet) :
    tried ls (id :: rest) = id :: tried ls rest := by
  simp [tried, h]

section

variable {d : Delivery} {ls ls' : Links} {id : String}

theorem reported_alike (h : (ls'.link id).answer = (ls.link id).answer) :
    d.reported (ls'.link id) = (strides ls id).flatMap d.callback.tell := by
  obtain ⟨-, -, hprogress⟩ : _ ∧ _ ∧ _ := by simpa [Link.answer] using h
  rw [reported, hprogress, strides, List.flatMap_map]

theorem trial_delivers (h : ls.delivers id = true) :
    d.trial ls id = [.attempt id d.sameThread] ++
      ((strides ls id).flatMap d.callback.tell ++ [.sent id d.packet]) := by
  simp [trial, h]

theorem trial_fails (h : ls.delivers id = false) :
    d.trial ls id =
      [.attempt id d.sameThread] ++ (strides ls id).flatMap d.callback.tell := by
  simp [trial, h]

/-- A link that delivers ends the course. -/
theorem hand_delivers (h : (ls'.link id).answer = (ls.link id).answer)
    (hdelivers : ls.delivers id = true) (next : String → Course) :
    d.hand id ls' next =
      ⟨ls', (strides ls id).flatMap d.callback.tell ++ [.sent id d.packet]
        ++ d.callback.tell .success, .ended true⟩ := by
  have hconduct : (ls'.link id).conduct = .deliver := by
    have hsame : (ls'.link id).conduct = (ls.link id).conduct := congrArg (·.2.1) h
    rw [hsame]
    simpa [Links.delivers] using hdelivers
  simp only [hand, hconduct, reported_alike h]

/-- A link that does not deliver says nothing but its progress, and leaves its reason. -/
theorem hand_fails (h : (ls'.link id).answer = (ls.link id).answer) {reason : String}
    (hreason : (ls.link id).reason? = some reason) (next : String → Course) :
    d.hand id ls' next = (next reason).after ((strides ls id).flatMap d.callback.tell) := by
  have hname : (ls'.link id).name = (ls.link id).name := congrArg (·.1) h
  have hconduct : (ls'.link id).conduct = (ls.link id).conduct := congrArg (·.2.1) h
  simp only [hand, hconduct, hname, reported_alike h]
  cases hc : (ls.link id).conduct <;> simp only [Link.reason?, hc] at hreason <;> cases hreason <;>
    rfl

end

/-- The last word of a course over the links that are left. -/
def lastWord (d : Delivery) (ls : Links) (rest : LinkSet) (failures : List String) : Report :=
  if rest.any ls.delivers then .success
  else .failure (d.fault (failures ++ rest.filterMap fun id => (ls.link id).reason?))

theorem lastWord_links (d : Delivery) (ls : Links) :
    d.lastWord ls d.links [] = d.verdict ls := by
  simp only [lastWord, verdict, fault, List.nil_append]
  split
  · rfl
  · split <;> rfl

/-- What happens over the links that are left, and how it ends, once no gate is in the way. -/
structure Course.Whole (d : Delivery) (ls : Links) (rest : LinkSet) (failures : List String)
    (c : Course) : Prop where
  halt : c.halt = .ended (rest.any ls.delivers)
  events : c.events =
    (tried ls rest).flatMap (d.trial ls) ++ d.callback.tell (d.lastWord ls rest failures)

section

variable {d : Delivery} {ls : Links} {id : String} {rest : LinkSet} {failures : List String}

/-- A link that delivers makes the course whole. -/
theorem Course.Whole.delivers (hdelivers : ls.delivers id = true) (links : Links) :
    Course.Whole d ls (id :: rest) failures
      ⟨links, [.attempt id d.sameThread] ++ ((strides ls id).flatMap d.callback.tell
        ++ [.sent id d.packet] ++ d.callback.tell .success), .ended true⟩ := by
  constructor
  · simp [hdelivers]
  · simp [tried_delivers hdelivers, trial_delivers hdelivers, lastWord, hdelivers]

/-- A link that does not deliver leaves the rest to the links after it. -/
theorem Course.Whole.fails {c : Course} {reason : String} (hfails : ls.delivers id = false)
    (hreason : (ls.link id).reason? = some reason)
    (h : Course.Whole d ls rest (failures ++ [reason]) c) :
    Course.Whole d ls (id :: rest) failures
      (c.after ([.attempt id d.sameThread] ++ (strides ls id).flatMap d.callback.tell)) := by
  have hword : d.lastWord ls (id :: rest) failures = d.lastWord ls rest (failures ++ [reason]) := by
    simp [lastWord, hfails, hreason]
  constructor
  · simpa [Course.after, hfails] using h.halt
  · simp only [Course.after, h.events, tried_fails hfails, List.flatMap_cons, trial_fails hfails,
      hword, List.append_assoc]

end

/-- However often a delivery has to wait, it comes to its end, and with all its events. -/
theorem course_goOn (d : Delivery) {ls : Links} (rest : LinkSet) (hsane : ls.Sane rest)
    {now : Links} (hnow : Links.Alike rest ls now) {later : List Links}
    (hlater : ∀ ls' ∈ later, Links.Alike rest ls ls') (hlong : rest.length ≤ later.length)
    (failures : List String) :
    Course.Whole d ls rest failures ((d.tryLinks rest now failures).goOn later) := by
  induction rest generalizing now later failures with
  | nil =>
      rw [tryLinks, Course.goOn_ended rfl]
      exact ⟨rfl, by simp [lastWord]⟩
  | cons id rest ih =>
      have htail {ls' : Links} (h : Links.Alike (id :: rest) ls ls') : Links.Alike rest ls ls' :=
        fun other hother => h other (List.mem_cons_of_mem id hother)
      -- the link is passed, at once or after a wait; what follows is the same
      have hpassed {now : Links} (hnow : Links.Alike (id :: rest) ls now) {later : List Links}
          (hlater : ∀ ls' ∈ later, Links.Alike (id :: rest) ls ls')
          (hlong : rest.length ≤ later.length) :
          Course.Whole d ls (id :: rest) failures
            (((d.hand id now fun reason => d.tryLinks rest now (failures ++ [reason])).after
              [.attempt id d.sameThread]).goOn later) := by
        have hanswer := hnow id List.mem_cons_self
        rw [Course.goOn_after]
        cases hdelivers : ls.delivers id with
        | true =>
            rw [hand_delivers hanswer hdelivers, Course.goOn_ended rfl]
            exact .delivers hdelivers now
        | false =>
            obtain ⟨reason, hreason⟩ := hsane.reason List.mem_cons_self hdelivers
            rw [hand_fails hanswer hreason, Course.goOn_after, Course.after_after]
            exact .fails hdelivers hreason <|
              ih (fun other hother => hsane other (List.mem_cons_of_mem id hother)) (htail hnow)
                (fun ls' hls' => htail (hlater ls' hls')) hlong _
      rw [tryLinks]
      cases hpass : now.pass? id with
      | some passed =>
          exact hpassed (hnow.pass hpass) hlater (Nat.le_of_succ_le hlong)
      | none =>
          obtain _ | ⟨permitted, later⟩ := later
          · exact absurd hlong (by simp)
          · exact hpassed (hlater permitted List.mem_cons_self)
              (fun ls' hls' => hlater ls' (List.mem_cons_of_mem permitted hls'))
              (by simpa using hlong)

/-! ## Who hears what -/

theorem filter_isReport_flatMap_tell (c : Callback) (rs : List Report) :
    (rs.flatMap c.tell).filter Event.isReport = rs.flatMap c.tell := by
  refine List.filter_eq_self.mpr fun e he => ?_
  obtain ⟨r, -, hr⟩ := List.mem_flatMap.mp he
  exact Callback.isReport_of_mem_tell hr

/-- Whoever is told of a packet hands it to no link, and delivers it nowhere. -/
theorem filterMap_flatMap_tell {α : Type} {f : Event → Option α} (c : Callback)
    (hf : ∀ e : Event, e.isReport = true → f e = none) (rs : List Report) :
    (rs.flatMap c.tell).filterMap f = [] := by
  refine List.filterMap_eq_nil_iff.mpr fun e he => hf e ?_
  obtain ⟨r, -, hr⟩ := List.mem_flatMap.mp he
  exact Callback.isReport_of_mem_tell hr

theorem attempted?_of_isReport (e : Event) (h : e.isReport = true) : e.attempted? = none := by
  cases e <;> first | rfl | cases h

theorem delivered?_of_isReport (e : Event) (h : e.isReport = true) : e.delivered? = none := by
  cases e <;> first | rfl | cases h

section

variable (d : Delivery) (ls : Links) (id : String)

theorem attempted_trial : (d.trial ls id).filterMap Event.attempted? = [id] := by
  have hfirst : (Event.attempt id d.sameThread).attempted? = some id := rfl
  rw [trial, List.cons_append, List.filterMap_cons_some hfirst, List.filterMap_append,
    filterMap_flatMap_tell _ attempted?_of_isReport]
  split <;> rfl

theorem delivered_trial :
    (d.trial ls id).filterMap Event.delivered? =
      if ls.delivers id then [(id, d.packet)] else [] := by
  rw [trial, List.cons_append, List.filterMap_cons_none rfl, List.filterMap_append,
    filterMap_flatMap_tell _ delivered?_of_isReport]
  split <;> rfl

theorem reports_trial :
    (d.trial ls id).filter Event.isReport = (strides ls id).flatMap d.callback.tell := by
  rw [trial, List.cons_append, List.filter_cons_of_neg (by simp [Event.isReport]),
    List.filter_append, filter_isReport_flatMap_tell]
  split <;> simp [Event.isReport]

theorem attempted_trials (ids : LinkSet) :
    (ids.flatMap (d.trial ls)).filterMap Event.attempted? = ids := by
  simp only [List.filterMap_flatMap, attempted_trial, List.flatMap_singleton']

/-- Of the links that are tried only the last can deliver. -/
theorem delivered_trials (ids : LinkSet) :
    ((tried ls ids).flatMap (d.trial ls)).filterMap Event.delivered? =
      ((ids.find? ls.delivers).map fun id => (id, d.packet)).toList := by
  induction ids with
  | nil => rfl
  | cons id rest ih =>
      cases h : ls.delivers id with
      | true => simp [tried_delivers h, delivered_trial, h]
      | false =>
          rw [tried_fails h, List.flatMap_cons, List.filterMap_append, delivered_trial, ih]
          simp [h]

theorem reports_trials (ids : LinkSet) :
    (ids.flatMap (d.trial ls)).filter Event.isReport =
      (ids.flatMap (strides ls)).flatMap d.callback.tell := by
  simp only [List.filter_flatMap, reports_trial, List.flatMap_assoc]

end

/-- A packet is tried on the links up to the first that delivers it, on each once and in their
order, and on none after it. The answer says whether one delivers, only that one does, and
whoever waits is told the progress of all the links that were tried, cut off at a hundred, and
then one last word: that the packet arrived, or that there is no link, or why each link failed.

It is so whatever gates the packet has to wait at, as long as each time it may go on the links
answer as they would have, and as long as there is a permit in the end. -/
theorem failover (d : Delivery) {ls : Links} (hsane : ls.Sane d.links) {later : List Links}
    (hlater : ∀ ls' ∈ later, Links.Alike d.links ls ls') (hlong : d.links.length ≤ later.length) :
    let c := (d.run ls).goOn later
    c.halt = .ended (d.links.any ls.delivers) ∧
      c.events.filterMap Event.attempted? =
        d.links.takeWhile (fun id => !ls.delivers id) ++ (d.links.find? ls.delivers).toList ∧
      c.events.filterMap Event.delivered? =
        ((d.links.find? ls.delivers).map fun id => (id, d.packet)).toList ∧
      c.events.filter Event.isReport =
        ((tried ls d.links).flatMap (strides ls) ++ [d.verdict ls]).flatMap d.callback.tell ∧
      c.events = (tried ls d.links).flatMap (d.trial ls) ++ d.callback.tell (d.verdict ls) := by
  have hnow : Links.Alike d.links ls ls := fun _ _ => rfl
  have hwhole := d.course_goOn d.links hsane hnow hlater hlong []
  have hevents := hwhole.events
  rw [lastWord_links] at hevents
  have hword : d.callback.tell (d.verdict ls) = [d.verdict ls].flatMap d.callback.tell := by simp
  refine ⟨hwhole.halt, ?attempted, ?delivered, ?reports, hevents⟩
  case attempted =>
    rw [run, hevents, hword, List.filterMap_append, attempted_trials,
      filterMap_flatMap_tell _ attempted?_of_isReport, List.append_nil, tried]
  case delivered =>
    rw [run, hevents, hword, List.filterMap_append, delivered_trials,
      filterMap_flatMap_tell _ delivered?_of_isReport, List.append_nil]
  case reports =>
    rw [run, hevents, hword, List.filter_append, reports_trials, filter_isReport_flatMap_tell,
      List.flatMap_append]

/-- Over three links, of which the second makes packets wait, a packet is refused, waits and fails,
and arrives. -/
theorem failover_past_gate :
    let ls : Links :=
      [("bt",
          { name := "bt", gated := true, conduct := .fail (.timeout "asleep"), progress := [40] }),
        ("lan", { name := "lan", conduct := .refuse, progress := [10, 150] }),
        ("usb", { name := "usb" })]
    let d : Delivery :=
      { packet := ⟨1, "kdeconnect.share.request", [], none, none, []⟩
        callback := .named "window" false
        links := ["lan", "bt", "usb"] }
    let later := List.replicate 3 ls
    (d.run ls).halt = .waiting ⟨d, "bt", ["usb"], ["lan: refused"]⟩ ∧
      ((d.run ls).goOn later).halt = .ended true ∧
      ((d.run ls).goOn later).events =
        [.attempt "lan" false, .told "window" (.progress 10), .told "window" (.progress 100),
          .attempt "bt" false, .told "window" (.progress 40), .attempt "usb" false,
          .sent "usb" d.packet, .told "window" .success] := by
  intro ls d later
  have hlater : ∀ ls' ∈ later, Links.Alike d.links ls ls' := by
    intro ls' hls' id _
    rw [List.eq_of_mem_replicate hls']
  obtain ⟨hhalt, -, -, -, hevents⟩ :=
    d.failover (by unfold Links.Sane; decide) hlater (by decide)
  exact ⟨by decide, hhalt.trans (by decide), hevents.trans (by decide)⟩

end Delivery

end Tether
