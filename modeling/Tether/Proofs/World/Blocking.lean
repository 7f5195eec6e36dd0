import Tether.Proofs.Env.Underway
import Tether.Proofs.World.Rest

/-!
# Blocking sends tell the truth

Somebody asks a device to send a packet and waits. Whatever else happens then, the send begins, and
it begins while the device is there, because it is held for the send. From then on only the links
count that are attached at that moment: each is tried as failover has it, the callback has one last
word, and the caller comes back once, with what came of it or, if the packet has a payload that
takes too long, with nothing to show (`told_truthfully`).

Between asking and beginning the send is just asked for (`Env.Asked`), and afterwards it is under
way (`Sending.Lives`). Both are kept by every move, the one until the job is done that begins the
send, the other for good.
-/

namespace Tether

theorem Packet.hasPayload_iff (p : Packet) :
    p.hasPayload = true ↔ ∃ size, p.payloadSize = some size ∧ size ≠ 0 := by
  rw [hasPayload]
  cases p.payloadSize <;> simp

/-! ## Asking -/

/-- A send was asked for. It begins when it is its turn. -/
structure Env.Asked (e : Env) (c : Nat) (call : Call) : Prop where
  waits : call.Waits e.clock
  slip : e.slip c = ⟨some call, [], [.begin c], call.alarms c e.clock⟩

/-- What a device is asked for. -/
def Scene.request (site : Site) (s : Scene) (name : String) (p : Packet) (callback : Callback)
    (sameThread : Bool) : Call where
  name := name
  device := s.device.ref
  packet := p
  callback := callback
  sameThread := sameThread
  deadline := if p.hasPayload then some (s.env.clock + site.payloadWait) else none

theorem Scene.sendBlocking_env (site : Site) (s : Scene) (name : String) (p : Packet)
    (callback : Callback) (sameThread : Bool) :
    let asked := s.env.ask (s.request site name p callback sameThread)
    (s.sendBlocking site name p callback sameThread).env =
      if p.hasPayload ∧ 0 < site.payloadWait then
        asked.setAlarm site.payloadWait (.wake s.env.calls.length)
      else asked := by
  simp only [sendBlocking]
  split <;> rfl

theorem Scene.asked_sendBlocking (site : Site) {s : Scene}
    (hblank : s.env.slip s.env.calls.length = ⟨none, [], [], []⟩) (name : String) (p : Packet)
    (callback : Callback) (sameThread : Bool) :
    (s.sendBlocking site name p callback sameThread).env.Asked s.env.calls.length
      (s.request site name p callback sameThread) := by
  have hslip := s.env.slip_ask (s.request site name p callback sameThread)
  rw [hblank] at hslip
  have hwaits : (s.request site name p callback sameThread).Waits s.env.clock := by
    refine ⟨rfl, rfl, fun due hdue => ?_⟩
    cases hpayload : p.hasPayload <;> simp [request, hpayload] at hdue
    omega
  have halarms : (s.request site name p callback sameThread).alarms s.env.calls.length s.env.clock =
      if p.hasPayload ∧ 0 < site.payloadWait then
        [⟨s.env.clock + site.payloadWait, .wake s.env.calls.length⟩] else [] := by
    cases hpayload : p.hasPayload <;> simp [Call.alarms, request, hpayload]
  rw [sendBlocking_env]
  by_cases hwait : p.hasPayload ∧ 0 < site.payloadWait
  · rw [if_pos hwait] at halarms ⊢
    have hset : (s.env.ask (s.request site name p callback sameThread)).Leaves _
        ((s.env.ask (s.request site name p callback sameThread)).setAlarm site.payloadWait
          (.wake s.env.calls.length)) := Env.leaves_setAlarm _ _ rfl
    have hclock := hset.clock.trans (show _ = s.env.clock from rfl)
    refine ⟨hclock ▸ hwaits, ?_⟩
    rw [Env.slip_setAlarm_own _ hwait.2 rfl, hslip, hclock, halarms]
    rfl
  · rw [if_neg hwait] at halarms ⊢
    exact ⟨hwaits, hslip.trans (by rw [← halarms]; rfl)⟩

namespace Sending

/-- A send is under way in an environment, and the links that were attached answer as they did. -/
structure Lives (b : Sending) (e : Env) (said : List (Nat × Event)) : Prop where
  there : b.number < e.calls.length
  alike : Links.Alike b.attached b.links e.links
  underway : ∃ stage back, b.Underway stage back (e.slip b.number) e.clock said

variable {b : Sending} {e f : Env} {said : List (Nat × Event)}

theorem Lives.avoids (h : b.Lives e said) {own : Option Nat} (hf : e.Avoids own f)
    (hown : own ≠ some b.number) : b.Lives f said := by
  refine ⟨Nat.lt_of_lt_of_le h.there hf.grows, fun id hid => ?_, ?_⟩
  · rw [hf.answers, h.alike id hid]
  · rw [hf.slips b.number hown (.inl h.there), hf.clock]
    exact h.underway

end Sending

namespace World

variable {site : Site} {w u : World} {c : Nat} {call : Call} {job : Job} {m : Move}

/-! ## Until a send begins -/

theorem asked_visit (site : Site) (h : w.Wired) (hnumbered : w.Numbered) {ref : Nat} {d : Device}
    (hd : w.device? ref = some d) (name : String) (p : Packet) (callback : Callback)
    (sameThread : Bool) :
    let asked := w.move site (.visit ref (.sendBlocking name p callback sameThread))
    asked.Wired ∧ (asked.device? ref).isSome = true ∧ asked.env.clock = w.env.clock ∧
      asked.env.Asked w.env.calls.length
        ((⟨d, w.env⟩ : Scene).request site name p callback sameThread) := by
  intro asked
  have hown : (Op.sendBlocking name p callback sameThread).Own := trivial
  have hminds := fun s : Scene => Scene.minds_apply site s hown
  refine ⟨h.move site (m := .visit ref _) hown, ?_, (w.leaves_act ref hminds).clock, ?_⟩
  · have hsame := w.isSome_act ref ref fun s => (hminds s).ref
    rw [hd] at hsame
    exact hsame
  · have henv : asked.env =
        ((⟨d, w.env⟩ : Scene).sendBlocking site name p callback sameThread).env :=
      (act_eq hd _).1
    rw [henv]
    exact Scene.asked_sendBlocking site (hnumbered _ (Nat.le_refl _)) name p callback sameThread

/-- After some moves the next job is the one that begins a send, and its device is there. Until then
the send is only asked for: no time passes, and nothing is heard of it. -/
structure Starts (site : Site) (w : World) (c : Nat) (call : Call) (before : List Move)
    (d : Device) : Prop where
  next : ∃ u, (w.run site before).next? = some (.begin c, u)
  device : (w.run site before).device? call.device = some d
  asked : (w.run site before).env.Asked c call
  clock : (w.run site before).env.clock = w.env.clock
  silent : w.hears site c before = []

/-- A send that is asked for begins, if there is nothing left to do for it in the end. -/
theorem exists_starts (h : w.env.Asked c call) (hw : w.Wired)
    (hd : (w.device? call.device).isSome = true) {later : List Move}
    (hlater : ∀ m ∈ later, m.Own) (htimely : w.Timely site later)
    (hrests : (w.run site later).Rests c) :
    ∃ before after d, later = before ++ .next :: after ∧ w.Starts site c call before d := by
  induction later generalizing w with
  | nil =>
      have hslip := (rests_iff.mp hrests).symm.trans (congrArg Slip.ready h.slip)
      cases hslip
  | cons m rest ih =>
      obtain ⟨hm, hrest⟩ := List.forall_mem_cons.mp hlater
      obtain ⟨hprompt, htimely⟩ := htimely
      -- whatever does not begin the send leaves it asked for
      have hon : (w.move site m).env.slip c = w.env.slip c →
          (w.move site m).env.clock = w.env.clock → w.heard c m = [] →
          ∃ before after d, m :: rest = before ++ .next :: after ∧
            w.Starts site c call before d := by
        intro hslip hclock hsilent
        have hasked : (w.move site m).env.Asked c call :=
          ⟨hclock ▸ h.waits, by rw [hslip, hclock]; exact h.slip⟩
        have hstays := isSome_move hw hm (congrArg Slip.call hasked.slip) h.waits.isOpen hd
        obtain ⟨before, after, d, rfl, hstarts⟩ :=
          ih hasked (hw.move site hm) hstays hrest htimely hrests
        refine ⟨m :: before, after, d, rfl, hstarts.next, hstarts.device, hstarts.asked,
          hstarts.clock.trans hclock, ?_⟩
        rw [hears, hsilent, hstarts.silent]
        rfl
      have hthere : c < w.env.calls.length :=
        (List.getElem?_eq_some_iff.mp (congrArg Slip.call h.slip)).1
      rcases w.move_cases site c hm with ⟨own, hown, havoids, hsilent⟩ |
        ⟨job, u, rfl, hnext, hjob⟩ | ⟨link, rfl⟩ | ⟨time, rfl⟩ | ⟨link, conduct, rfl⟩
      · exact hon (havoids.slips c hown (.inl hthere)) havoids.clock hsilent
      · have hslip := h.slip
        rw [Env.slip_next (next_eq hnext).1, if_pos hjob] at hslip
        obtain ⟨rfl, -⟩ := List.cons.inj (congrArg Slip.ready hslip)
        obtain ⟨d, hd⟩ := Option.isSome_iff_exists.mp hd
        exact ⟨[], rest, d, rfl, ⟨u, hnext⟩, hd, h, rfl, rfl⟩
      · obtain ⟨-, hclock, -⟩ := w.env.permit_eq link
        rcases w.env.slip_permit link c with hsame | ⟨pre, runner, waiting, post, hparked, -⟩
        · exact hon hsame hclock rfl
        · rw [h.slip] at hparked
          exact absurd hparked (by simp)
      · have hslip := congrArg Slip.ready h.slip
        rw [Env.slip, hprompt.1] at hslip
        cases hslip
      · exact hon rfl rfl rfl

/-! ## After a send began -/

variable {b : Sending} {said : List (Nat × Event)}

/-- A job of the send is done, and what happens meanwhile is heard. -/
theorem lives_next (hnext : w.next? = some (job, u)) (hjob : job.call? = some b.number)
    (hthere : b.number < u.env.calls.length) (halike : Links.Alike b.attached b.links u.env.links)
    (hahead : b.Ahead u.env (u.env.serve (u.callLinks b.number) job) said) :
    b.Lives (w.move site .next).env (said ++ w.heard b.number .next) := by
  obtain ⟨stage, back, events, htrace, hunderway⟩ := hahead
  have hown := u.env.leaves_serve (u.callLinks b.number) hjob
  rw [move, heard, hnext]
  dsimp only
  rw [if_pos hjob, htrace, List.drop_left, u.perform_call site hjob]
  have hserved : b.Lives (u.env.serve (u.callLinks b.number) job)
      (said ++ stamp u.env.clock events) := by
    refine ⟨Nat.lt_of_lt_of_le hthere hown.grows, fun id hid => ?_, stage, back, ?_⟩
    · rw [hown.answers, halike id hid]
    · rw [hown.clock]
      exact hunderway
  have hswept := leaves_sweep { u with env := u.env.serve (u.callLinks b.number) job }
  exact hserved.avoids hswept.toAvoids (Option.some_ne_none _).symm

/-- A send begins over the links of its device, whatever these are by now. -/
theorem lives_begin {d : Device} (h : w.env.Asked c call) (hnext : w.next? = some (.begin c, u))
    (hd : w.device? call.device = some d) (hsane : w.env.links.Sane d.links) :
    Sending.Lives ⟨c, call, w.env.clock, d.links, w.env.links⟩ (w.move site .next).env
      (w.heard c .next) := by
  obtain ⟨henv, hu⟩ := next_eq hnext
  have havoids := Env.avoids_next henv
  obtain ⟨rest, -, hrest⟩ := Env.next_eq henv
  have hlinks : u.env.links = w.env.links := by rw [hrest]
  -- the job that begins the send is taken, and there is no other
  have hslip : u.env.slip c = ⟨some call, [], [], call.alarms c u.env.clock⟩ := by
    have hbefore := (Env.slip_next henv c).symm.trans h.slip
    rw [if_pos (show (Job.begin c).call? = some c from rfl)] at hbefore
    obtain ⟨hcall, hparked, hready, halarms⟩ := Slip.mk.inj hbefore
    rw [havoids.clock, ← halarms, ← hcall, ← (List.cons.inj hready).2, ← hparked]
    rfl
  have hthere : c < u.env.calls.length :=
    (List.getElem?_eq_some_iff.mp (congrArg Slip.call hslip)).1
  have hattached : u.callLinks c = d.links := by
    have hcall : u.env.calls[c]? = some call := congrArg Slip.call hslip
    have hdevice : u.device? call.device = some d := by
      rw [hu]
      exact hd
    rw [callLinks, hcall, Option.bind_some, hdevice]
    rfl
  have hahead := Sending.ahead_begin (b := ⟨c, call, w.env.clock, d.links, w.env.links⟩)
    havoids.clock.symm hlinks.symm hsane (havoids.clock ▸ h.waits) hslip
  have halike : Links.Alike d.links w.env.links u.env.links := fun _ _ => by rw [hlinks]
  rw [← hattached] at hahead halike ⊢
  exact lives_next hnext rfl hthere halike hahead

/-- A move leaves some links to behave as they do. -/
def Move.Keeps (ids : LinkSet) : Move → Prop
  | .turn link _ => link ∉ ids
  | _ => True

/-- No move ends what is under way: it carries the send on, or leaves it alone. -/
theorem lives_move (h : b.Lives w.env said) (hsane : b.links.Sane b.attached) (hm : m.Own)
    (hprompt : m.Prompt w) (hkeeps : m.Keeps b.attached) :
    b.Lives (w.move site m).env (said ++ w.heard b.number m) := by
  obtain ⟨stage, back, hunderway⟩ := h.underway
  rcases w.move_cases site b.number hm with ⟨own, hown, havoids, hsilent⟩ |
    ⟨job, u, rfl, hnext, hjob⟩ | ⟨link, rfl⟩ | ⟨time, rfl⟩ | ⟨link, conduct, rfl⟩
  · rw [hsilent, List.append_nil]
    exact h.avoids havoids hown
  · have hslip := Env.slip_next (next_eq hnext).1 b.number
    have havoids := Env.avoids_next (next_eq hnext).1
    rw [if_pos hjob] at hslip
    have halike : Links.Alike b.attached b.links u.env.links :=
      fun id hid => by rw [havoids.answers, h.alike id hid]
    have hthere := Nat.lt_of_lt_of_le h.there havoids.grows
    rw [← havoids.clock] at hunderway
    exact lives_next hnext hjob hthere halike (hunderway.serve hsane halike hslip _)
  · obtain ⟨hcalls, hclock, hanswers⟩ := w.env.permit_eq link
    obtain ⟨stage, hpermitted⟩ := hunderway.permit link
    rw [show w.heard b.number (.permit link) = [] from rfl, List.append_nil]
    refine ⟨hcalls ▸ h.there, fun id hid => (hanswers id).trans (h.alike id hid), stage, back, ?_⟩
    show b.Underway stage back _ (w.env.permit link).clock said
    rw [hclock]
    exact hpermitted
  · obtain ⟨hready, hnow, halarms⟩ := hprompt
    rw [show w.heard b.number (.moveTo time) = [] from rfl, List.append_nil]
    exact ⟨h.there, h.alike, stage, back, hunderway.moveTo hready hnow halarms⟩
  · rw [show w.heard b.number (.turn link conduct) = [] from rfl, List.append_nil]
    refine ⟨h.there, fun id hid => ?_, stage, back, hunderway⟩
    have hother : id ≠ link := fun heq => hkeeps (heq ▸ hid)
    have hsame := w.env.links.link_change_other hother fun l => { l with conduct }
    exact (congrArg Link.answer hsame).trans (h.alike id hid)

theorem lives_run (h : b.Lives w.env said) (hsane : b.links.Sane b.attached) {moves : List Move}
    (hmoves : ∀ m ∈ moves, m.Own) (htimely : w.Timely site moves)
    (hkeeps : ∀ m ∈ moves, m.Keeps b.attached) :
    b.Lives (w.run site moves).env (said ++ w.hears site b.number moves) := by
  induction moves generalizing w said with
  | nil => rwa [hears, List.append_nil]
  | cons m rest ih =>
      obtain ⟨hm, hrest⟩ := List.forall_mem_cons.mp hmoves
      obtain ⟨hkeep, hkeeps⟩ := List.forall_mem_cons.mp hkeeps
      rw [hears, ← List.append_assoc]
      exact ih (lives_move h hsane hm htimely.1 hkeep) hrest htimely.2 hkeeps

/-- A send that begins is under way ever after. -/
theorem lives_on {d : Device} {pre post : List Move} (h : w.Starts site c call pre d)
    (hsane : (w.run site pre).env.links.Sane d.links)
    (hlater : ∀ m ∈ pre ++ .next :: post, m.Own) (htimely : w.Timely site (pre ++ .next :: post))
    (hkeeps : ∀ m ∈ post, m.Keeps d.links) :
    Sending.Lives ⟨c, call, w.env.clock, d.links, (w.run site pre).env.links⟩
      (w.run site (pre ++ .next :: post)).env (w.hears site c (pre ++ .next :: post)) := by
  obtain ⟨-, hpost⟩ := List.forall_mem_cons.mp (List.forall_mem_append.mp hlater).2
  obtain ⟨-, -, htimely⟩ := (timely_append site w pre _).mp htimely
  obtain ⟨u, hnext⟩ := h.next
  rw [run_append, hears_append, h.silent, List.nil_append, hears, ← h.clock]
  exact lives_run (lives_begin h.asked hnext h.device hsane) hsane hpost htimely hkeeps

/-! ## All of a send -/

/-- When there is nothing left to do, a send whose delivery is parked is pending, and any other is
concluded. -/
theorem lives_settled (h : b.Lives w.env said) (hrests : w.Rests b.number) :
    (∃ waiting, (.call b.number, waiting) ∈ w.env.parked) ∧ b.Pending w.env.clock said ∨
      (∀ p ∈ w.env.parked, p.1 ≠ .call b.number) ∧
        ∃ time, b.start ≤ time ∧ time ≤ w.env.clock ∧ b.Concluded time said := by
  obtain ⟨stage, back, hunderway⟩ := h.underway
  have hnothing := rests_iff.mp hrests
  have hstrand := hunderway.carried.strand
  have hgate := hunderway.carried.gate
  rw [hnothing] at hstrand
  cases stage with
  | fresh | permitted waiting => cases hstrand
  | parked waiting =>
      have hmem : (.call b.number, waiting) ∈ (w.env.slip b.number).parked := by
        rw [hgate]
        exact List.mem_singleton_self _
      exact .inl ⟨⟨waiting, List.mem_of_mem_filter hmem⟩, hunderway.pending hnothing⟩
  | ended time =>
      refine .inr ⟨fun p hp heq => ?_, time, hunderway.concluded hnothing⟩
      have hmem : p ∈ (w.env.slip b.number).parked :=
        List.mem_filter.mpr ⟨hp, by simp [heq, Runner.call?]⟩
      rw [hgate] at hmem
      cases hmem

/-- Whatever happened before a device is asked for a blocking send, and whatever happens then, as
long as no time passes while there is something to do: if jobs are done, there is nothing left to do
for the send after a while. When it is so, the send has begun, over the links that the device had in
that moment. Links may be attached and detached afterwards, and only those count, provided that none
of them crashes or begins to behave in another way.

As long as the delivery waits at one of them for a permit, nobody has had the last word. A caller
without a payload has not come back, and one with a payload comes back at its deadline, with nothing
to show. If the delivery does not wait any more, it has lasted for some time. All that was said of
the packet is the story of failover over those links, and the last word is the verdict, spoken once,
when the delivery was over. A caller without a payload came back just then, after the last word,
with whether this was a good one. A caller with a payload came back just then with the same if that
was before its deadline, and at its deadline, with nothing to show, if that was later. If both came
at the same time, either may have been first. -/
theorem told_truthfully (site : Site) (h : w.Vacant) (hidle : w.Idle) {earlier later : List Move}
    (hearlier : ∀ m ∈ earlier, m.Own) (hlater : ∀ m ∈ later, m.Own) {ref : Nat}
    (hd : ((w.run site earlier).device? ref).isSome = true) (name : String) (p : Packet)
    (callback : Callback) (sameThread : Bool) :
    let before := w.run site earlier
    let c := before.env.calls.length
    let start := before.env.clock
    let asked := before.move site (.visit ref (.sendBlocking name p callback sameThread))
    let now := asked.run site later
    let loaded := ∃ size, p.payloadSize = some size ∧ size ≠ 0
    let wait := site.payloadWait
    asked.Timely site later →
    (∃ n, (now.run site (.replicate n .next)).Rests c) ∧
    (now.Rests c →
      ∃ pre post d, later = pre ++ .next :: post ∧
        (asked.run site pre).env.ready.head? = some (.begin c) ∧
        (asked.run site pre).device? ref = some d ∧
        let links := (asked.run site pre).env.links
        let delivery : Delivery := ⟨p, callback, sameThread, d.links⟩
        let result := delivery.arrives links
        let said := asked.hears site c later
        links.Sane d.links → (∀ m ∈ post, m.Keeps d.links) →
          (∃ waiting, (.call c, waiting) ∈ now.env.parked) ∧ lastWords said = [] ∧
            (¬loaded → returns said = []) ∧
            (loaded → returns said =
              if start + wait ≤ now.env.clock then
                stamp (start + wait) [.returned name (some false)]
              else []) ∨
          (∀ q ∈ now.env.parked, q.1 ≠ .call c) ∧ ∃ lasts, start + lasts ≤ now.env.clock ∧
            (told said).map Prod.snd = delivery.story links ∧
            lastWords said = stamp (start + lasts) (callback.tell (delivery.verdict links)) ∧
            (¬loaded →
              returns said = stamp (start + lasts) [.returned name (some result)] ∧
              said.getLast? = some (start + lasts, .returned name (some result))) ∧
            (loaded →
              lasts ≤ wait ∧
                returns said = stamp (start + lasts) [.returned name (some result)] ∨
              wait ≤ lasts ∧
                returns said = stamp (start + wait) [.returned name (some false)])) := by
  intro before c start asked now loaded wait htimely
  obtain ⟨d₀, hd⟩ := Option.isSome_iff_exists.mp hd
  obtain ⟨hwired, hthere, hclock, hasked⟩ := asked_visit site (h.wired.run site hearlier)
    (hidle.numbered.run hearlier) hd name p callback sameThread
  have hgiven : c < asked.env.calls.length :=
    (List.getElem?_eq_some_iff.mp (congrArg Slip.call hasked.slip)).1
  refine ⟨comes_to_rest site (Nat.lt_of_lt_of_le hgiven (asked.grows_run site hlater)),
    fun hrests => ?_⟩
  have href : ((⟨d₀, before.env⟩ : Scene).request site name p callback sameThread).device = ref :=
    ref_of_device? hd
  obtain ⟨pre, post, d, rfl, hstarts⟩ :=
    exists_starts hasked hwired (href ▸ hthere) hlater htimely hrests
  obtain ⟨u, hnext⟩ := hstarts.next
  obtain ⟨rest, hfirst, -⟩ := Env.next_eq (next_eq hnext).1
  refine ⟨pre, post, d, rfl, by rw [hfirst]; rfl, href ▸ hstarts.device, ?_⟩
  intro links delivery result said hsane hkeeps
  have hlives := lives_on hstarts hsane hlater htimely hkeeps
  rw [hclock] at hlives
  have hinPlace : ¬loaded → (if p.hasPayload then some (start + wait) else none) = none :=
    fun hnone => if_neg fun hsome => hnone (p.hasPayload_iff.mp hsome)
  have hapart : loaded → (if p.hasPayload then some (start + wait) else none) =
      some (start + wait) :=
    fun hsome => if_pos (p.hasPayload_iff.mpr hsome)
  rcases lives_settled hlives hrests with ⟨hparked, hsilence, hreturns⟩ |
    ⟨hfree, time, hstart, htime, hstory, hwords, hplace, hdue⟩
  · dsimp only [Scene.request] at hreturns
    refine .inl ⟨hparked, hsilence, fun hnone => ?_, fun hsome => ?_⟩
    · rw [hreturns, hinPlace hnone]
    · rw [hreturns, hapart hsome]
  · obtain ⟨lasts, rfl⟩ := Nat.exists_eq_add_of_le hstart
    refine .inr ⟨hfree, lasts, htime, hstory, hwords, fun hnone => hplace (hinPlace hnone),
      fun hsome => ?_⟩
    have hback := hdue _ (hapart hsome)
    rwa [Nat.add_le_add_iff_left, Nat.add_le_add_iff_left] at hback

/-- A stream is sent over a gated link. The caller is back at the deadline, while the stream waits
for a permit; the link is detached and another one attached; then there is a permit, and the stream
arrives over the first link all the same. -/
theorem told_truthfully_past_deadline :
    let peer : PeerIdentity := { id := "peer" }
    let links : Links := [("bt", { name := "BT" }), ("lan", { name := "LAN", gated := true })]
    let w : World := { env := { links } }
    let stream : Packet := { Packet.make 7 "kdeconnect.share.request" .null with
      payloadSize := some (-1) }
    let earlier : List Move := [.meet peer, .visit 0 (.attach peer "lan"), .next]
    let asked := (w.run {} earlier).move {}
      (.visit 0 (.sendBlocking "file" stream (.named "user" false) true))
    let later : List Move :=
      [.next, .next, .moveTo 10000, .next, .visit 0 (.detach "lan"), .visit 0 (.attach peer "bt"),
        .next, .moveTo 25000, .permit "lan", .next, .next]
    let said := asked.hears {} 0 later
    w.Vacant ∧ w.Idle ∧ (∀ m ∈ earlier, m.Own) ∧ (∀ m ∈ later, m.Own) ∧
      ((w.run {} earlier).device? 0).isSome = true ∧ asked.Timely {} later ∧
      (asked.run {} later).Rests 0 ∧
      ∃ lasts, 10000 ≤ lasts ∧ lasts ≤ 25000 ∧
        lastWords said = [(lasts, .told "user" .success)] ∧
        returns said = [(10000, .returned "file" (some false))] := by
  intro peer links w stream earlier asked later said
  have hvacant : w.Vacant := vacant_of_unknown rfl (by decide)
  have hidle : w.Idle := ⟨rfl, rfl, rfl⟩
  have hearlier : ∀ m ∈ earlier, m.Own := by simp [earlier, Move.Own, Op.Own]
  have hlater : ∀ m ∈ later, m.Own := by simp [later, Move.Own, Op.Own]
  have hthere : ((w.run {} earlier).device? 0).isSome = true := by decide +kernel
  have htimely : asked.Timely {} later := by decide +kernel
  have hrests : (asked.run {} later).Rests 0 := by decide +kernel
  have hfirst : (w.run {} earlier).env.calls.length = 0 := by decide +kernel
  refine ⟨hvacant, hidle, hearlier, hlater, hthere, htimely, hrests, ?_⟩
  obtain ⟨-, hall⟩ := told_truthfully {} hvacant hidle hearlier hlater hthere "file" stream
    (.named "user" false) true htimely
  have hasked : (w.run {} earlier).move {}
      (.visit 0 (.sendBlocking "file" stream (.named "user" false) true)) = asked := rfl
  rw [hfirst, hasked] at hall
  obtain ⟨pre, post, d, hsplit, hbegin, hd, htruth⟩ := hall hrests
  -- only the first job begins a send
  have honly : ∀ k < later.length,
      (asked.run {} (later.take k)).env.ready.head? = some (.begin 0) → k = 0 := by
    decide +kernel
  have hlength : pre.length < later.length := by simp [hsplit]
  have hpre : later.take pre.length = pre := by rw [hsplit, List.take_left]
  obtain rfl : pre = [] :=
    List.eq_nil_of_length_eq_zero (honly _ hlength (by rw [hpre]; exact hbegin))
  obtain ⟨-, rfl⟩ := List.cons.inj hsplit
  have hattached : ((asked.run {} []).device? 0).map Device.links = some ["lan"] := by
    decide +kernel
  rw [hd] at hattached
  rw [show d.links = ["lan"] from Option.some.inj hattached] at htruth
  have hsane : (asked.run {} []).env.links.Sane ["lan"] := by
    unfold Links.Sane
    decide +kernel
  have hverdict : Delivery.verdict ⟨stream, .named "user" false, true, ["lan"]⟩
      (asked.run {} []).env.links = .success := by decide +kernel
  have harrives : Delivery.arrives ⟨stream, .named "user" false, true, ["lan"]⟩
      (asked.run {} []).env.links = true := decide_eq_true hverdict
  have hparked : ¬∃ waiting, (.call 0, waiting) ∈ (asked.run {} later).env.parked := by
    rw [show (asked.run {} later).env.parked = [] by decide +kernel]
    rintro ⟨_, hwaits⟩
    exact List.not_mem_nil hwaits
  have hreturns : returns (asked.hears {} 0 later) = [(10000, .returned "file" (some false))] := by
    decide +kernel
  have hstart : (w.run {} earlier).env.clock = 0 := by decide +kernel
  have hnow : (asked.run {} later).env.clock = 25000 := by decide +kernel
  have hloaded : ∃ size : Int, stream.payloadSize = some size ∧ size ≠ 0 := ⟨-1, rfl, by decide⟩
  rcases htruth hsane (by simp [Move.Keeps]) with ⟨hwaits, -⟩ |
    ⟨-, lasts, hlasts, -, hwords, -, hback⟩
  · exact absurd hwaits hparked
  · rw [hstart, Nat.zero_add] at hlasts hwords hback
    rw [hverdict] at hwords
    rcases hback hloaded with ⟨-, hearly⟩ | ⟨hlate, -⟩
    · rw [hreturns, harrives] at hearly
      simp [stamp] at hearly
    · exact ⟨lasts, hlate, hnow ▸ hlasts, hwords, hreturns⟩

end World

end Tether
