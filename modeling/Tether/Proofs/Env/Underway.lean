import Tether.Proofs.Env.Sending
import Tether.Proofs.Env.Serving

/-!
# A blocking send under way

A send that began is under way: there are its delivery and its caller, and what was said of it tells
how far both have come (`Sending.Underway`). It stays so with each job that is done for it, with
each permit, and with time, if no time passes while there is something to do and no alarm is passed
over.
When there is nothing left to do, the delivery is at a gate (`Sending.Pending`) or was over at some
time (`Sending.Concluded`), and what the caller has come back with follows from that.
-/

namespace Tether

/-- A send that nobody came back from, and that began in time. -/
structure Call.Waits (call : Call) (now : Nat) : Prop where
  isOpen : call.isOpen = true
  outcome : call.outcome = none
  deadline : ∀ due, call.deadline = some due → now ≤ due

theorem Call.Waits.self_eq {call : Call} {now : Nat} (h : call.Waits now) :
    call = { call with outcome := none, isOpen := true } := by
  obtain ⟨hopen, houtcome, -⟩ := h
  cases call
  cases hopen
  cases houtcome
  rfl

/-- The alarms that a send needs. -/
def Call.alarms (call : Call) (c now : Nat) : List Alarm :=
  match call.deadline with
  | none => []
  | some due => if now < due then [⟨due, .wake c⟩] else []

namespace Sending

/-- A blocking send under way: its delivery, its caller, and what was said of it. -/
structure Underway (b : Sending) (stage : Stage) (back : Option (Nat × Bool)) (slip : Slip)
    (now : Nat) (said : List (Nat × Event)) : Prop where
  begun : b.start ≤ now
  carried : b.Carried stage slip now said
  awaited : b.Awaited stage.ended? back slip now said
  returns : returns said = back.toList.map fun p => (p.1, .returned b.call.name (some p.2))

variable {b : Sending} {stage : Stage} {back : Option (Nat × Bool)} {slip : Slip}
  {now due : Nat} {said : List (Nat × Event)} {e f : Env}

/-- The send is under way after a job of it, with what was said meanwhile. -/
def Ahead (b : Sending) (e f : Env) (said : List (Nat × Event)) : Prop :=
  ∃ stage back events, f.trace = e.trace ++ events ∧
    b.Underway stage back (f.slip b.number) e.clock (said ++ stamp e.clock events)

/-! ## Jobs that carry a delivery on -/

/-- A delivery comes to its next stop. If it is over, the caller comes back at once or is woken. -/
theorem ahead_proceed (hbegun : b.start ≤ e.clock) (hgate : (e.slip b.number).parked = [])
    (hstrand : (e.slip b.number).ready.filter (· ≠ .wake b.number) = [])
    (hawaited : b.Awaited none back (e.slip b.number) e.clock said)
    (hreturns : returns said = back.toList.map fun p => (p.1, .returned b.call.name (some p.2)))
    {run : Links → Delivery.Course} (hcomes : b.Comes e.clock (told said) (run e.links))
    {call : Call} (hcall : e.calls[b.number]? = some call) :
    b.Ahead e (e.proceed b.number call run) said := by
  have htold := told_course said e.clock hcomes.reserved
  have hsame := returns_course said e.clock hcomes.reserved
  rcases hcomes.stop with ⟨w, hw, htells⟩ | ⟨hended, htells⟩
  · obtain ⟨hslip, htrace⟩ := Env.proceed_waiting (c := b.number) call hw
    refine ⟨.parked w, back, _, htrace, ?_⟩
    rw [hslip]
    exact ⟨hbegun, ⟨Stage.noConfusion, by rw [hgate]; rfl, hstrand, htold ▸ htells⟩,
      hawaited.of_slip rfl rfl Iff.rfl, hsame.trans hreturns⟩
  · cases hdeadline : b.call.deadline with
    | none =>
        rw [awaited_inPlace hdeadline] at hawaited
        obtain rfl : back = none := hawaited.back
        obtain rfl : _ = call := Option.some.inj (hawaited.call.symm.trans hcall)
        obtain ⟨hslip, htrace⟩ := Env.proceed_inPlace hcall hended rfl hdeadline
        refine ⟨.ended e.clock, some (e.clock, b.delivered), _, htrace, ?_⟩
        rw [hslip, stamp, List.map_append, ← stamp, ← stamp, ← List.append_assoc]
        refine ⟨hbegun, ⟨Stage.noConfusion, hgate, hstrand, ?_⟩,
          (awaited_inPlace hdeadline).mpr (hawaited.over _ _), ?_⟩
        · rw [told_return, htold]
          exact htells
        · rw [returns_return, hsame, hreturns]
          rfl
    | some due =>
        rw [awaited_apart hdeadline] at hawaited
        obtain rfl : _ = call := Option.some.inj (hawaited.call.symm.trans hcall)
        obtain ⟨hslip, htrace⟩ := Env.proceed_apart hcall hended hdeadline
        refine ⟨.ended e.clock, back, _, htrace, ?_⟩
        rw [hslip]
        refine ⟨hbegun, ⟨Stage.noConfusion, hgate, ?_, htold ▸ htells⟩,
          (awaited_apart hdeadline).mpr hawaited.over, hsame.trans hreturns⟩
        rw [List.filter_append, hstrand]
        simp [Stage.strand]

/-! ## The start -/

section Start

variable (hbegun : b.start ≤ e.clock) (hcall : b.call.Waits e.clock)
include hbegun hcall

/-- Without a deadline the delivery starts at once. -/
theorem ahead_begin_inPlace (hnone : b.call.deadline = none)
    (hslip : e.slip b.number = ⟨some b.call, [], [], []⟩) (hlinks : b.links = e.links)
    (hsane : b.links.Sane b.attached) : b.Ahead e (e.begin b.number b.attached) [] := by
  have hthere : e.calls[b.number]? = some b.call := congrArg Slip.call hslip
  have hfresh : b.Tells e.clock (told []) .fresh := rfl
  have halike : Links.Alike b.attached b.links e.links := fun _ _ => by rw [hlinks]
  have hawaited : b.Awaited none none (e.slip b.number) e.clock [] := by
    rw [hslip, awaited_inPlace hnone]
    exact ⟨congrArg some hcall.self_eq, rfl, List.not_mem_nil, rfl, nofun⟩
  have hcomes := hfresh.comes hsane hbegun halike .start
  rw [Env.begin_inPlace hthere hnone]
  refine ahead_proceed hbegun ?_ ?_ hawaited rfl hcomes hthere
  · rw [hslip]
  · rw [hslip]
    rfl

/-- With a deadline the delivery is only set, and the caller waits if there is time. -/
theorem ahead_begin_apart (hdue : b.call.deadline = some due)
    (hslip : e.slip b.number =
      ⟨some b.call, [], [], if e.clock < due then [⟨due, .wake b.number⟩] else []⟩) :
    b.Ahead e (e.begin b.number b.attached) [] := by
  have hthere : e.calls[b.number]? = some b.call := congrArg Slip.call hslip
  have hcarried : ∀ {slip said}, slip.parked = [] → slip.ready = [.transfer b.number] →
      told said = [] → b.Carried .fresh slip e.clock said := by
    intro slip said hparked hready htold
    refine ⟨fun _ => hdue ▸ nofun, hparked, ?_, htold⟩
    rw [hready]
    simp [Stage.strand]
  by_cases hearly : e.clock < due
  · rw [if_pos hearly] at hslip
    obtain ⟨hset, htrace⟩ := Env.begin_early hthere hdue hearly b.attached
    refine ⟨.fresh, none, [], htrace, ?_⟩
    rw [hset, hslip]
    refine ⟨hbegun, hcarried rfl rfl rfl, (awaited_apart hdue).mpr ?_, rfl⟩
    exact ⟨congrArg (fun call => some { call with links := b.attached }) hcall.self_eq,
      List.forall_mem_singleton.mpr rfl, fun _ => ⟨.inl ⟨nofun, hearly⟩, nofun⟩, nofun⟩
  · rw [if_neg hearly] at hslip
    have hlate := Nat.not_lt.mp hearly
    have hnow : e.clock = due := Nat.le_antisymm (hcall.deadline due hdue) hlate
    obtain ⟨hset, htrace⟩ := Env.begin_late hthere hcall.isOpen hdue hlate b.attached
    refine ⟨.fresh, some (due, false), _, htrace, ?_⟩
    rw [hset, hslip]
    refine ⟨hbegun, hcarried rfl rfl (told_return [] _ _ _), (awaited_apart hdue).mpr ?_, ?_⟩
    · have hback := congrArg
        (fun call => some { call with links := b.attached, isOpen := false }) hcall.self_eq
      refine ⟨hback, List.forall_mem_nil _, nofun, fun time result hback => ?_⟩
      cases hback
      exact .inl ⟨rfl, rfl, hlate, nofun⟩
    · rw [returns_return, hnow]
      rfl

end Start

/-- A send that begins is under way. -/
theorem ahead_begin (hstart : b.start = e.clock) (hlinks : b.links = e.links)
    (hsane : b.links.Sane b.attached) (hcall : b.call.Waits e.clock)
    (hslip : e.slip b.number = ⟨some b.call, [], [], b.call.alarms b.number e.clock⟩) :
    b.Ahead e (e.begin b.number b.attached) [] := by
  have hbegun : b.start ≤ e.clock := Nat.le_of_eq hstart
  rw [Call.alarms] at hslip
  split at hslip
  · next hnone => exact ahead_begin_inPlace hbegun hcall hnone hslip hlinks hsane
  · next due hdue => exact ahead_begin_apart hbegun hcall hdue hslip

/-! ## Jobs that wake a caller -/

/-- A job may do nothing. -/
theorem Underway.ahead (h : b.Underway stage back (e.slip b.number) e.clock said) :
    b.Ahead e e said := by
  refine ⟨stage, back, [], (List.append_nil _).symm, ?_⟩
  rwa [show said ++ stamp e.clock [] = said from List.append_nil said]

/-- A caller comes back if there is a reason. -/
theorem ahead_giveBack (hbegun : b.start ≤ e.clock)
    (hcarried : b.Carried stage (e.slip b.number) e.clock said)
    (hdue : b.call.deadline = some due)
    (hcall : (e.slip b.number).call = some { b.call with
      links := b.attached, outcome := stage.ended?.map fun _ => b.delivered, isOpen := true })
    (halarms : ∀ a ∈ (e.slip b.number).alarms, a = ⟨due, .wake b.number⟩)
    (hreturns : returns said = []) {result : Bool}
    (hfirst : b.First due stage.ended? e.clock e.clock result) :
    b.Ahead e (e.giveBack b.number (some result)) said := by
  obtain ⟨hslip, htrace⟩ := Env.giveBack_open hcall rfl (some result)
  refine ⟨stage, some (e.clock, result), _, htrace, ?_⟩
  rw [hslip]
  refine ⟨hbegun, ⟨hcarried.apart, hcarried.gate, hcarried.strand, ?_⟩,
    (awaited_apart hdue).mpr ?_, ?_⟩
  · rw [told_return]
    exact hcarried.tells
  · refine ⟨rfl, halarms, nofun, fun time result' heq => ?_⟩
    cases heq
    exact hfirst
  · rw [returns_return, hreturns]
    rfl

/-- A caller that is woken comes back if the delivery is over or the deadline has come. -/
theorem Underway.wake (h : b.Underway stage back slip e.clock said)
    (hslip : slip = { e.slip b.number with ready := .wake b.number :: (e.slip b.number).ready }) :
    b.Ahead e (e.wake b.number) said := by
  subst hslip
  obtain ⟨hbegun, ⟨hfresh, hgate, hstrand, htells⟩, hawaited, hreturns⟩ := h
  have hcarried : b.Carried stage (e.slip b.number) e.clock said :=
    ⟨hfresh, hgate, by simpa using hstrand, htells⟩
  cases hdeadline : b.call.deadline with
  | none =>
      rw [awaited_inPlace hdeadline] at hawaited
      exact absurd List.mem_cons_self hawaited.unwoken
  | some due =>
      rw [awaited_apart hdeadline] at hawaited
      obtain ⟨hcall, halarms, hwaits, hcame⟩ := hawaited
      have hvain : (back = none → (e.slip b.number).alarms ≠ [] ∧ e.clock < due ∧
          stage.ended? = none) → b.Ahead e e said := by
        intro hasleep
        refine Underway.ahead ⟨hbegun, hcarried, (awaited_apart hdeadline).mpr ?_, hreturns⟩
        refine ⟨hcall, halarms, fun hback => ?_, hcame⟩
        obtain ⟨hleft, hearly, hnot⟩ := hasleep hback
        exact ⟨.inl ⟨hleft, hearly⟩, hnot ▸ nofun⟩
      cases back with
      | some p =>
          rw [Env.wake_closed hcall rfl]
          exact hvain nofun
      | none =>
          obtain ⟨hdue, hended⟩ := hwaits rfl
          cases htime : stage.ended? with
          | some time =>
              obtain ⟨-, rfl⟩ := hended time htime
              rw [Env.wake_over hcall (by rw [htime]; rfl)]
              refine ahead_giveBack hbegun hcarried hdeadline hcall halarms hreturns ?_
              have hearly : e.clock ≤ due :=
                hdue.elim (fun h => Nat.le_of_lt h.2) fun h => Nat.le_of_eq h.2
              exact .inr ⟨htime, rfl, hearly⟩
          | none =>
              have hnot : stage.ended?.map (fun _ => b.delivered) = none := by rw [htime]; rfl
              rcases hdue with ⟨hleft, hearly⟩ | ⟨-, hlate⟩
              · rw [Env.wake_early hcall hnot hdeadline hearly]
                exact hvain fun _ => ⟨hleft, hearly, htime⟩
              · rw [Env.wake_due hcall hnot hdeadline (Nat.le_of_eq hlate.symm)]
                refine ahead_giveBack hbegun hcarried hdeadline hcall halarms hreturns ?_
                exact .inl ⟨hlate, rfl, Nat.le_of_eq hlate.symm, htime ▸ nofun⟩

/-! ## All jobs, permits and time -/

/-- A send stays under way with each job that is done for it. -/
theorem Underway.serve (h : b.Underway stage back slip e.clock said)
    (hsane : b.links.Sane b.attached) (halike : Links.Alike b.attached b.links e.links) {job : Job}
    (hslip : slip = { e.slip b.number with ready := job :: (e.slip b.number).ready })
    (links : LinkSet) : b.Ahead e (e.serve links job) said := by
  by_cases hwake : job = .wake b.number
  · subst hwake
    exact h.wake hslip
  · subst hslip
    obtain ⟨hbegun, ⟨hfresh, hgate, hstrand, htells⟩, hawaited, hreturns⟩ := h
    dsimp only at hgate hstrand
    rw [List.filter_cons_of_pos (by simpa using hwake)] at hstrand
    obtain ⟨call, hcall, hdelivery⟩ := hawaited.exists_call
    -- the job is the one that carries the delivery on, and there is no other
    have hcarry : ∀ {run}, b.Onward stage run → stage.gate b.number = [] → stage.ended? = none →
        (e.slip b.number).ready.filter (· ≠ .wake b.number) = [] →
        b.Ahead e (e.proceed b.number call run) said := by
      intro run hrun hparked hended hrest
      rw [hended] at hawaited
      refine ahead_proceed hbegun (hgate.trans hparked) hrest (hawaited.of_slip rfl rfl ?_) hreturns
        (htells.comes hsane hbegun halike hrun) hcall
      simp [Ne.symm hwake]
    cases stage with
    | fresh =>
        obtain ⟨rfl, hrest⟩ := List.cons.inj hstrand
        rw [Env.serve, Env.transfer_eq hcall, hdelivery (hfresh rfl)]
        exact hcarry .start rfl rfl hrest
    | permitted w =>
        obtain ⟨rfl, hrest⟩ := List.cons.inj hstrand
        rw [Env.serve, Env.resumeCall_eq hcall]
        exact hcarry (.pass w) rfl rfl hrest
    | parked w => cases hstrand
    | ended time => cases hstrand

/-- A permit lets the delivery go on if it is parked, and is no concern of the caller. -/
theorem Underway.permit (h : b.Underway stage back (e.slip b.number) now said) (id : String) :
    ∃ stage, b.Underway stage back ((e.permit id).slip b.number) now said := by
  rcases e.slip_permit id b.number with hsame | ⟨pre, runner, w, post, hparked, hslip⟩
  · rw [hsame]
    exact ⟨stage, h⟩
  · obtain ⟨hbegun, ⟨hfresh, hgate, hstrand, htells⟩, hawaited, hreturns⟩ := h
    rw [hgate] at hparked
    cases stage with
    | parked w' =>
        cases pre with
        | cons p rest => exact absurd (List.cons.inj hparked).2 (by simp)
        | nil =>
            cases hparked
            rw [hslip]
            refine ⟨.permitted w, hbegun, ⟨nofun, rfl, ?_, htells⟩, hawaited.of_slip rfl rfl ?_,
              hreturns⟩
            · rw [List.filter_append, hstrand]
              simp [Stage.strand]
            · simp
    | fresh | permitted w' | ended time => simp [Stage.gate] at hparked

/-- Time does not carry the delivery on. -/
theorem Underway.moveTo (h : b.Underway stage back (e.slip b.number) e.clock said) {time : Nat}
    (hready : e.ready = []) (hnow : e.clock ≤ time) (halarms : ∀ a ∈ e.alarms, time ≤ a.due) :
    b.Underway stage back ((e.moveTo time).slip b.number) time said := by
  obtain ⟨hbegun, ⟨hfresh, hgate, hstrand, htells⟩, hawaited, hreturns⟩ := h
  have hnothing : (e.slip b.number).ready = [] := by rw [Env.slip, hready]; rfl
  have hown : ∀ a ∈ (e.slip b.number).alarms, time ≤ a.due :=
    fun a ha => halarms a (List.mem_of_mem_filter ha)
  have hwakes : (((e.slip b.number).alarms.filter (·.due ≤ time)).map Alarm.job).filter
      (· ≠ .wake b.number) = [] := by
    refine List.filter_eq_nil_iff.mpr fun job hjob => ?_
    obtain ⟨a, ha, rfl⟩ := List.mem_map.mp hjob
    simpa using hawaited.wakes a (List.mem_of_mem_filter ha)
  rw [Env.slip_moveTo]
  refine ⟨hbegun.trans hnow, ⟨hfresh, hgate, ?_, htells.later hnow⟩, ?_, hreturns⟩
  · rw [Slip.moveTo, List.filter_append, hstrand, hwakes, List.append_nil]
  · cases hdeadline : b.call.deadline with
    | none =>
        rw [awaited_inPlace hdeadline] at hawaited ⊢
        exact hawaited.moveTo time
    | some due =>
        rw [awaited_apart hdeadline] at hawaited ⊢
        exact hawaited.moveTo hnothing hnow hown

/-! ## In the end -/

/-- A send whose delivery still waits at a gate: nobody has had the last word, and the caller has
come back just if its deadline is there, with nothing to show, at the deadline. -/
structure Pending (b : Sending) (now : Nat) (said : List (Nat × Event)) : Prop where
  lastWords : lastWords said = []
  returns : returns said =
    match b.call.deadline with
    | none => []
    | some due => if due ≤ now then stamp due [.returned b.call.name (some false)] else []

/-- A send whose delivery is over at a time. All that happened to the packet is its story, and the
last word came at that time. A caller without a deadline came back then and after that; a caller
with a deadline came back then if the deadline is later, and at the deadline, with nothing to show,
if it is earlier. -/
structure Concluded (b : Sending) (time : Nat) (said : List (Nat × Event)) : Prop where
  told : (told said).map Prod.snd = b.delivery.story b.links
  lastWords : lastWords said =
    stamp time (b.delivery.callback.tell (b.delivery.verdict b.links))
  inPlace : b.call.deadline = none →
    returns said = stamp time [.returned b.call.name (some b.delivered)] ∧
      said.getLast? = some (time, .returned b.call.name (some b.delivered))
  apart : ∀ due, b.call.deadline = some due →
    time ≤ due ∧ returns said = stamp time [.returned b.call.name (some b.delivered)] ∨
      due ≤ time ∧ returns said = stamp due [.returned b.call.name (some false)]

theorem Underway.pending {w : Delivery.Waiting}
    (h : b.Underway (.parked w) back slip now said) (hready : slip.ready = []) :
    b.Pending now said := by
  obtain ⟨-, ⟨-, -, -, c, hreach, hw, hsaid⟩, hawaited, hreturns⟩ := h
  refine ⟨?_, ?_⟩
  · rw [← lastWords_told, Tether.lastWords, List.filter_eq_nil_iff]
    intro p hp
    rw [hreach.calm hw p.2 (hsaid ▸ List.mem_map_of_mem hp)]
    exact Bool.false_ne_true
  · cases hdeadline : b.call.deadline with
    | none =>
        obtain rfl : back = none := ((awaited_inPlace hdeadline).mp hawaited).back
        exact hreturns
    | some due =>
        obtain ⟨-, -, hwaits, hcame⟩ := (awaited_apart hdeadline).mp hawaited
        dsimp only
        cases back with
        | none =>
            obtain ⟨⟨-, hearly⟩ | ⟨hwoken, -⟩, -⟩ := hwaits rfl
            · rw [if_neg (Nat.not_le.mpr hearly)]
              exact hreturns
            · rw [hready] at hwoken
              cases hwoken
        | some p =>
            obtain ⟨time, result⟩ := p
            rcases hcame time result rfl with ⟨rfl, rfl, hlate, -⟩ | ⟨hended, -⟩
            · rw [if_pos hlate]
              exact hreturns
            · cases hended

theorem Underway.concluded {time : Nat} (h : b.Underway (.ended time) back slip now said)
    (hready : slip.ready = []) : b.start ≤ time ∧ time ≤ now ∧ b.Concluded time said := by
  obtain ⟨-, ⟨-, -, -, hstart, hnow, hstory, hwords⟩, hawaited, hreturns⟩ := h
  rw [lastWords_told] at hwords
  refine ⟨hstart, hnow, hstory, hwords, fun hnone => ?_, fun due hdue => ?_⟩
  · have hplace := (awaited_inPlace hnone).mp hawaited
    obtain rfl : back = some (time, b.delivered) := hplace.back
    exact ⟨hreturns, hplace.last time rfl⟩
  · obtain ⟨-, -, hwaits, hcame⟩ := (awaited_apart hdue).mp hawaited
    cases back with
    | none =>
        have hwoken := ((hwaits rfl).2 time rfl).1
        rw [hready] at hwoken
        cases hwoken
    | some p =>
        obtain ⟨time', result⟩ := p
        rcases hcame time' result rfl with ⟨rfl, rfl, -, hlater⟩ | ⟨hended, rfl, hearly⟩
        · exact .inr ⟨hlater time rfl, hreturns⟩
        · cases hended
          exact .inl ⟨hearly, hreturns⟩

end Sending

end Tether
