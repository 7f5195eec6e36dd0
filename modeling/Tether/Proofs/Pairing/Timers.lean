import Mathlib.Data.List.Induction
import Tether.Proofs.Pairing.Run

/-!
# Timers and the sessions they belong to

Timers are never taken back, so a session that pends may find itself among timers of many
sessions that are over. What keeps them apart is the generation: each timer that is left over has
one that is past, and a session that pends has exactly one timer of its own, which was started
when it opened. This is the invariant `Timely`. It says in one equation which timers there are,
and the time at which the session opened is a parameter of it, for nothing in the state tells it.

An input does one of three things (`step_cases`): the session rests afterwards, it goes on
unchanged, or it opens, and only then a timer is started. A session that rests after it pended
has a new generation, or its timer is gone. That is all that is needed for timers that run out
later to find nothing to do.

The clock is moved by hand. Time stops at the first timer that is due, and whatever else happens
at that instant may happen before the timer runs out or after it. So that a session ran out means
that nobody closed it in time, not that nobody could.
-/

namespace Tether

/-- Whether an answer is awaited. -/
def PairingState.isPending : PairingState → Bool
  | requested | requestedByPeer => true
  | unpaired | paired => false

namespace Pairing

/-- What others do to a session: anything but to let a timer run out. -/
structure Stimulus where
  input : Input
  outside : ∀ generation, input ≠ .expired generation

/-- How often it is told that time ran out. -/
def timeouts (effects : List Effect) : Nat :=
  effects.count (.emitted (.failed .timeout))

namespace Timed

/-- What happens to a session under a clock. -/
inductive Move where
  | stimulus (s : Stimulus)
  /-- Links come and go. -/
  | shift (around : Surroundings)
  /-- Time passes, up to the first timer. -/
  | wait (ms : Nat)
  /-- The first timer runs out, if it is due. -/
  | ring

def move (t : Timed) : Move → Timed × List Effect
  | .stimulus s => t.step s.input
  | .shift around => ({ t with around }, [])
  | .wait ms =>
      match t.timers with
      | [] => ({ t with clock := t.clock + ms }, [])
      | timer :: _ => ({ t with clock := min (t.clock + ms) timer.due }, [])
  | .ring =>
      match t.timers with
      | [] => (t, [])
      | timer :: _ => if timer.due ≤ t.clock then t.expire else (t, [])

def run (t : Timed) (moves : List Move) : Timed :=
  moves.foldl (fun t m => (t.move m).1) t

theorem run_append (t : Timed) (earlier later : List Move) :
    t.run (earlier ++ later) = (t.run earlier).run later :=
  List.foldl_append

theorem run_concat (t : Timed) (earlier : List Move) (m : Move) :
    t.run (earlier ++ [m]) = ((t.run earlier).move m).1 := by
  rw [run_append]
  rfl

/-! ## Inputs -/

/-- What an input can do: the session rests after it, goes on, or opens. -/
theorem step_cases (t : Timed) {i : Input} (hi : ∀ generation, i ≠ .expired generation) :
    (∃ s, (t.step i).1 = { t with session := s } ∧ s.state.isPending = false ∧
        t.session.generation ≤ s.generation ∧
        (t.session.state.isPending = true → t.session.generation < s.generation)) ∨
      ((t.step i).1 = t ∧ t.session.state.isPending = true) ∨
      (∃ s, (t.step i).1 =
          { t with session := s, timers := t.timers ++ [⟨t.clock + t.timeout, s.generation⟩] } ∧
        t.session.state.isPending = false ∧ s.state.isPending = true ∧
        t.session.generation < s.generation) := by
  obtain ⟨⟨state, generation⟩, timeout, clock, timers, around⟩ := t
  cases i with
  | received p =>
      cases hp : ofPacket p with
      | error f =>
          cases state <;> simp [step, Session.actions, hp, PairingState.isPending]
      | ok pair =>
          cases pair <;> cases state <;>
            simp [step, Session.actions, Session.onBit, Session.incoming, perform,
              Session.perform, hp, PairingState.isPending]
  | request =>
      obtain ⟨present, reachable⟩ := around
      cases state <;> cases present <;> cases reachable <;>
        simp [step, Session.actions, Session.onRequest, Session.agree, perform, Session.perform,
          PairingState.isPending]
  | accept =>
      cases state <;>
        simp [step, Session.actions, Session.agree, perform, Session.perform,
          PairingState.isPending]
  | cancel =>
      cases state <;>
        simp [step, Session.actions, perform, Session.perform, PairingState.isPending]
  | unpair =>
      obtain ⟨present, reachable⟩ := around
      cases state <;> cases reachable <;>
        simp [step, Session.actions, perform, Session.perform, PairingState.isPending]
  | sendFailed reason =>
      cases state <;>
        simp [step, Session.actions, Session.onSendFailed, perform, Session.perform,
          PairingState.isPending]
  | expired g => exact absurd rfl (hi g)

theorem timeouts_step (t : Timed) {i : Input} (hi : ∀ generation, i ≠ .expired generation) :
    timeouts (t.step i).2 = 0 := by
  have hactions : .emit (.failed .timeout) ∉ t.session.actions t.around i := by
    obtain ⟨⟨state, generation⟩, timeout, clock, timers, around⟩ := t
    cases i with
    | received p =>
        cases hp : ofPacket p with
        | error f => simp [Session.actions, hp]
        | ok pair =>
            cases pair <;> cases state <;>
              simp [Session.actions, hp, Session.onBit, Session.incoming]
    | request =>
        obtain ⟨present, reachable⟩ := around
        cases state <;> cases present <;> cases reachable <;>
          simp [Session.actions, Session.onRequest, Session.agree]
    | accept => cases state <;> simp [Session.actions, Session.agree]
    | cancel => cases state <;> simp [Session.actions]
    | unpair =>
        obtain ⟨present, reachable⟩ := around
        cases reachable <;> simp [Session.actions]
    | sendFailed reason => cases state <;> simp [Session.actions, Session.onSendFailed]
    | expired g => exact absurd rfl (hi g)
  rw [timeouts, step, List.count_eq_zero, List.mem_filterMap]
  intro htold
  obtain ⟨action, hmem, heffect⟩ := htold
  have haction : action = .emit (.failed .timeout) := by
    cases action with
    | emit event =>
        rw [effect?] at heffect
        split at heffect
        · cases heffect
          rfl
        · cases heffect
    | send pair =>
        rw [effect?] at heffect
        split at heffect <;> cases heffect
    | enter _ => cases heffect
    | startTimer => cases heffect
    | cancelTimer => cases heffect
  rw [haction] at hmem
  exact hactions hmem

/-- A timer of another generation, or of a session that does not pend, finds nothing to do. -/
theorem step_expired {t : Timed} {generation : Nat}
    (h : t.session.generation = generation → t.session.state.isPending = false) :
    t.step (.expired generation) = (t, []) := by
  have hactions : t.session.actions t.around (.expired generation) = [] := by
    rw [Session.actions]
    split
    · next heq =>
        have hidle := h heq
        cases hstate : t.session.state <;> simp_all [Session.onTimeout, PairingState.isPending]
    · rfl
  rw [step, hactions]
  rfl

/-- The timer of a session that pends ends it. -/
theorem step_expired_self {t : Timed} (h : t.session.state.isPending = true) :
    (t.step (.expired t.session.generation)).1 = { t with session.state := .unpaired } ∧
      timeouts (t.step (.expired t.session.generation)).2 = if t.around.present then 1 else 0 := by
  obtain ⟨⟨state, generation⟩, timeout, clock, timers, present, reachable⟩ := t
  cases state with
  | unpaired => cases h
  | requested =>
      cases present <;>
        simp [step, Session.actions, Session.onTimeout, perform, Session.perform,
          List.filterMap_cons, effect?, timeouts]
  | requestedByPeer =>
      cases present <;>
        simp [step, Session.actions, Session.onTimeout, perform, Session.perform,
          List.filterMap_cons, effect?, timeouts]
  | paired => cases h

/-! ## The timers there are -/

/-- The timers that are left over are in the order in which they run out, none of them is due
already, and they are over, except for the one that a session that pends has since it opened. -/
structure Timely (opened : Nat) (t : Timed) : Prop where
  timers : ∃ old, (∀ timer ∈ old, timer.generation < t.session.generation) ∧
    t.timers = old ++ if t.session.state.isPending then
      [⟨opened + t.timeout, t.session.generation⟩] else []
  ordered : t.timers.Pairwise fun a b => a.due ≤ b.due
  ahead : ∀ timer ∈ t.timers, t.clock ≤ timer.due ∧ timer.due ≤ t.clock + t.timeout

variable {opened : Nat} {t : Timed} {timer : Timer} {rest : List Timer}

theorem Timely.own (h : Timely opened t) (hpending : t.session.state.isPending = true) :
    t.timers.filter (·.generation = t.session.generation) =
      [⟨opened + t.timeout, t.session.generation⟩] := by
  obtain ⟨old, hold, htimers⟩ := h.timers
  have hnone : old.filter (·.generation = t.session.generation) = [] := by
    rw [List.filter_eq_nil_iff]
    intro timer htimer
    have := hold timer htimer
    simp only [decide_eq_true_eq]
    omega
  rw [htimers, if_pos hpending, List.filter_append, hnone]
  simp

theorem Timely.mem_own (h : Timely opened t) (hpending : t.session.state.isPending = true) :
    ⟨opened + t.timeout, t.session.generation⟩ ∈ t.timers := by
  obtain ⟨old, -, htimers⟩ := h.timers
  rw [htimers, if_pos hpending]
  simp

theorem Timely.old (h : Timely opened t) (hidle : t.session.state.isPending = false) :
    ∀ timer ∈ t.timers, timer.generation < t.session.generation := by
  obtain ⟨old, hold, htimers⟩ := h.timers
  rw [hidle, if_neg Bool.false_ne_true, List.append_nil] at htimers
  rw [htimers]
  exact hold

theorem timely_nil (hidle : t.session.state.isPending = false) (hnone : t.timers = []) :
    Timely opened t := by
  refine ⟨⟨[], nofun, ?_⟩, ?_, ?_⟩
  · rw [hnone, hidle]
    rfl
  · rw [hnone]
    exact List.Pairwise.nil
  · rw [hnone]
    exact nofun

/-- When a session opened matters only while it pends. -/
theorem Timely.of_idle (h : Timely opened t) (hidle : t.session.state.isPending = false)
    (other : Nat) : Timely other t := by
  obtain ⟨old, hold, htimers⟩ := h.timers
  refine ⟨⟨old, hold, ?_⟩, h.ordered, h.ahead⟩
  rw [htimers, hidle]
  rfl

/-- Time may pass up to the first timer. -/
theorem Timely.wait (h : Timely opened t) {clock : Nat} (hclock : t.clock ≤ clock)
    (hahead : ∀ timer ∈ t.timers, clock ≤ timer.due) : Timely opened { t with clock } := by
  refine ⟨h.timers, h.ordered, ?_⟩
  intro timer htimer
  have hdue := (h.ahead timer htimer).2
  have hclock' := hahead timer htimer
  show clock ≤ timer.due ∧ timer.due ≤ clock + t.timeout
  omega

theorem Timely.head_le (h : Timely opened t) (htimers : t.timers = timer :: rest) :
    ∀ other ∈ t.timers, timer.due ≤ other.due := by
  have hordered := h.ordered
  rw [htimers, List.pairwise_cons] at hordered
  intro other hother
  rw [htimers, List.mem_cons] at hother
  rcases hother with rfl | hrest
  · exact Nat.le_refl _
  · exact hordered.1 other hrest

/-- A session opens at the time it is, and its timer is the last to run out. -/
theorem Timely.open (h : Timely opened t) (hidle : t.session.state.isPending = false)
    {s : Session} (hpending : s.state.isPending = true)
    (hnewer : t.session.generation < s.generation) :
    Timely t.clock
      { t with session := s, timers := t.timers ++ [⟨t.clock + t.timeout, s.generation⟩] } := by
  refine ⟨⟨t.timers, ?_, ?_⟩, ?_, ?_⟩
  · intro timer htimer
    have := h.old hidle timer htimer
    show timer.generation < s.generation
    omega
  · simp only [hpending, if_true]
  · rw [List.pairwise_append]
    refine ⟨h.ordered, List.pairwise_singleton _ _, ?_⟩
    intro timer htimer last hlast
    rw [List.mem_singleton.mp hlast]
    exact (h.ahead timer htimer).2
  · intro timer htimer
    rcases List.mem_append.mp htimer with hold | hlast
    · exact h.ahead timer hold
    · rw [List.mem_singleton.mp hlast]
      show t.clock ≤ t.clock + t.timeout ∧ t.clock + t.timeout ≤ t.clock + t.timeout
      omega

/-- A session that rests leaves its timer behind, if it has one. -/
theorem Timely.settle (h : Timely opened t) {s : Session} (hidle : s.state.isPending = false)
    (hle : t.session.generation ≤ s.generation)
    (hlt : t.session.state.isPending = true → t.session.generation < s.generation) :
    Timely opened { t with session := s } := by
  refine ⟨⟨t.timers, ?_, ?_⟩, h.ordered, h.ahead⟩
  · obtain ⟨old, hold, htimers⟩ := h.timers
    intro timer htimer
    show timer.generation < s.generation
    rw [htimers, List.mem_append] at htimer
    rcases htimer with hmem | hmem
    · have := hold timer hmem
      omega
    · split at hmem
      · next hpending =>
          rw [List.mem_singleton.mp hmem]
          exact hlt hpending
      · cases hmem
  · simp only [hidle, Bool.false_eq_true, if_false, List.append_nil]

/-- The first timer is that of the session and ends it, or it is over and nothing happens. -/
theorem Timely.expire_cases (h : Timely opened t) (htimers : t.timers = timer :: rest) :
    (t.session.state.isPending = true ∧ rest = [] ∧ timer.due = opened + t.timeout ∧
        t.expire.1 = { t with session.state := .unpaired, timers := [], clock := timer.due } ∧
        timeouts t.expire.2 = if t.around.present then 1 else 0) ∨
      (t.expire = ({ t with timers := rest, clock := timer.due }, []) ∧
        Timely opened { t with timers := rest, clock := timer.due } ∧
        (t.session.state.isPending = true →
          ⟨opened + t.timeout, t.session.generation⟩ ∈ rest)) := by
  have hmem : timer ∈ t.timers := by rw [htimers]; exact List.mem_cons_self
  have hclock : max t.clock timer.due = timer.due := Nat.max_eq_right (h.ahead timer hmem).1
  have hexpire : t.expire =
      { t with timers := rest, clock := timer.due }.step (.expired timer.generation) := by
    rw [expire, htimers]
    dsimp only
    rw [hclock]
  obtain ⟨old, hold, hall⟩ := h.timers
  rw [htimers] at hall
  cases old with
  | nil =>
      split at hall
      · next hpending =>
          obtain ⟨rfl, rfl⟩ := List.cons.inj hall
          refine .inl ⟨hpending, rfl, rfl, ?_, ?_⟩
          · rw [hexpire]
            exact (step_expired_self (t := { t with timers := [], clock := opened + t.timeout })
              hpending).1
          · rw [hexpire]
            exact (step_expired_self (t := { t with timers := [], clock := opened + t.timeout })
              hpending).2
      · cases hall
  | cons first old =>
      obtain ⟨rfl, rfl⟩ := List.cons.inj hall
      obtain ⟨hfirst, hold⟩ := List.forall_mem_cons.mp hold
      refine .inr ⟨?_, ⟨⟨old, hold, rfl⟩, ?_, ?_⟩, ?_⟩
      · rw [hexpire]
        refine step_expired ?_
        intro heq
        have heq : t.session.generation = timer.generation := heq
        omega
      · have hordered := h.ordered
        rw [htimers] at hordered
        exact hordered.of_cons
      · intro other hother
        have hmem' : other ∈ t.timers := by rw [htimers]; exact List.mem_cons_of_mem _ hother
        have hle := h.head_le htimers other hmem'
        have hother := (h.ahead other hmem').2
        have hdue := (h.ahead timer hmem).1
        show timer.due ≤ other.due ∧ other.due ≤ timer.due + t.timeout
        omega
      · intro hpending
        rw [if_pos hpending]
        simp

theorem Timely.expire (h : Timely opened t) (htimers : t.timers = timer :: rest) :
    Timely opened t.expire.1 ∧ t.expire.1.timers = rest ∧ t.expire.1.clock = timer.due ∧
      t.expire.1.timeout = t.timeout := by
  rcases h.expire_cases htimers with ⟨-, hrest, -, hexpire, -⟩ | ⟨hexpire, htimely, -⟩
  · rw [hexpire, hrest]
    exact ⟨timely_nil rfl rfl, rfl, rfl, rfl⟩
  · rw [hexpire]
    exact ⟨htimely, rfl, rfl, rfl⟩

/-! ## Moves -/

/-- What a move can do. -/
inductive Course (opened : Nat) (t : Timed) (m : Move) : Prop where
  | goesOn (timely : Timely opened (t.move m).1)
      (session : (t.move m).1.session = t.session) (silent : timeouts (t.move m).2 = 0)
  | rests (timely : Timely opened (t.move m).1) (outside : m ≠ .ring)
      (idle : (t.move m).1.session.state.isPending = false)
      (silent : timeouts (t.move m).2 = 0)
  | opens (timely : Timely t.clock (t.move m).1)
      (before : t.session.state.isPending = false)
      (pending : (t.move m).1.session.state.isPending = true)
      (started : (t.move m).1.timers =
        t.timers ++ [⟨t.clock + t.timeout, (t.move m).1.session.generation⟩])
      (silent : timeouts (t.move m).2 = 0)
  | runsOut (timely : Timely opened (t.move m).1) (ring : m = .ring)
      (pending : t.session.state.isPending = true) (instant : t.clock = opened + t.timeout)
      (unpaired : (t.move m).1.session.state = .unpaired)
      (told : timeouts (t.move m).2 = if t.around.present then 1 else 0)

theorem Timely.course (h : Timely opened t) (m : Move) : Course opened t m := by
  cases m with
  | stimulus i =>
      have hsilent := t.timeouts_step i.outside
      rcases t.step_cases i.outside with
        ⟨s, hstep, hidle, hle, hlt⟩ | ⟨hstep, -⟩ | ⟨s, hstep, hbefore, hpending, hnewer⟩
      · have htimely := h.settle hidle hle hlt
        rw [← hstep] at htimely
        refine .rests htimely nofun ?_ hsilent
        rw [move, hstep]
        exact hidle
      · refine .goesOn ?_ ?_ hsilent
        · rw [move, hstep]
          exact h
        · rw [move, hstep]
      · have htimely := h.open hbefore hpending hnewer
        rw [← hstep] at htimely
        refine .opens htimely hbefore ?_ ?_ hsilent
        · rw [move, hstep]
          exact hpending
        · rw [move, hstep]
  | shift around => exact .goesOn ⟨h.timers, h.ordered, h.ahead⟩ rfl rfl
  | wait ms =>
      cases htimers : t.timers with
      | nil =>
          have hmove : t.move (.wait ms) = ({ t with clock := t.clock + ms }, []) := by
            simp only [move, htimers]
          refine .goesOn ?_ (by rw [hmove]) (by rw [hmove]; rfl)
          rw [hmove]
          refine h.wait (Nat.le_add_right _ _) ?_
          rw [htimers]
          exact nofun
      | cons timer rest =>
          have hmove : t.move (.wait ms) =
              ({ t with clock := min (t.clock + ms) timer.due }, []) := by
            simp only [move, htimers]
          have hdue := (h.ahead timer (by rw [htimers]; exact List.mem_cons_self)).1
          refine .goesOn ?_ (by rw [hmove]) (by rw [hmove]; rfl)
          rw [hmove]
          refine h.wait (by omega) ?_
          intro other hother
          have := h.head_le htimers other hother
          omega
  | ring =>
      cases htimers : t.timers with
      | nil =>
          have hmove : t.move .ring = (t, []) := by simp only [move, htimers]
          refine .goesOn ?_ ?_ ?_ <;> rw [hmove]
          · exact h
          · rfl
      | cons timer rest =>
          by_cases hdue : timer.due ≤ t.clock
          · have hmove : t.move .ring = t.expire := by
              simp only [move, htimers]
              exact if_pos hdue
            have htimely := (h.expire htimers).1
            rcases h.expire_cases htimers with
              ⟨hpending, -, hinstant, hexpire, htold⟩ | ⟨hexpire, -, -⟩
            · have hahead := (h.ahead timer (by rw [htimers]; exact List.mem_cons_self)).1
              refine .runsOut ?_ rfl hpending (by omega) ?_ ?_ <;> rw [hmove]
              · exact htimely
              · rw [hexpire]
              · exact htold
            · refine .goesOn ?_ ?_ ?_ <;> rw [hmove]
              · exact htimely
              · rw [hexpire]
              · rw [hexpire]
                rfl
          · have hmove : t.move .ring = (t, []) := by
              simp only [move, htimers]
              exact if_neg hdue
            refine .goesOn ?_ ?_ ?_ <;> rw [hmove]
            · exact h
            · rfl

theorem timeout_step (t : Timed) (i : Input) : (t.step i).1.timeout = t.timeout := by
  have hfold : ∀ (acts : List Action) (t : Timed), (acts.foldl perform t).timeout = t.timeout := by
    intro acts
    induction acts with
    | nil => exact fun _ => rfl
    | cons a rest ih =>
        intro t
        rw [List.foldl_cons, ih]
        cases a <;> rfl
  exact hfold _ t

theorem timeout_move (t : Timed) (m : Move) : (t.move m).1.timeout = t.timeout := by
  cases m with
  | stimulus i => exact t.timeout_step i.input
  | shift around => rfl
  | wait ms =>
      rw [move]
      split <;> rfl
  | ring =>
      rw [move]
      split
      · rfl
      · next timer rest htimers =>
          split
          · rw [expire, htimers]
            exact timeout_step _ _
          · rfl

theorem timeout_run (t : Timed) (moves : List Move) : (t.run moves).timeout = t.timeout := by
  induction moves generalizing t with
  | nil => rfl
  | cons m rest ih =>
      show ((t.move m).1.run rest).timeout = t.timeout
      rw [ih, timeout_move]

/-! ## Runs -/

/-- The moves of a run are those before the session that pends, the one that opened it, and those
since. -/
structure Opened (t : Timed) (moves earlier : List Move) (opening : Move) (since : List Move) :
    Prop where
  split : moves = earlier ++ opening :: since
  before : (t.run earlier).session.state.isPending = false
  pending : ∀ first rest, since = first ++ rest →
    (t.run (earlier ++ opening :: first)).session.state.isPending = true
  started : (t.run (earlier ++ [opening])).timers = (t.run earlier).timers ++
    [⟨(t.run earlier).clock + t.timeout, (t.run moves).session.generation⟩]

theorem opened_concat {moves earlier since : List Move} {opening m : Move}
    (h : t.Opened moves earlier opening since)
    (hpending : ((t.run moves).move m).1.session.state.isPending = true)
    (hsession : ((t.run moves).move m).1.session = (t.run moves).session) :
    t.Opened (moves ++ [m]) earlier opening (since ++ [m]) := by
  refine ⟨by rw [h.split]; simp, h.before, ?_, ?_⟩
  · intro first rest hsplit
    rcases List.eq_nil_or_concat rest with rfl | ⟨init, last, rfl⟩
    · rw [List.append_nil] at hsplit
      rw [← hsplit, ← List.cons_append, ← List.append_assoc, ← h.split, run_concat]
      exact hpending
    · rw [List.concat_eq_append, ← List.append_assoc] at hsplit
      exact h.pending first init (List.append_inj' hsplit rfl).1
  · rw [h.started, run_concat, hsession]

/-- After a run nothing pends, or a session that opened at some move of the run, whose timers have
been kept since. -/
theorem timely_run (hidle : t.session.state.isPending = false) (hnone : t.timers = [])
    (moves : List Move) :
    ((t.run moves).session.state.isPending = false ∧ Timely 0 (t.run moves)) ∨
      ((t.run moves).session.state.isPending = true ∧ ∃ earlier opening since,
        t.Opened moves earlier opening since ∧
          Timely (t.run earlier).clock (t.run moves)) := by
  induction moves using List.reverseRecOn with
  | nil => exact .inl ⟨hidle, timely_nil hidle hnone⟩
  | append_singleton moves m ih =>
      rw [run_concat]
      rcases ih with ⟨hbefore, htimely⟩ | ⟨hbefore, earlier, opening, since, hopened, htimely⟩
      · cases htimely.course m with
        | goesOn htimely hsession _ =>
            rw [hsession]
            exact .inl ⟨hbefore, htimely⟩
        | rests htimely _ hidle _ => exact .inl ⟨hidle, htimely⟩
        | opens htimely _ hpending hstarted _ =>
            refine .inr ⟨hpending, moves, m, [], ⟨rfl, hbefore, ?_, ?_⟩, htimely⟩
            · intro first rest hnil
              obtain ⟨rfl, rfl⟩ := List.append_eq_nil_iff.mp hnil.symm
              rw [run_concat]
              exact hpending
            · rw [run_concat, hstarted, timeout_run]
        | runsOut _ _ hpending _ _ _ =>
            rw [hbefore] at hpending
            cases hpending
      · cases htimely.course m with
        | goesOn htimely hsession _ =>
            have hpending := hbefore
            rw [← hsession] at hpending
            refine .inr ⟨hpending, earlier, opening, since ++ [m], ?_, htimely⟩
            exact opened_concat hopened hpending hsession
        | rests htimely _ hidle _ => exact .inl ⟨hidle, htimely.of_idle hidle 0⟩
        | opens _ hidle _ _ _ =>
            rw [hbefore] at hidle
            cases hidle
        | runsOut htimely _ _ _ hunpaired _ =>
            have hidle : ((t.run moves).move m).1.session.state.isPending = false := by
              rw [hunpaired]
              rfl
            exact .inl ⟨hidle, htimely.of_idle hidle 0⟩

/-! ## The passing of time -/

theorem expireUntil_nil (stop fuel : Nat) (hnone : t.timers = []) :
    expireUntil stop fuel t = (t, []) := by
  cases fuel with
  | zero => rfl
  | succ fuel => simp only [expireUntil, hnone]

theorem expireUntil_cons (fuel : Nat) {stop : Nat} (htimers : t.timers = timer :: rest)
    (hdue : timer.due ≤ stop) :
    expireUntil stop (fuel + 1) t = ((expireUntil stop fuel t.expire.1).1,
      t.expire.2 ++ (expireUntil stop fuel t.expire.1).2) := by
  simp only [expireUntil, htimers, if_pos hdue]

/-- No session runs out before its time. -/
theorem Timely.expireUntil_quiet (h : Timely opened t) {stop : Nat} (fuel : Nat)
    (hlater : t.session.state.isPending = true → stop < opened + t.timeout) :
    (expireUntil stop fuel t).1.session = t.session ∧ (expireUntil stop fuel t).2 = [] := by
  induction fuel generalizing t with
  | zero => exact ⟨rfl, rfl⟩
  | succ fuel ih =>
      cases htimers : t.timers with
      | nil =>
          rw [expireUntil_nil _ _ htimers]
          exact ⟨rfl, rfl⟩
      | cons timer rest =>
          by_cases hdue : timer.due ≤ stop
          · rw [expireUntil_cons fuel htimers hdue]
            rcases h.expire_cases htimers with ⟨hpending, -, hinstant, -, -⟩ | ⟨hexpire, htimely, -⟩
            · have := hlater hpending
              omega
            · rw [hexpire]
              exact ih htimely hlater
          · simp only [expireUntil, htimers, if_neg hdue]
            exact ⟨trivial, trivial⟩

/-- A session that pends runs out when its time comes, and this is told once. -/
theorem Timely.expireUntil_ends (h : Timely opened t) {stop fuel : Nat}
    (hfuel : t.timers.length ≤ fuel) (hpending : t.session.state.isPending = true)
    (hdue : opened + t.timeout ≤ stop) :
    (expireUntil stop fuel t).1.session.state = .unpaired ∧
      timeouts (expireUntil stop fuel t).2 = if t.around.present then 1 else 0 := by
  induction fuel generalizing t with
  | zero =>
      have hmem := h.mem_own hpending
      rw [List.length_eq_zero_iff.mp (Nat.le_zero.mp hfuel)] at hmem
      cases hmem
  | succ fuel ih =>
      cases htimers : t.timers with
      | nil =>
          have hmem := h.mem_own hpending
          rw [htimers] at hmem
          cases hmem
      | cons timer rest =>
          have hle : timer.due ≤ opened + t.timeout := h.head_le htimers _ (h.mem_own hpending)
          rw [expireUntil_cons fuel htimers (by omega)]
          rcases h.expire_cases htimers with ⟨-, -, -, hexpire, htold⟩ | ⟨hexpire, htimely, -⟩
          · rw [hexpire, expireUntil_nil _ _ rfl, List.append_nil]
            exact ⟨rfl, htold⟩
          · rw [hexpire]
            refine ih htimely ?_ hpending hdue
            rw [htimers] at hfuel
            exact Nat.le_of_succ_le_succ hfuel

theorem move_wait {stop : Nat} (hstop : t.clock ≤ stop)
    (hahead : ∀ timer ∈ t.timers, stop ≤ timer.due) :
    (t.move (.wait (stop - t.clock))).1 = { t with clock := stop } := by
  have hclock : t.clock + (stop - t.clock) = stop := by omega
  cases htimers : t.timers with
  | nil => simp only [move, htimers, hclock]
  | cons timer rest =>
      have hle := hahead timer (by rw [htimers]; exact List.mem_cons_self)
      simp only [move, htimers, hclock, Nat.min_eq_left hle]

/-- Waiting for the first timer and letting it run out is what its expiry does. -/
theorem Timely.move_expire (h : Timely opened t) (htimers : t.timers = timer :: rest) :
    t.run [.wait (timer.due - t.clock), .ring] = t.expire.1 := by
  have hdue := (h.ahead timer (by rw [htimers]; exact List.mem_cons_self)).1
  show ((t.move (.wait (timer.due - t.clock))).1.move .ring).1 = t.expire.1
  rw [move_wait hdue (h.head_le htimers)]
  simp only [move, htimers, Nat.le_refl, if_true, Timed.expire, Nat.max_self,
    Nat.max_eq_right hdue]

theorem Timely.expireUntil_run (h : Timely opened t) {stop fuel : Nat}
    (hfuel : t.timers.length ≤ fuel) (hstop : t.clock ≤ stop) :
    ∃ moves, (∀ m ∈ moves, m = .ring ∨ ∃ ms, m = .wait ms) ∧
      t.run moves = { (expireUntil stop fuel t).1 with clock := stop } := by
  induction fuel generalizing t with
  | zero =>
      have hnone := List.length_eq_zero_iff.mp (Nat.le_zero.mp hfuel)
      refine ⟨[.wait (stop - t.clock)], by simp, move_wait hstop ?_⟩
      rw [hnone]
      exact nofun
  | succ fuel ih =>
      cases htimers : t.timers with
      | nil =>
          rw [expireUntil_nil _ _ htimers]
          refine ⟨[.wait (stop - t.clock)], by simp, move_wait hstop ?_⟩
          rw [htimers]
          exact nofun
      | cons timer rest =>
          by_cases hdue : timer.due ≤ stop
          · obtain ⟨htimely, hrest, hclock, -⟩ := h.expire htimers
            have hfuel' : t.expire.1.timers.length ≤ fuel := by
              rw [htimers] at hfuel
              rw [hrest]
              exact Nat.le_of_succ_le_succ hfuel
            obtain ⟨moves, hall, hrun⟩ := ih htimely hfuel' (by omega)
            refine ⟨[.wait (timer.due - t.clock), .ring] ++ moves, ?_, ?_⟩
            · intro m hm
              rcases List.mem_append.mp hm with hfirst | hlater
              · simp only [List.mem_cons, List.not_mem_nil, or_false] at hfirst
                rcases hfirst with rfl | rfl
                · exact .inr ⟨_, rfl⟩
                · exact .inl rfl
              · exact hall m hlater
            · rw [run_append, h.move_expire htimers, hrun, expireUntil_cons fuel htimers hdue]
          · refine ⟨[.wait (stop - t.clock)], by simp, ?_⟩
            have hwait : t.run [.wait (stop - t.clock)] = { t with clock := stop } := by
              refine move_wait hstop ?_
              intro other hother
              have := h.head_le htimers other hother
              omega
            rw [hwait]
            simp only [expireUntil, htimers, if_neg hdue]

/-- The passing of time is a run as well, in which each timer runs out at the instant at which it is
due. -/
theorem Timely.advance_run (h : Timely opened t) (ms : Nat) :
    ∃ moves, (∀ m ∈ moves, m = .ring ∨ ∃ ms, m = .wait ms) ∧ t.run moves = (t.advance ms).1 :=
  h.expireUntil_run (Nat.le_refl _) (Nat.le_add_right _ _)

/-! ## What time does to a session -/

/-- One timer is that of the session. It ends the session at the instant at which it is due and not
before, and this is told once; nothing else tells so. -/
structure Awaits (t : Timed) (timer : Timer) : Prop where
  only : t.timers.filter (·.generation = t.session.generation) = [timer]
  ahead : t.clock ≤ timer.due
  waits : ∀ ms, t.clock + ms < timer.due →
    (t.advance ms).1.session = t.session ∧ (t.advance ms).2 = []
  ends : ∀ ms, timer.due ≤ t.clock + ms → (t.advance ms).1.session.state = .unpaired ∧
    timeouts (t.advance ms).2 = if t.around.present then 1 else 0
  rings : (t.move .ring).1.session.state.isPending = false → t.clock = timer.due ∧
    timeouts (t.move .ring).2 = if t.around.present then 1 else 0
  silent : ∀ m, (m = .ring → (t.move m).1.session.state.isPending = true) →
    timeouts (t.move m).2 = 0

/-- No timer that is left changes anything, and no move tells that time ran out. -/
structure Quiet (t : Timed) : Prop where
  deaf : ∀ timer ∈ t.timers, t.step (.expired timer.generation) = (t, [])
  waits : ∀ ms, (t.advance ms).1.session = t.session ∧ (t.advance ms).2 = []
  silent : ∀ m, timeouts (t.move m).2 = 0

theorem Timely.awaits (h : Timely opened t) (hpending : t.session.state.isPending = true) :
    t.Awaits ⟨opened + t.timeout, t.session.generation⟩ := by
  refine ⟨h.own hpending, (h.ahead _ (h.mem_own hpending)).1, ?_, ?_, ?_, ?_⟩
  · intro ms hlater
    exact h.expireUntil_quiet _ fun _ => hlater
  · intro ms hdue
    exact h.expireUntil_ends (Nat.le_refl _) hpending hdue
  · intro hidle
    cases h.course .ring with
    | goesOn _ hsession _ =>
        rw [hsession, hpending] at hidle
        cases hidle
    | rests _ hne _ _ => exact absurd rfl hne
    | opens _ _ hpending' _ _ =>
        rw [hidle] at hpending'
        cases hpending'
    | runsOut _ _ _ hinstant _ htold => exact ⟨hinstant, htold⟩
  · intro m hring
    cases h.course m with
    | goesOn _ _ hsilent => exact hsilent
    | rests _ _ _ hsilent => exact hsilent
    | opens _ _ _ _ hsilent => exact hsilent
    | runsOut _ hm _ _ hunpaired _ =>
        have hpending' := hring hm
        rw [hunpaired] at hpending'
        cases hpending'

theorem Timely.quiet (h : Timely opened t) (hidle : t.session.state.isPending = false) :
    t.Quiet := by
  refine ⟨fun timer _ => step_expired fun _ => hidle, ?_, ?_⟩
  · intro ms
    refine h.expireUntil_quiet _ ?_
    intro hpending
    rw [hidle] at hpending
    cases hpending
  · intro m
    cases h.course m with
    | goesOn _ _ hsilent => exact hsilent
    | rests _ _ _ hsilent => exact hsilent
    | opens _ _ _ _ hsilent => exact hsilent
    | runsOut _ _ hpending _ _ _ =>
        rw [hidle] at hpending
        cases hpending

/-- Timers keep to the session that started them. After any run, a session that pends opened at
some move of the run, and has one timer, which this move started. That timer ends it when it is
due, a timeout after the session opened, and then, and only then, it is told that time ran out,
once. If nothing pends, the timers that are left do nothing. However much time passes at once, what
it leads to is what a run leads to. -/
theorem timers_of_run {t : Timed} (hidle : t.session.state.isPending = false)
    (hnone : t.timers = []) (moves : List Move) :
    ((t.run moves).session.state.isPending = true → ∃ earlier opening since,
      t.Opened moves earlier opening since ∧
        (t.run moves).Awaits
          ⟨(t.run earlier).clock + t.timeout, (t.run moves).session.generation⟩) ∧
      ((t.run moves).session.state.isPending = false → (t.run moves).Quiet) ∧
      ∀ ms, ∃ more, ((t.run moves).advance ms).1 = t.run (moves ++ more) := by
  have hadvance : ∀ {opened}, Timely opened (t.run moves) →
      ∀ ms, ∃ more, ((t.run moves).advance ms).1 = t.run (moves ++ more) := by
    intro opened htimely ms
    obtain ⟨more, -, hrun⟩ := htimely.advance_run ms
    refine ⟨more, ?_⟩
    rw [run_append]
    exact hrun.symm
  rcases timely_run hidle hnone moves with
    ⟨hrests, htimely⟩ | ⟨hpending, earlier, opening, since, hopened, htimely⟩
  · refine ⟨?_, fun _ => htimely.quiet hrests, hadvance htimely⟩
    intro hpending
    rw [hrests] at hpending
    cases hpending
  · refine ⟨fun _ => ⟨earlier, opening, since, hopened, ?_⟩, ?_, hadvance htimely⟩
    · rw [← timeout_run t moves]
      exact htimely.awaits hpending
    · intro hrests
      rw [hpending] at hrests
      cases hrests

/-- This side asks, takes it back and asks again. The first timer finds the second session and leaves
it alone, and the second timer ends it. -/
theorem timers_of_run_again :
    let t : Timed := { timeout := 30 }
    let ask : Move := .stimulus ⟨.request, nofun⟩
    let moves : List Move :=
      [ask, .wait 10, .stimulus ⟨.cancel, nofun⟩, ask, .wait 50, .ring]
    t.session.state.isPending = false ∧ t.timers = [] ∧
      (t.run moves).timers = [⟨40, 3⟩] ∧ (t.run moves).session = ⟨.requested, 3⟩ ∧
      (t.run moves).clock = 30 ∧
      ((t.run moves).advance 9).2 = [] ∧ timeouts ((t.run moves).advance 10).2 = 1 := by
  intro t ask moves
  have hpending : (t.run moves).session.state.isPending = true := by decide
  obtain ⟨earlier, opening, since, -, hawaits⟩ := (timers_of_run rfl rfl moves).1 hpending
  -- The session has one timer, and its instant can be read off the list.
  have honly := hawaits.only
  rw [show (t.run moves).timers.filter (·.generation = (t.run moves).session.generation) =
    [⟨40, 3⟩] by decide] at honly
  have htimer := List.head_eq_of_cons_eq honly
  rw [← htimer] at hawaits
  refine ⟨rfl, rfl, by decide, by decide, by decide, ?_, ?_⟩
  · exact (hawaits.waits 9 (by decide)).2
  · exact (hawaits.ends 10 (by decide)).2

end Timed

end Pairing

end Tether
