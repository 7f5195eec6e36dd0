import Tether.Pairing.Timed

/-!
# Runs of a session

A run is a list of turns. A turn is an input together with the surroundings it comes
in, so links may come and go between any two turns; the packets that arrive are
arbitrary, and so is the generation of a timer that runs out. That is more than can
happen, since only timers that were started run out, and it spares every statement
here a word about timers.

A turn may pass through states that are neither its first nor its last: a request
from a side that is already trusted ends one session and opens the next one.
`Session.moments` lists the states of a turn, so that it can be said that a session
was unpaired in the middle of it.

`turn_cases` says once what a turn does to the state. Everything about runs is
derived from it. A session under a clock is no exception: what time does to it is a
run as well (`advance_session`).
-/

namespace Tether.Pairing

/-- Something that happens to a session, and the surroundings it happens in. -/
structure Turn where
  around : Surroundings := {}
  input : Input
deriving DecidableEq, Repr

namespace Turn

/-- This side asks or agrees. -/
def IsConsent (t : Turn) : Prop :=
  t.input = .request ∨ t.input = .accept

/-- A well-formed packet of the other side asks or agrees. -/
def BringsConsent (t : Turn) : Prop :=
  ∃ p, t.input = .received p ∧ ofPacket p = .ok true

end Turn

/-- A packet that was made for a bit carries that bit. -/
theorem ofPacket_packet (id : Int) (pair : Bool) :
    ofPacket (packet id pair) = .ok pair := by
  cases pair <;> rfl

namespace Session

/-- A session after a turn. -/
def turn (s : Session) (t : Turn) : Session :=
  s.step t.around t.input

/-- A session after turns. -/
def run (s : Session) (turns : List Turn) : Session :=
  turns.foldl turn s

@[simp] theorem run_append (s : Session) (earlier later : List Turn) :
    s.run (earlier ++ later) = (s.run earlier).run later :=
  List.foldl_append

theorem run_concat (s : Session) (earlier : List Turn) (t : Turn) :
    s.run (earlier ++ [t]) = (s.run earlier).turn t := by
  rw [run_append]; rfl

theorem turn_unpair (s : Session) (around : Surroundings) :
    (s.turn ⟨around, .unpair⟩).state = .unpaired := by
  simp only [turn, step, actions]
  split <;> rfl

/-- The states of a session while it carries out actions, from first to last. -/
def moments (s : Session) : List Action → List PairingState
  | [] => [s.state]
  | a :: rest => s.state :: (s.perform a).moments rest

/-- The session is unpaired at some moment of a turn, and no longer at its end. -/
def Leaves (s : Session) (t : Turn) : Prop :=
  .unpaired ∈ s.moments (s.actions t.around t.input) ∧ (s.turn t).state ≠ .unpaired

/-- What a turn can do to the state. It ends in the unpaired state; or it leaves that
state, by a request of one of the sides; or it never was in it, and then the state
stays, or the side that was asked agreed. -/
theorem turn_cases (s : Session) (t : Turn) :
    (s.turn t).state = .unpaired ∨
    (s.Leaves t ∧
      ((s.turn t).state = .requested ∧ t.IsConsent ∨
        (s.turn t).state = .requestedByPeer ∧ t.BringsConsent)) ∨
    (¬ s.Leaves t ∧ s.state ≠ .unpaired ∧
      ((s.turn t).state = s.state ∨
        (s.turn t).state = .paired ∧
          (s.state = .requested ∧ t.BringsConsent ∨
            s.state = .requestedByPeer ∧ t.IsConsent))) := by
  obtain ⟨state, generation⟩ := s
  obtain ⟨around, input⟩ := t
  cases input with
  | received p =>
      cases hp : ofPacket p with
      | error f =>
          cases state <;> simp [turn, step, actions, hp, Leaves, moments]
      | ok pair =>
          cases pair <;> cases state <;>
            simp [turn, step, actions, onBit, incoming, perform, hp, Leaves, moments,
              Turn.BringsConsent]
  | request =>
      cases state <;>
        simp [turn, step, actions, onRequest, agree, perform, Leaves, moments,
          Turn.IsConsent]
      split
      · split <;> simp [perform, moments]
      · simp
  | accept =>
      cases state <;>
        simp [turn, step, actions, agree, perform, Leaves, moments, Turn.IsConsent]
  | cancel =>
      cases state <;> simp [turn, step, actions, perform, Leaves, moments]
  | unpair => exact .inl (turn_unpair _ around)
  | sendFailed reason =>
      cases state <;> simp [turn, step, actions, onSendFailed, perform]
  | expired g =>
      by_cases hg : generation = g
      · cases state <;>
          simp [turn, step, actions, onTimeout, perform, hg, Leaves, moments]
      · cases state <;> simp [turn, step, actions, hg, Leaves, moments]

end Session

/-! ## Under a clock -/

namespace Timed

/-- A session under a clock takes the turn that it would take alone, and nothing
happens to its surroundings. -/
theorem step_session (t : Timed) (i : Input) :
    (t.step i).1.session = t.session.turn ⟨t.around, i⟩ ∧
      (t.step i).1.around = t.around := by
  have hfold : ∀ (acts : List Action) (t : Timed),
      (acts.foldl perform t).session = acts.foldl Session.perform t.session ∧
        (acts.foldl perform t).around = t.around := by
    intro acts
    induction acts with
    | nil => exact fun _ => ⟨rfl, rfl⟩
    | cons a rest ih =>
        intro t
        obtain ⟨hsession, haround⟩ := ih (t.perform a)
        rw [List.foldl_cons, List.foldl_cons, hsession, haround]
        cases a <;> exact ⟨rfl, rfl⟩
  exact hfold _ t

theorem expire_session {t : Timed} {timer : Timer} {rest : List Timer}
    (h : t.timers = timer :: rest) :
    t.expire.1.session = t.session.turn ⟨t.around, .expired timer.generation⟩ ∧
      t.expire.1.around = t.around := by
  rw [expire, h]
  exact step_session _ _

/-- The turns of timers that run out. -/
def Expiries (around : Surroundings) (turns : List Turn) : Prop :=
  ∀ t ∈ turns, ∃ generation, t = ⟨around, .expired generation⟩

theorem expireUntil_session (stop fuel : Nat) (t : Timed) :
    ∃ turns, (expireUntil stop fuel t).1.session = t.session.run turns ∧
      Expiries t.around turns := by
  induction fuel generalizing t with
  | zero => exact ⟨[], rfl, nofun⟩
  | succ fuel ih =>
      rw [expireUntil]
      split
      · next timer rest htimers =>
          split
          · have hexpire := expire_session htimers
            obtain ⟨turns, hrun, hall⟩ := ih t.expire.1
            rw [hexpire.1] at hrun
            rw [hexpire.2] at hall
            exact ⟨_ :: turns, hrun, List.forall_mem_cons.mpr ⟨⟨_, rfl⟩, hall⟩⟩
          · exact ⟨[], rfl, nofun⟩
      · exact ⟨[], rfl, nofun⟩

/-- The passing of time is a run in which timers run out. -/
theorem advance_session (t : Timed) (ms : Nat) :
    ∃ turns, (t.advance ms).1.session = t.session.run turns ∧
      Expiries t.around turns :=
  expireUntil_session _ _ t

end Timed

end Tether.Pairing
