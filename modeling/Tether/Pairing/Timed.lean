import Tether.Pairing.Session

/-!
# Pairing under a clock

A session with its clock and the timers it started. Timers are never taken back, they
only lose their generation, so the list holds every timer that has not run out yet.
All wait equally long, so the list is in the order in which they run out.

What reaches the surroundings is answered as a list of effects. Without anyone there
to receive them there are none.
-/

namespace Tether.Pairing

/-- A timer that has not run out. -/
structure Timer where
  /-- When it runs out. -/
  due : Nat
  generation : Nat
deriving DecidableEq, Repr

/-- What reaches the surroundings. -/
inductive Effect where
  | sent (pair : Bool)
  | emitted (event : PairingEvent)
deriving DecidableEq, Repr

/-- A session under a clock of milliseconds. -/
structure Timed where
  session : Session := {}
  timeout : Nat
  clock : Nat := 0
  timers : List Timer := []
  around : Surroundings := {}
deriving DecidableEq, Repr

namespace Timed

/-- What an action is to the surroundings. -/
def effect? (around : Surroundings) : Action → Option Effect
  | .send pair => if around.present then some (.sent pair) else none
  | .emit event => if around.present then some (.emitted event) else none
  | .enter _ | .startTimer | .cancelTimer => none

/-- Carry out an action. -/
def perform (t : Timed) (a : Action) : Timed :=
  let session := t.session.perform a
  match a with
  | .startTimer =>
      { t with session, timers := t.timers ++ [⟨t.clock + t.timeout, session.generation⟩] }
  | _ => { t with session }

/-- The session and the effects after an input. -/
def step (t : Timed) (i : Input) : Timed × List Effect :=
  let acts := t.session.actions t.around i
  (acts.foldl perform t, acts.filterMap (effect? t.around))

/-- Let the first timer run out. -/
def expire (t : Timed) : Timed × List Effect :=
  match t.timers with
  | [] => (t, [])
  | timer :: rest =>
      { t with timers := rest, clock := max t.clock timer.due }.step (.expired timer.generation)

/-- Let the timers run out that are due at a time, each at its own instant. -/
def expireUntil (stop : Nat) : Nat → Timed → Timed × List Effect
  | 0, t => (t, [])
  | fuel + 1, t =>
      match t.timers with
      | timer :: _ =>
          if timer.due ≤ stop then
            let (t, now) := t.expire
            let (t, later) := expireUntil stop fuel t
            (t, now ++ later)
          else (t, [])
      | [] => (t, [])

/-- Let time pass. An expiry starts no timer, so the timers that are there are all that
can run out. -/
def advance (t : Timed) (ms : Nat) : Timed × List Effect :=
  let stop := t.clock + ms
  let (t, effects) := expireUntil stop t.timers.length t
  ({ t with clock := stop }, effects)

/-- A span of milliseconds in diagnostics: seconds with the fraction they need, or
milliseconds if it is shorter than a second. -/
def span (ms : Nat) : String :=
  if ms = 0 then "0ns"
  else if ms < 1000 then toString ms ++ "ms"
  else if ms % 1000 = 0 then toString (ms / 1000) ++ "s"
  else
    let places := (toString (1000 + ms % 1000)).toList.drop 1
    let kept := (places.reverse.dropWhile (· = '0')).reverse
    toString (ms / 1000) ++ "." ++ String.ofList kept ++ "s"

/-- A session of a device in diagnostics. -/
def shown (t : Timed) (device : String) : String :=
  "PairingHandler \x7b device_id: " ++ Text.quoted device ++ ", state: " ++ t.session.state.shown
    ++ ", timeout: " ++ span t.timeout ++ " \x7d"

end Timed

end Tether.Pairing
