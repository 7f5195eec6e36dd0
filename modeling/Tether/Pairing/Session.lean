import Tether.Pairing.Event
import Tether.Pairing.Message

/-!
# Pairing sessions

Pairing is the same on both sides. Asking and agreeing are one packet, and so are
declining and ending, so a session is little more than the state that tells them
apart.

`Session.actions` is the whole protocol: what to do about an input, in order. The
order is part of it, for whoever is told of an event may look at the state. An action
that concerns the session itself is carried out by `Session.perform`; the others
concern the surroundings.

A timer is known by the generation it was started in. Every start and every
cancellation begins a new generation, so a timer that outlives its session finds that
its generation is over.
-/

namespace Tether

/-- How far pairing has come. -/
inductive PairingState where
  | unpaired
  /-- This side asked and waits for an answer. -/
  | requested
  /-- The other side asked and waits for an answer. -/
  | requestedByPeer
  | paired
deriving DecidableEq, Repr

namespace PairingState

/-- The word for a state in records. -/
def word : PairingState → String
  | unpaired => "unpaired"
  | requested => "requested"
  | requestedByPeer => "requested_by_peer"
  | paired => "paired"

/-- The name of a state in diagnostics. -/
def shown : PairingState → String
  | unpaired => "Unpaired"
  | requested => "Requested"
  | requestedByPeer => "RequestedByPeer"
  | paired => "Paired"

/-- The state that a word names. -/
def ofWord? (w : String) : Option PairingState :=
  [unpaired, requested, requestedByPeer, paired].find? fun s => s.word = w

/-- The state in a record: a word, or a word with nothing under it. -/
def ofJson? : Json → Option PairingState
  | .str w => ofWord? w
  | .obj [(w, .null)] => ofWord? w
  | _ => none

end PairingState

namespace Pairing

/-- What a session can ask of its surroundings. -/
structure Surroundings where
  /-- Whether anyone is left to send packets and hear of events. -/
  present : Bool := true
  /-- Whether there is a link to the other side. -/
  reachable : Bool := true
deriving DecidableEq, Repr

/-- What happens to a session. -/
inductive Input where
  | received (p : Packet)
  | request
  | accept
  | cancel
  | unpair
  /-- A packet of pairing was not delivered. -/
  | sendFailed (reason : String)
  /-- A timer of this generation ran out. -/
  | expired (generation : Nat)
deriving DecidableEq, Repr

/-- What a session does. -/
inductive Action where
  | enter (state : PairingState)
  | startTimer
  | cancelTimer
  | send (pair : Bool)
  | emit (event : PairingEvent)
deriving DecidableEq, Repr

/-- A session. -/
structure Session where
  state : PairingState := .unpaired
  generation : Nat := 0
deriving DecidableEq, Repr

namespace Session

/-- Carry out what an action means for the session. -/
def perform (s : Session) : Action → Session
  | .enter state => { s with state }
  | .startTimer | .cancelTimer => { s with generation := s.generation + 1 }
  | .send _ | .emit _ => s

/-- Open a session at the other side's request. -/
def incoming : List Action :=
  [.enter .requestedByPeer, .startTimer, .emit .incomingRequest]

/-- Agree to the other side's request. -/
def agree : List Action :=
  [.cancelTimer, .enter .paired, .send true, .emit .successful]

/-- What a packet of pairing makes a session do. A second request from the other side
changes nothing. A request from a side that is trusted already means that it forgot;
trust ends and has to be given again, for an agreement sent without being asked for
would look like a request. -/
def onBit : PairingState → Bool → List Action
  | .requested, true => [.cancelTimer, .enter .paired, .emit .successful]
  | .requestedByPeer, true => []
  | .paired, true => [.enter .unpaired, .emit .unpaired] ++ incoming
  | .unpaired, true => incoming
  | .requested, false | .requestedByPeer, false =>
      [.cancelTimer, .enter .unpaired, .emit (.failed .rejectedByPeer)]
  | .paired, false => [.enter .unpaired, .emit .unpaired]
  | .unpaired, false => []

/-- What a request of this side makes a session do. -/
def onRequest (around : Surroundings) : PairingState → List Action
  | .paired => [.emit (.failed .alreadyPaired)]
  | .requested => []
  | .requestedByPeer => agree
  | .unpaired =>
      if around.present then
        if around.reachable then [.enter .requested, .startTimer, .send true]
        else [.emit (.failed .notReachable)]
      else []

/-- What an undelivered packet makes a session do. -/
def onSendFailed (reason : String) : PairingState → List Action
  | .unpaired => []
  | .paired =>
      [.enter .unpaired, .emit .unpaired, .emit (.failed (.sendFailed reason))]
  | .requested | .requestedByPeer =>
      [.cancelTimer, .enter .unpaired, .emit (.failed (.sendFailed reason))]

/-- What the timer of the current generation makes a session do. -/
def onTimeout : PairingState → List Action
  | .requested => [.enter .unpaired, .emit (.failed .timeout)]
  | .requestedByPeer => [.enter .unpaired, .send false, .emit (.failed .timeout)]
  | .unpaired | .paired => []

/-- What a session does about an input, in order. -/
def actions (s : Session) (around : Surroundings) : Input → List Action
  | .received p =>
      match ofPacket p with
      | .ok pair => onBit s.state pair
      | .error _ => []
  | .request => onRequest around s.state
  | .accept => if s.state = .requestedByPeer then agree else []
  | .cancel =>
      if s.state = .requested ∨ s.state = .requestedByPeer then
        [.cancelTimer, .enter .unpaired, .send false, .emit (.failed .cancelledByUser)]
      else []
  | .unpair =>
      [.cancelTimer, .enter .unpaired]
        ++ (if around.reachable then [.send false] else []) ++ [.emit .unpaired]
  | .sendFailed reason => onSendFailed reason s.state
  | .expired generation => if s.generation = generation then onTimeout s.state else []

/-- The session after an input. -/
def step (s : Session) (around : Surroundings) (i : Input) : Session :=
  (s.actions around i).foldl perform s

end Session

end Pairing

end Tether
