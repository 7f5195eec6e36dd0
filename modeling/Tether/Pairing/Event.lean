import Tether.Text.Quoted

/-!
# Events of pairing

What pairing tells those who watch it. A request that came to nothing says why; the
other events need no more than their name.
-/

namespace Tether

/-- Why an attempt to pair came to nothing. -/
inductive PairingFailure where
  /-- The other side did not answer in time. -/
  | timeout
  /-- The other side declined, or took its request back. -/
  | rejectedByPeer
  /-- This side declined, or took its request back. -/
  | cancelledByUser
  /-- There was no link to ask over. -/
  | notReachable
  /-- There was nothing to ask for. -/
  | alreadyPaired
  /-- A packet of the attempt was not delivered. -/
  | sendFailed (reason : String)
deriving DecidableEq, Repr

namespace PairingFailure

/-- The text for people. -/
def message : PairingFailure → String
  | timeout => "Timed out"
  | rejectedByPeer => "Canceled by other peer"
  | cancelledByUser => "Canceled by user"
  | notReachable => "Device not reachable"
  | alreadyPaired => "Already paired"
  | sendFailed reason => "Could not send package: " ++ reason

/-- The text for diagnostics. -/
def shown : PairingFailure → String
  | timeout => "Timeout"
  | rejectedByPeer => "RejectedByPeer"
  | cancelledByUser => "CancelledByUser"
  | notReachable => "NotReachable"
  | alreadyPaired => "AlreadyPaired"
  | sendFailed reason => "SendFailed(" ++ Text.quoted reason ++ ")"

end PairingFailure

/-- An event of pairing. -/
inductive PairingEvent where
  /-- The other side asks to pair and waits for an answer. -/
  | incomingRequest
  /-- Both sides agreed: the other side is trusted from now on. -/
  | successful
  | failed (reason : PairingFailure)
  /-- Trust ended, here or there. -/
  | unpaired
deriving DecidableEq, Repr

namespace PairingEvent

/-- Whether the event makes the other side trusted. -/
def isSuccessful : PairingEvent → Bool
  | successful => true
  | _ => false

/-- Whether the event ends an attempt that came to nothing. -/
def isFailure : PairingEvent → Bool
  | failed _ => true
  | _ => false

/-- The text for diagnostics. -/
def shown : PairingEvent → String
  | incomingRequest => "IncomingRequest"
  | successful => "Successful"
  | failed reason => "Failed(" ++ reason.shown ++ ")"
  | unpaired => "Unpaired"

end PairingEvent

end Tether
