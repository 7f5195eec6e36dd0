import Tether.Fault

/-!
# Who is told how a packet fared

Every packet that is sent has someone who is told the outcome once, and the progress of
its payload before that. For the packets of pairing this is the session of the device:
it has to know about a request that never arrived.
-/

namespace Tether

/-- What is told about a packet under way. -/
inductive Report where
  /-- So much of the payload is through, in hundredths. -/
  | progress (percent : Nat)
  | success
  | failure (fault : Fault)
deriving DecidableEq, Repr

/-- Whether the report is the last one about its packet. -/
def Report.isFinal : Report → Bool
  | progress _ => false
  | success | failure _ => true

/-- Who is told. -/
inductive Callback where
  /-- Someone with a name, who may not want to hear of progress. -/
  | named (name : String) (quiet : Bool)
  /-- Nobody but the log, for a packet of a type. -/
  | log (type : String)
  /-- The pairing session of a device. -/
  | pairing (device : Nat)
deriving DecidableEq, Repr

/-- How much a line of the log matters. -/
inductive Severity where
  | debug
  | warn
  | error
deriving DecidableEq, Repr

/-- The word for a severity. -/
def Severity.word : Severity → String
  | debug => "debug"
  | warn => "warn"
  | error => "error"

/-- What the log says of a packet of a type. A failure that may pass is a warning. -/
def Report.logLine? (type : String) : Report → Option (Severity × String)
  | progress _ => none
  | success => some (.debug, "Sent " ++ type ++ " packet")
  | failure fault =>
      if fault.recoverable then
        some (.warn, "Failed to send " ++ type ++ " packet: " ++ fault.message)
      else some (.error, "Could not send " ++ type ++ " packet: " ++ fault.message)

end Tether
