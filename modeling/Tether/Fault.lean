/-!
# Faults

Everything that can go wrong between two devices, by cause. A fault has one text
for people, and one property the rest of the library asks about: whether the same
attempt may succeed later.
-/

namespace Tether

/-- What went wrong. -/
inductive Fault where
  /-- Reading or writing a file or a socket failed. -/
  | io (detail : String)
  /-- A JSON document could not be read. -/
  | json (detail : String)
  /-- A configuration text could not be read. -/
  | toml (detail : String)
  /-- A link failed to deliver a packet. -/
  | transport (detail : String)
  /-- The device has no link. -/
  | notConnected
  /-- No device has this id. -/
  | deviceNotFound (id : String)
  /-- A packet is not what it should be. -/
  | invalidPacket (detail : String)
  /-- A plugin failed. -/
  | plugin (detail : String)
  /-- A bounded wait elapsed. -/
  | timeout (detail : String)
  /-- A configuration value is missing or out of range. -/
  | configuration (detail : String)
deriving DecidableEq, Repr

namespace Fault

/-- The text of a fault. -/
def message : Fault → String
  | io detail => "IO error: " ++ detail
  | json detail => "JSON error: " ++ detail
  | toml detail => "Config parse error: " ++ detail
  | transport detail => "Transport error: " ++ detail
  | notConnected => "Device not connected"
  | deviceNotFound id => "Device not found: " ++ id
  | invalidPacket detail => "Invalid packet: " ++ detail
  | plugin detail => "Plugin error: " ++ detail
  | timeout detail => "Timeout: " ++ detail
  | configuration detail => "Configuration error: " ++ detail

/-- Whether the same attempt may succeed later. -/
def recoverable : Fault → Bool
  | transport _ | timeout _ | notConnected | io _ => true
  | _ => false

/-- How an operating system classes a failure, as far as links care. -/
inductive IoKind where
  | timedOut
  | connectionReset
  | connectionAborted
  | brokenPipe
  | notConnected
  | other
deriving DecidableEq, Repr

/-- The kind with a name; a name without meaning here is any other kind. -/
def IoKind.ofWord : String → IoKind
  | "TimedOut" => timedOut
  | "ConnectionReset" => connectionReset
  | "ConnectionAborted" => connectionAborted
  | "BrokenPipe" => brokenPipe
  | "NotConnected" => notConnected
  | _ => other

/-- Whether the failure interrupted a connection. -/
def IoKind.interrupts : IoKind → Bool
  | connectionReset | connectionAborted | brokenPipe | notConnected => true
  | _ => false

/-- The fault of a failed read or write on a link. An interrupted connection counts
as a failed link, so that the next link is tried. -/
def ofIo (kind : IoKind) (detail scene : String) : Fault :=
  if kind = .timedOut then timeout (scene ++ ": " ++ detail)
  else if kind.interrupts then
    transport (scene ++ ": connection interrupted (" ++ detail ++ ")")
  else io detail

end Fault

end Tether
