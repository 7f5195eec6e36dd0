import Tether.Fault
import Tether.Plugin.Info
import Tether.Text.Quoted

/-!
# The plugins there are

A registry holds one description for each key. What this side announces to its peers
is gathered from it.
-/

namespace Tether.Plugin

/-- The plugins there are, by key. -/
abbrev Registry := Dict Info

namespace Registry

/-- Add a plugin. A key that is taken stays with the plugin that has it. -/
def register (r : Registry) (i : Info) : Except Fault Registry :=
  if Dict.has r i.key then
    .error (.plugin ("Plugin factory '" ++ i.key ++ "' is already registered"))
  else .ok (Dict.put i.key i r)

/-- Take a plugin out. -/
def unregister (r : Registry) (key : String) : Option Info × Registry :=
  (Dict.find? r key, Dict.drop key r)

/-- Every packet type that some plugin receives. -/
def incoming (r : Registry) : Roll :=
  Roll.ofList (r.values.flatMap Info.incoming)

/-- Every packet type that some plugin sends. -/
def outgoing (r : Registry) : Roll :=
  Roll.ofList (r.values.flatMap Info.outgoing)

/-- The keys of the plugins that are of use with a peer. -/
def forCapabilities (r : Registry) (peerIncoming peerOutgoing : Roll) : Roll :=
  Dict.names (r.filter fun e => e.2.isSupportedBy peerIncoming peerOutgoing)

/-- The registry in diagnostics. -/
def shown (r : Registry) : String :=
  "PluginRegistry \x7b plugins: " ++ Text.quotedList r.names ++ " \x7d"

end Registry

end Tether.Plugin
