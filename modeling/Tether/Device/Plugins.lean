import Tether.Device.Basic

/-!
# Which plugins of a device are at work

A plugin that is of use with a device is at work if the device is paired, or the plugin
listens to any device, if there is a link, and if the plugin is switched on. This is
decided anew whenever one of these may have changed, and whoever listens is told.
-/

namespace Tether.Scene

/-- Whether a plugin is switched on for the device: by a setting, or else by its
default. -/
def isEnabled (site : Site) (s : Scene) (key : String) : Bool :=
  ((s.env.store.getBool? s.device.id key).or
    ((Dict.find? site.registry key).map fun i => i.enabledByDefault)).getD false

/-- Whether a plugin should be at work. -/
def shouldEnable (site : Site) (s : Scene) (key : String) (i : Plugin.Info) : Bool :=
  (s.device.isPaired || i.listensToUnpaired) && s.device.isReachable && s.isEnabled site key

/-- The plugins that come into question. -/
def candidates (site : Site) (s : Scene) : List Plugin.Candidate :=
  s.device.supported.filterMap fun key =>
    (Dict.find? site.registry key).map fun i => ⟨key, i, s.shouldEnable site key i⟩

/-- Tell whoever listens that plugins may have changed. -/
def tellListeners (s : Scene) : Scene :=
  s.record (s.device.listeners.map fun l => .pluginsChanged l s.device.id s.glimpse)

/-- Decide which plugins are at work. -/
def reload (site : Site) (s : Scene) : Scene :=
  let (roster, env) := s.env.call fun shop =>
    s.device.roster.reload shop s.owner (s.candidates site)
  tellListeners { device := { s.device with roster }, env }

/-- Switch a plugin on or off. -/
def setPlugin (site : Site) (s : Scene) (key : String) (enabled : Bool) :
    Except Fault Unit × Scene :=
  match s.env.ledger.write (.putBool s.device.id key enabled) with
  | (.error fault, ledger) => (.error fault, { s with env.ledger := ledger })
  | (.ok (), ledger) => (.ok (), { s with env.ledger := ledger }.reload site)

/-- Finish every plugin. -/
def shutdownPlugins (s : Scene) : Scene :=
  let ((), env) := s.env.call fun shop => ((), s.device.roster.clear shop)
  { device := { s.device with roster := {} }, env }

end Tether.Scene
