import Tether.Device.Plugins
import Tether.Record

/-!
# The status of a device

All that can be asked about a device, in one record: what it said, how far pairing has
come, which plugins are at work and why, where its packets go, and what settings keep.
-/

namespace Tether.Status

/-- A string of settings. -/
def stored (s : Scene) (key : String) : Json :=
  Record.orNull Json.str (s.env.store.getString? s.device.id key)

/-- The comparison of versions as a sign. -/
def sign : Ordering → Int
  | .lt => -1
  | .eq => 0
  | .gt => 1

/-- A plugin of a device: whether it is on, what settings say of that, and the number of
its instance, at work or at all. -/
def plugin (site : Site) (number : Plugin.Instance → Nat) (s : Scene) (key : String) : Json :=
  let roster := s.device.roster
  let shown (i : Option Plugin.Instance) : Json := Record.orNull (fun i => Record.nat (number i)) i
  .arr
    [.bool (s.isEnabled site key),
      Record.orNull Json.bool (s.env.store.getBool? s.device.id key),
      shown (roster.plugin? key), shown (roster.pluginAtAll? key)]

/-- The status of a device, with its instances of plugins numbered. -/
def device (site : Site) (number : Plugin.Instance → Nat) (s : Scene) : Json :=
  let d := s.device
  let state := d.session.state
  Record.ofFields
    [("id", .str d.id), ("name", .str d.details.name), ("type", .str d.details.kind.word),
      ("version", .num (.int d.details.version)),
      ("cmp", .num (.int (sign d.details.compareVersion))), ("pairing", .str state.word),
      ("flags", .arr
        [.bool (state == .paired), .bool (state == .requested), .bool (state == .requestedByPeer),
          .bool d.isReachable]),
      ("links", Record.nat d.links.length), ("supported", Record.strings d.supported),
      ("loaded", Record.strings d.roster.loaded.names),
      ("without", Record.strings d.roster.withoutPermissions.names),
      ("without_optional", Record.strings d.roster.withoutOptional.names),
      ("plugins", .obj (site.registry.names.map fun key => (key, plugin site number s key))),
      ("table", .obj (d.roster.table.map fun (type, entries) =>
        (type, Record.strings (entries.map fun e => e.holder.key)))),
      ("trusted", .bool (s.env.store.isTrusted d.id)),
      ("stored", Record.ofFields
        [("certificate", stored s Store.certificateKey), ("deviceName", stored s Store.nameKey),
          ("deviceType", stored s Store.kindKey)])]

end Tether.Status
