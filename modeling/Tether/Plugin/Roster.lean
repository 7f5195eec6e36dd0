import Tether.Plugin.Shop
import Tether.Text.Quoted

/-!
# The plugins of a device

A roster holds the instances of one device: those at work, those that lack what they
cannot work without, and, of those at work, the ones that lack something they can work
without. Packets find their way by a table from types to instances, which is made from
scratch by every reload and put in place at its end, so that no packet meets a table
half made.

A reload is given every plugin that comes into question, and whether it should be at
work. An instance at work that still should be is kept. One that is missing is made,
asked, and started; one that is not wanted is finished. What was not brought up at all
is stale and goes too.
-/

namespace Tether.Plugin

/-- An instance that is given the packets of a type. -/
structure Entry where
  holder : Instance
  listensToUnpaired : Bool
deriving DecidableEq, Repr

/-- A plugin that comes into question. -/
structure Candidate where
  maker : String
  info : Info
  /-- Whether the plugin should be at work. -/
  enable : Bool
deriving DecidableEq, Repr

/-- The plugins of a device. -/
structure Roster where
  loaded : Dict Instance := []
  withoutPermissions : Dict Instance := []
  withoutOptional : Dict Instance := []
  table : Dict (List Entry) := []
deriving DecidableEq, Repr

/-- A roster during a reload, with the table that is being made. -/
structure Reload where
  roster : Roster
  shop : Shop
  table : Dict (List Entry) := []
deriving DecidableEq, Repr

namespace Reload

/-- Enter an instance among those that lack something they can work without, or strike
it. -/
def checkOptional (r : Reload) (key : String) (i : Instance) : Reload :=
  let change := if (r.shop.conduct i).hasOptional then Dict.drop key else Dict.put key i
  { r with roster.withoutOptional := change r.roster.withoutOptional }

/-- Finish an instance. -/
def finish (r : Reload) (i : Instance) : Reload :=
  { r with shop := r.shop.finish i }

/-- Ask an instance at work whether it can stay at work. One that lost what it cannot
work without is finished and kept. -/
def keep (r : Reload) (key : String) (i : Instance) : Bool × Reload :=
  let c := r.shop.conduct i
  if !c.compatible then (false, r)
  else if !c.hasRequired then
    let r := { r with roster.loaded := Dict.drop key r.roster.loaded }.finish i
    (false,
      { r with roster.withoutPermissions := Dict.put key i r.roster.withoutPermissions })
  else (true, r.checkOptional key i)

/-- Start a new instance that has what it cannot work without. -/
def start (r : Reload) (key : String) (i : Instance) : Bool × Reload :=
  let r := { r with roster.withoutPermissions := Dict.drop key r.roster.withoutPermissions }
  let r := r.checkOptional key i
  let (outcome, shop) := r.shop.start i
  let r := { r with shop }
  let withoutOptional := Dict.drop key r.roster.withoutOptional
  match outcome with
  | .ok => (true, { r with roster.loaded := Dict.put key i r.roster.loaded })
  | .fail => (false, { r.finish i with roster.withoutOptional := withoutOptional })
  | .crash => (false, { r with roster.withoutOptional := withoutOptional })

/-- Make a new instance and put it to work, if it can be. -/
def make (r : Reload) (owner : Owner) (c : Candidate) : Bool × Reload :=
  match r.shop.create c.maker c.info.key owner with
  | (none, shop) => (false, { r with shop })
  | (some i, shop) =>
      let r := { r with shop }
      let conduct := shop.conduct i
      if !conduct.compatible then (false, r)
      else if !conduct.hasRequired then
        (false,
          { r with
            roster.withoutPermissions := Dict.put c.info.key i r.roster.withoutPermissions })
      else r.start c.info.key i

/-- See that a plugin is at work, and answer whether it is. -/
def add (r : Reload) (owner : Owner) (c : Candidate) : Bool × Reload :=
  match Dict.find? r.roster.loaded c.info.key with
  | some i => r.keep c.info.key i
  | none => r.make owner c

/-- See that a plugin is not at work. -/
def remove (r : Reload) (key : String) : Reload :=
  match Dict.find? r.roster.loaded key with
  | some i => { r with roster.loaded := Dict.drop key r.roster.loaded }.finish i
  | none => r

/-- Forget the instances that are not at work. -/
def forget (r : Reload) (key : String) : Reload :=
  { r with
    roster.withoutPermissions := Dict.drop key r.roster.withoutPermissions
    roster.withoutOptional := Dict.drop key r.roster.withoutOptional }

/-- Enter an instance into a table under the types it receives. -/
def enlist (i : Instance) (info : Info) (table : Dict (List Entry)) : Dict (List Entry) :=
  info.incoming.foldl
    (fun t type =>
      Dict.put type ((Dict.find? t type).getD [] ++ [⟨i, info.listensToUnpaired⟩]) t)
    table

/-- Decide about a plugin. -/
def consider (owner : Owner) (r : Reload) (c : Candidate) : Reload :=
  let (active, r) := if c.enable then r.add owner c else (false, r)
  if active then
    match Dict.find? r.roster.loaded c.info.key with
    | some i => { r with table := enlist i c.info r.table }
    | none => r
  else
    let r := r.remove c.info.key
    if c.enable then r else r.forget c.info.key

/-- Drop a plugin that was not brought up. -/
def dismiss (r : Reload) (key : String) : Reload :=
  (r.remove key).forget key

/-- The keys with an instance that were not brought up. -/
def stale (r : Reload) (considered : List String) : List String :=
  (r.roster.loaded.names ++ r.roster.withoutPermissions.names).filter fun key =>
    !considered.contains key

end Reload

namespace Roster

/-- Decide anew which plugins are at work. -/
def reload (roster : Roster) (shop : Shop) (owner : Owner) (candidates : List Candidate) :
    Roster × Shop :=
  let r := candidates.foldl (Reload.consider owner) ⟨roster, shop, []⟩
  let r := (r.stale (candidates.map fun c => c.info.key)).foldl Reload.dismiss r
  ({ r.roster with table := r.table }, r.shop)

/-- Finish every plugin. -/
def clear (roster : Roster) (shop : Shop) : Shop :=
  (roster.loaded.names.foldl Reload.remove ⟨roster, shop, []⟩).shop

/-- The instances that are given the packets of a type. -/
def handlers (r : Roster) (type : String) : List Entry :=
  (Dict.find? r.table type).getD []

/-- The instances that are given a packet of a type from a device that is or is not
paired. -/
def recipients (r : Roster) (type : String) (paired : Bool) : List Instance :=
  ((r.handlers type).filter fun e => paired || e.listensToUnpaired).map Entry.holder

/-- The keys of the instances that are given the packets of a type. -/
def keysFor (r : Roster) (type : String) : List String :=
  (r.handlers type).map fun e => e.holder.key

/-- The instance at work under a key. -/
def plugin? (r : Roster) (key : String) : Option Instance :=
  Dict.find? r.loaded key

/-- The instance under a key, at work or lacking what it cannot work without. -/
def pluginAtAll? (r : Roster) (key : String) : Option Instance :=
  (r.plugin? key).or (Dict.find? r.withoutPermissions key)

/-- The roster of a device in diagnostics. -/
def shown (r : Roster) (device : String) : String :=
  "DevicePlugins \x7b device_id: " ++ Text.quoted device ++ ", packet_types: "
    ++ Text.quotedList r.table.names ++ " \x7d"

end Roster

end Tether.Plugin
