import GeoFleet.Catalog.Loading
import GeoFleet.Engine.Settings
import GeoFleet.Metric.Traffic
import GeoFleet.Policy
import GeoFleet.Store.Basic
import GeoFleet.Tracker

/-! The engine's state: what it decides by, the targets it evaluates each pass, every host it knows
of, and the store. A target that leaves takes its activity and its statistics with it. -/
namespace GeoFleet

structure Engine where
  catalog : Catalog
  settings : Settings
  policy : Config.Policy
  admission : Admission
  traffic : Traffic
  /-- The targets evaluated each pass, by id. -/
  registry : Std.ExtTreeMap String Target
  /-- Every known host by public address, running or standing by. -/
  inventory : Std.ExtTreeMap String Host
  store : Store

namespace Engine

/-- An engine without targets, hosts and traffic, over a store. -/
def new (catalog : Catalog) (settings : Settings) (policy : Config.Policy) (admission : Admission)
    (store : Store) : Engine :=
  { catalog, settings, policy, admission, traffic := .empty, registry := ∅, inventory := ∅, store }

/-- Starts to evaluate a target. Its host joins the inventory unless the address is known. -/
def register (e : Engine) (t : Target) : Engine :=
  { e with
    inventory := e.inventory.insertIfNew t.host.publicAddress t.host
    registry := e.registry.insert t.id t }

/-- Puts a host into the inventory; an active one is also evaluated. -/
def addHost (e : Engine) (h : Host) (active : Bool) : Engine :=
  let e := { e with inventory := e.inventory.insert h.publicAddress h }
  if active then e.register (.ofHost h) else e

/-- Drops what the store keeps about a target, except for the log. -/
def forget (s : Store) (id : String) : Store := ((s.deleteActivity id).2.deleteFieldStats id).2

def deregister (e : Engine) (id : String) : Option Target × Engine :=
  match e.registry[id]? with
  | none => (none, e)
  | some t => (some t, { e with registry := e.registry.erase id, store := forget e.store id })

def targets (e : Engine) : List Target := e.registry.values

def hosts (e : Engine) : List Host := e.inventory.values

def fleet (e : Engine) : List Host := (e.targets.filter (·.kind.isHost)).map (·.host)

def fleetSize (e : Engine) : Nat := e.fleet.length

def addContainer (e : Engine) (c : Config.ContainerEntry) : Except EngineError Engine :=
  match e.inventory[c.host]? with
  | none => .error (.unknownHost c.id c.host)
  | some h => .ok (e.register (.ofContainer c.id c.service c.app h))

/-- Builds an engine over a store: the catalog and the settings first, then hosts, containers and
locations. -/
def ofConfig (c : Config) (store : Store) : Except EngineError Engine := do
  let catalog ← (Catalog.load c).mapError .definition
  let settings ← Settings.ofConfig c
  let e := new catalog settings c.policy (.ofConfig c.placement settings.fetchTimeout) store
  let e := c.hosts.foldl (fun e h => e.addHost h.host !h.standby) e
  let e ← c.containers.foldlM addContainer e
  return { e with
    traffic := c.locations.foldl (fun t l => t.registerLocation l.key l.coordinate) e.traffic }

end Engine

end GeoFleet
