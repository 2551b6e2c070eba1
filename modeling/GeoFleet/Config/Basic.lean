import GeoFleet.Rule.Basic
import GeoFleet.Target

/-! The configuration of a fleet as it is written down: how it is monitored, when decisions become
actions, where new workloads may land, and the lists of everything known by name. Entries are plain
records; whether they fit together is asked when a catalog or an engine is built from them. -/
namespace GeoFleet

namespace Config

structure Monitoring where
  interval : String
  fetchTimeout : String
  concurrency : Nat

/-- How many equal decisions in a row are needed before acting, and the bounds of the fleet. -/
structure Policy where
  startAfter : Nat
  stopAfter : Nat
  replicateAfter : Nat
  migrateAfter : Nat
  minHosts : Nat
  /-- Zero means that there is no upper bound. -/
  maxHosts : Nat

structure Placement where
  maxMemoryPercent : Float
  defaultFootprint : Nat
  totalMemoryQuery : String
  availableMemoryQuery : String

structure Prometheus where
  address : String

structure ConditionEntry where
  name : String
  field : String
  operator : String
  value : Float
  /-- The raw sample when omitted. -/
  valueMode : Option String

structure RuleEntry where
  name : String
  kind : Kind
  priority : Int
  decision : Decision
  generic : Bool
  conditions : List String
  targets : List String

structure HostEntry where
  username : Option String
  publicAddress : String
  privateAddress : Option String
  region : Region
  latitude : Option Float
  longitude : Option Float
  label : Option String
  /-- Standby hosts can take workloads, but do not run until a started host lands on them. -/
  standby : Bool

structure ContainerEntry where
  id : String
  service : String
  app : Option String
  host : String

structure ServiceEntry where
  name : String
  expectedMemory : Option Nat

structure LocationEntry where
  key : String
  latitude : Float
  longitude : Float
  label : Option String

def Monitoring.default : Monitoring := ⟨"30s", "5s", 16⟩

def Policy.default : Policy := ⟨3, 3, 3, 3, 1, 0⟩

def Placement.default : Placement :=
  { maxMemoryPercent := 90.0
    defaultFootprint := 256 * 1024 * 1024
    totalMemoryQuery := "node_memory_MemTotal_bytes\x7binstance=~\"$target.*\"\x7d"
    availableMemoryQuery := "node_memory_MemAvailable_bytes\x7binstance=~\"$target.*\"\x7d" }

/-- A host has a coordinate when both its angles are given; its address labels it by default. -/
def HostEntry.host (h : HostEntry) : Host :=
  { username := h.username
    publicAddress := h.publicAddress
    privateAddress := h.privateAddress
    coordinate := match h.latitude, h.longitude with
      | some latitude, some longitude => some ⟨h.label.getD h.publicAddress, latitude, longitude⟩
      | _, _ => none
    region := h.region }

def LocationEntry.coordinate (l : LocationEntry) : Coordinate :=
  ⟨l.label.getD l.key, l.latitude, l.longitude⟩

end Config

structure Config where
  monitoring : Config.Monitoring
  policy : Config.Policy
  placement : Config.Placement
  prometheus : Option Config.Prometheus
  fields : List Field
  conditions : List Config.ConditionEntry
  rules : List Config.RuleEntry
  hosts : List Config.HostEntry
  containers : List Config.ContainerEntry
  services : List Config.ServiceEntry
  locations : List Config.LocationEntry

namespace Config

def empty : Config := ⟨.default, .default, .default, none, [], [], [], [], [], [], []⟩

/-- The memory that a service is expected to need: what its first entry states, or the default. -/
def footprintOf (c : Config) (service : Option String) : Nat :=
  let entry := service.bind fun name => c.services.find? (·.name = name)
  (entry.bind (·.expectedMemory)).getD c.placement.defaultFootprint

def scaffold : Config :=
  { empty with
    prometheus := some ⟨"127.0.0.1:9090"⟩
    fields := [
      ⟨"cpu-%", some ("100 - (avg(irate(node_cpu_seconds_total\x7bmode=\"idle\",instance=~\"$target.*\"\x7d"
        ++ "[1m])) * 100)")⟩,
      ⟨"ram-%", some ("100 - (node_memory_MemAvailable_bytes\x7binstance=~\"$target.*\"\x7d / "
        ++ "node_memory_MemTotal_bytes\x7binstance=~\"$target.*\"\x7d * 100)")⟩]
    conditions := [
      ⟨"cpu-over-80", "cpu-%", ">", 80.0, none⟩,
      ⟨"cpu-under-10", "cpu-%", "<", 10.0, some "avg-val"⟩]
    rules := [
      ⟨"host-overloaded", .host, 1, .start, true, ["cpu-over-80"], []⟩,
      ⟨"host-idle", .host, 2, .stop, true, ["cpu-under-10"], []⟩] }

end Config

end GeoFleet
