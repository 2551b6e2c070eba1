import GeoFleet.Config.Basic
import GeoFleet.Toml.Printing

/-! A configuration written as a TOML text. Every field is written except what is absent. -/
namespace GeoFleet.Config

abbrev Entries := List (String × Document)

def entry (key : String) (d : Document) : Entries := [(key, d)]

def present (key : String) (f : α → Document) (x : Option α) : Entries :=
  x.elim [] fun v => [(key, f v)]

def texts (ss : List String) : Document := .list (ss.map .text)

def tables (f : α → Entries) (xs : List α) : Document := .list (xs.map fun x => .table (f x))

def Monitoring.entries (m : Monitoring) : Entries :=
  [("interval", .text m.interval), ("fetch_timeout", .text m.fetchTimeout),
    ("concurrency", .integer m.concurrency)]

def Policy.entries (p : Policy) : Entries :=
  [("start_after", .integer p.startAfter), ("stop_after", .integer p.stopAfter),
    ("replicate_after", .integer p.replicateAfter), ("migrate_after", .integer p.migrateAfter),
    ("min_hosts", .integer p.minHosts), ("max_hosts", .integer p.maxHosts)]

def Placement.entries (p : Placement) : Entries :=
  [("max_memory_percent", .float p.maxMemoryPercent),
    ("default_footprint_bytes", .integer p.defaultFootprint),
    ("total_memory_query", .text p.totalMemoryQuery),
    ("available_memory_query", .text p.availableMemoryQuery)]

def fieldEntries (f : Field) : Entries := entry "name" (.text f.name) ++ present "query" .text f.query

def ConditionEntry.entries (c : ConditionEntry) : Entries :=
  [("name", .text c.name), ("field", .text c.field), ("operator", .text c.operator),
    ("value", .float c.value)] ++ present "value_mode" .text c.valueMode

def RuleEntry.entries (r : RuleEntry) : Entries :=
  [("name", .text r.name), ("kind", .text r.kind.name), ("priority", .integer r.priority),
    ("decision", .text r.decision.name), ("generic", .boolean r.generic),
    ("conditions", texts r.conditions), ("targets", texts r.targets)]

def HostEntry.entries (h : HostEntry) : Entries :=
  present "username" .text h.username ++ entry "public_address" (.text h.publicAddress)
    ++ present "private_address" .text h.privateAddress ++ entry "region" (.text h.region.name)
    ++ present "latitude" .float h.latitude ++ present "longitude" .float h.longitude
    ++ present "label" .text h.label ++ entry "standby" (.boolean h.standby)

def ContainerEntry.entries (c : ContainerEntry) : Entries :=
  [("id", .text c.id), ("service", .text c.service)] ++ present "app" .text c.app
    ++ entry "host" (.text c.host)

def ServiceEntry.entries (s : ServiceEntry) : Entries :=
  entry "name" (.text s.name)
    ++ present "expected_memory_bytes" (fun (n : Nat) => .integer n) s.expectedMemory

def LocationEntry.entries (l : LocationEntry) : Entries :=
  [("key", .text l.key), ("latitude", .float l.latitude), ("longitude", .float l.longitude)]
    ++ present "label" .text l.label

def entries (c : Config) : Entries :=
  [("monitoring", .table c.monitoring.entries), ("policy", .table c.policy.entries),
    ("placement", .table c.placement.entries)]
    ++ present "prometheus" (fun (p : Prometheus) => .table [("address", .text p.address)]) c.prometheus
    ++ [("fields", tables fieldEntries c.fields),
      ("conditions", tables ConditionEntry.entries c.conditions),
      ("rules", tables RuleEntry.entries c.rules),
      ("hosts", tables HostEntry.entries c.hosts),
      ("containers", tables ContainerEntry.entries c.containers),
      ("services", tables ServiceEntry.entries c.services),
      ("locations", tables LocationEntry.entries c.locations)]

/-- The TOML text of a configuration; there is none when a number in it has no TOML form. -/
def toToml? (c : Config) : Option String := Toml.print? c.entries

end GeoFleet.Config
