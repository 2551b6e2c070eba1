import GeoFleet.Config.Basic
import GeoFleet.Json.Reading
import GeoFleet.Toml.Reading

/-! Reading a configuration from a document. Entries that nobody asks for are ignored, and sections
may be left out. A record may also be written as the list of its values, in the order of its
fields; what may be left out in a table may not always be left out in a list. An instant is a record
too, of which no field is asked for. -/
namespace GeoFleet.Config

/-- The formats of a configuration differ in what they take for a name given as a table with one
entry, and in whether a list of values may go on after the last field. -/
inductive Format where
  | json | toml
  deriving DecidableEq, Repr

/-- The value of a named choice that carries nothing. -/
def Format.isUnit : Format → Document → Bool
  | .json, .null => true
  | .toml, .list [] => true
  | .toml, .table [] => true
  | _, _ => false

/-- The values of a record under the names of its fields, from a table or from a list. -/
structure Record where
  format : Format
  fromList : Bool
  entries : List (String × Document)

namespace Record

def of? (format : Format) (fields : List String) : Document → Option Record
  | .table entries => some ⟨format, false, entries⟩
  | .list items =>
    if format = .json ∧ fields.length < items.length then none
    else some ⟨format, true, fields.zip items⟩
  | .instant => some ⟨format, false, []⟩
  | _ => none

def required? (r : Record) (read : Document → Option α) (field : String) : Option α :=
  (r.entries.lookup field).bind read

/-- A value that may be absent from a table; an explicit null is absent too. -/
def optional? (r : Record) (read : Document → Option α) (field : String) : Option (Option α) :=
  match r.entries.lookup field with
  | none => if r.fromList then none else some none
  | some .null => some none
  | some d => (read d).map some

def default? (r : Record) (read : Document → Option α) (value : α) (field : String) : Option α :=
  match r.entries.lookup field with
  | none => some value
  | some d => read d

end Record

def text? : Document → Option String
  | .text s => some s
  | _ => none

def boolean? : Document → Option Bool
  | .boolean b => some b
  | _ => none

/-- A whole number is fine where a floating point number is asked for, but not the reverse. -/
def number? : Document → Option Float
  | .float x => some x
  | .integer n => some (if n < 0 then -Float.ofNat n.natAbs else Float.ofNat n.natAbs)
  | _ => none

/-- An integer within bounds, the upper one excluded. -/
def integer? (low high : Int) : Document → Option Int
  | .integer n => if low ≤ n ∧ n < high then some n else none
  | _ => none

def count? (bits : Nat) (d : Document) : Option Nat := (integer? 0 (Int.ofNat (Nat.pow 2 bits)) d).map Int.toNat

def list? (read : Document → Option α) : Document → Option (List α)
  | .list items => items.mapM read
  | _ => none

def choice? (format : Format) (ofName : String → Option α) : Document → Option α
  | .text s => ofName s
  | .table [(s, d)] => if format.isUnit d then ofName s else none
  | _ => none

def monitoring? (format : Format) (d : Document) : Option Monitoring := do
  let r ← Record.of? format ["interval", "fetch_timeout", "concurrency"] d
  let base := Monitoring.default
  return {
    interval := ← r.default? text? base.interval "interval"
    fetchTimeout := ← r.default? text? base.fetchTimeout "fetch_timeout"
    concurrency := ← r.default? (count? 64) base.concurrency "concurrency" }

def policy? (format : Format) (d : Document) : Option Policy := do
  let r ← Record.of? format
    ["start_after", "stop_after", "replicate_after", "migrate_after", "min_hosts", "max_hosts"] d
  let base := Policy.default
  return {
    startAfter := ← r.default? (count? 32) base.startAfter "start_after"
    stopAfter := ← r.default? (count? 32) base.stopAfter "stop_after"
    replicateAfter := ← r.default? (count? 32) base.replicateAfter "replicate_after"
    migrateAfter := ← r.default? (count? 32) base.migrateAfter "migrate_after"
    minHosts := ← r.default? (count? 32) base.minHosts "min_hosts"
    maxHosts := ← r.default? (count? 32) base.maxHosts "max_hosts" }

def placement? (format : Format) (d : Document) : Option Placement := do
  let r ← Record.of? format ["max_memory_percent", "default_footprint_bytes", "total_memory_query",
    "available_memory_query"] d
  let base := Placement.default
  return {
    maxMemoryPercent := ← r.default? number? base.maxMemoryPercent "max_memory_percent"
    defaultFootprint := ← r.default? (count? 64) base.defaultFootprint "default_footprint_bytes"
    totalMemoryQuery := ← r.default? text? base.totalMemoryQuery "total_memory_query"
    availableMemoryQuery := ← r.default? text? base.availableMemoryQuery "available_memory_query" }

def prometheus? (format : Format) (d : Document) : Option Prometheus := do
  let r ← Record.of? format ["address"] d
  return { address := ← r.required? text? "address" }

def field? (format : Format) (d : Document) : Option Field := do
  let r ← Record.of? format ["name", "query"] d
  return { name := ← r.required? text? "name", query := ← r.optional? text? "query" }

def condition? (format : Format) (d : Document) : Option ConditionEntry := do
  let r ← Record.of? format ["name", "field", "operator", "value", "value_mode"] d
  return {
    name := ← r.required? text? "name"
    field := ← r.required? text? "field"
    operator := ← r.required? text? "operator"
    value := ← r.required? number? "value"
    valueMode := ← r.optional? text? "value_mode" }

def rule? (format : Format) (d : Document) : Option RuleEntry := do
  let r ← Record.of? format
    ["name", "kind", "priority", "decision", "generic", "conditions", "targets"] d
  return {
    name := ← r.required? text? "name"
    kind := ← r.required? (choice? format Kind.ofName?) "kind"
    priority := ← r.required? (integer? (-Int.ofNat (Nat.pow 2 31)) (Int.ofNat (Nat.pow 2 31))) "priority"
    decision := ← r.required? (choice? format Decision.ofName?) "decision"
    generic := ← r.default? boolean? false "generic"
    conditions := ← r.default? (list? text?) [] "conditions"
    targets := ← r.default? (list? text?) [] "targets" }

def host? (format : Format) (d : Document) : Option HostEntry := do
  let r ← Record.of? format ["username", "public_address", "private_address", "region", "latitude",
    "longitude", "label", "standby"] d
  return {
    username := ← r.optional? text? "username"
    publicAddress := ← r.required? text? "public_address"
    privateAddress := ← r.optional? text? "private_address"
    region := ← r.required? (choice? format Region.ofName?) "region"
    latitude := ← r.optional? number? "latitude"
    longitude := ← r.optional? number? "longitude"
    label := ← r.optional? text? "label"
    standby := ← r.default? boolean? false "standby" }

def container? (format : Format) (d : Document) : Option ContainerEntry := do
  let r ← Record.of? format ["id", "service", "app", "host"] d
  return {
    id := ← r.required? text? "id"
    service := ← r.required? text? "service"
    app := ← r.optional? text? "app"
    host := ← r.required? text? "host" }

def service? (format : Format) (d : Document) : Option ServiceEntry := do
  let r ← Record.of? format ["name", "expected_memory_bytes"] d
  return {
    name := ← r.required? text? "name"
    expectedMemory := ← r.optional? (count? 64) "expected_memory_bytes" }

def location? (format : Format) (d : Document) : Option LocationEntry := do
  let r ← Record.of? format ["key", "latitude", "longitude", "label"] d
  return {
    key := ← r.required? text? "key"
    latitude := ← r.required? number? "latitude"
    longitude := ← r.required? number? "longitude"
    label := ← r.optional? text? "label" }

/-- An entry that may be null, under a default of absence. -/
def nullable? (read : Document → Option α) : Document → Option (Option α)
  | .null => some none
  | d => (read d).map some

def ofDocument? (format : Format) (d : Document) : Option Config := do
  let r ← Record.of? format ["monitoring", "policy", "placement", "prometheus", "fields",
    "conditions", "rules", "hosts", "containers", "services", "locations"] d
  return {
    monitoring := ← r.default? (monitoring? format) .default "monitoring"
    policy := ← r.default? (policy? format) .default "policy"
    placement := ← r.default? (placement? format) .default "placement"
    prometheus := ← r.default? (nullable? (prometheus? format)) none "prometheus"
    fields := ← r.default? (list? (field? format)) [] "fields"
    conditions := ← r.default? (list? (condition? format)) [] "conditions"
    rules := ← r.default? (list? (rule? format)) [] "rules"
    hosts := ← r.default? (list? (host? format)) [] "hosts"
    containers := ← r.default? (list? (container? format)) [] "containers"
    services := ← r.default? (list? (service? format)) [] "services"
    locations := ← r.default? (list? (location? format)) [] "locations" }

def ofToml? (text : String) : Option Config := (Toml.document? text).bind (ofDocument? .toml)

end GeoFleet.Config
