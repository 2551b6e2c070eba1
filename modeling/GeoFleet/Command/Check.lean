import GeoFleet.Catalog.Loading
import GeoFleet.Command.Failure
import GeoFleet.Config.Reading

/-! Checking a configuration: its catalog must load, and both durations of its monitoring must be
above zero. The report counts what it defines. -/
namespace GeoFleet.Config

def ofFile (d : Disk) (path : String) : Except Failure Config := do
  let text ← (d.read path).mapError .file
  match ofToml? text with
  | some c => return c
  | none => .error .malformed

def checkDuration (key text : String) : Except Failure Unit :=
  if (Duration.interval? text).isSome then .ok () else .error (.invalidDuration key text)

def checkDurations (c : Config) : Except Failure Unit := do
  checkDuration "monitoring.interval" c.monitoring.interval
  checkDuration "monitoring.fetch_timeout" c.monitoring.fetchTimeout

def count (n : Nat) : String := String.ofList (Decimal.digits n)

def metricsText (c : Config) : String :=
  match c.prometheus with
  | some p => "prometheus at " ++ p.address
  | none => "none configured, every field reads as absent"

def report (c : Config) (path : String) (catalog : Catalog) : List String :=
  let standby := (c.hosts.filter (·.standby)).length
  [ path ++ " is valid"
  , "  fields:     " ++ count catalog.fields.size
  , "  rules:      " ++ count catalog.rules.size
  , "  hosts:      " ++ count c.hosts.length ++ " (" ++ count standby ++ " standby)"
  , "  containers: " ++ count c.containers.length
  , "  locations:  " ++ count c.locations.length
  , "  metrics:    " ++ c.metricsText ]

def check (c : Config) (path : String) : Except Failure (List String) := do
  let catalog ← (Catalog.load c).mapError .definition
  c.checkDurations
  return c.report path catalog

end GeoFleet.Config
