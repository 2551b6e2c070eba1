import GeoFleet.Config.Basic
import GeoFleet.Duration
import GeoFleet.Placement.Selection
import GeoFleet.Rule.Error
import GeoFleet.Store.Table

/-! Settings of the engine, taken from a configuration, and the errors of the engine. -/
namespace GeoFleet

inductive EngineError where
  | store (e : StoreError)
  | definition (e : DefinitionError)
  | unknownTarget (id : String)
  | invalidFetchTimeout (text : String)
  | unknownHost (container host : String)
  deriving DecidableEq, Repr

def EngineError.message : EngineError → String
  | .store e => e.message
  | .definition e => e.message
  | .unknownTarget id => "unknown target: " ++ id
  | .invalidFetchTimeout text =>
    "invalid configuration: invalid monitoring.fetch_timeout: " ++ text
  | .unknownHost container host =>
    "invalid configuration: container " ++ container ++ " runs on unknown host " ++ host

structure Settings where
  fetchTimeout : Duration
  concurrency : Nat
  defaultFootprint : Nat
  footprints : Std.ExtTreeMap String Nat

namespace Settings

def default : Settings := ⟨⟨5000⟩, 16, 256 * 1024 * 1024, ∅⟩

/-- Of several services with one name the last that states a footprint counts. -/
def footprintsOf (services : List Config.ServiceEntry) : Std.ExtTreeMap String Nat :=
  services.foldl (fun m s => s.expectedMemory.elim m (m.insert s.name ·)) ∅

def ofConfig (c : Config) : Except EngineError Settings :=
  match Duration.interval? c.monitoring.fetchTimeout with
  | none => .error (.invalidFetchTimeout c.monitoring.fetchTimeout)
  | some timeout =>
    .ok ⟨timeout, c.monitoring.concurrency, c.placement.defaultFootprint, footprintsOf c.services⟩

def footprintOf (s : Settings) (service : Option String) : Nat :=
  (service.bind fun name => s.footprints[name]?).getD s.defaultFootprint

end Settings

def Admission.ofConfig (p : Config.Placement) (timeout : Duration) : Admission :=
  ⟨p.totalMemoryQuery, p.availableMemoryQuery, p.maxMemoryPercent, timeout⟩

end GeoFleet
