import GeoFleet.Host
import GeoFleet.Metric.Source

/-! Admission of a workload to a host: whether the host still has headroom once the workload's
footprint is taken. Without both memory samples, or without any memory, nothing is admitted. -/
namespace GeoFleet

namespace Admission

/-- The memory use after adding a footprint, in percent of the total. -/
def predictedUsage (total available : Option Float) (footprint : Float) : Option Float :=
  match total.filter (0.0 < ·), available with
  | some total, some available => some ((1.0 - (available - footprint) / total) * 100.0)
  | _, _ => none

def admits (total available : Option Float) (footprint maxPercent : Float) : Bool :=
  (predictedUsage total available footprint).any (· < maxPercent)

end Admission

/-- How the memory of a host is sampled, and how much of it may be used. -/
structure Admission where
  totalQuery : String
  availableQuery : String
  maxPercent : Float
  timeout : Duration

def Admission.isAdmissible (a : Admission) (s : Source) (footprint : Nat) (h : Host) : Bool :=
  admits (s.fetch a.timeout h.publicAddress a.totalQuery)
    (s.fetch a.timeout h.publicAddress a.availableQuery) (Float.ofNat footprint) a.maxPercent

end GeoFleet
