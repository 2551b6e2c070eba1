import GeoFleet.Placement.Admission
import Std.Data.ExtTreeMap

/-! Selecting hosts for a workload: all admissible hosts by region, or the one nearest to a point. -/
namespace GeoFleet

/-- No host of a region can take a footprint. -/
structure NoCapableHost where
  region : Region
  footprint : Nat
  deriving DecidableEq, Repr

def NoCapableHost.message (e : NoCapableHost) : String :=
  "no capable host in " ++ e.region.name ++ " for "
    ++ String.ofList (Decimal.digits e.footprint) ++ " bytes"

namespace Admission

/-- Puts checked hosts together as their checks finish. Of hosts with one address the first stays,
and the result is in the order of addresses. -/
def gather (checked : List (Host × Bool)) : List Host :=
  (checked.foldl (fun m (h, admitted) => if admitted then m.insertIfNew h.publicAddress h else m)
    (∅ : Std.ExtTreeMap String Host)).values

def checks (a : Admission) (s : Source) (footprint : Nat) (candidates : List Host) :
    List (Host × Bool) :=
  candidates.map fun h => (h, a.isAdmissible s footprint h)

def admissible (a : Admission) (s : Source) (footprint : Nat) (candidates : List Host) : List Host :=
  gather (a.checks s footprint candidates)

/-- The admissible hosts of each region asked for, in the order of regions. -/
def broadcast (a : Admission) (s : Source) (footprint : Nat) (regions : List Region)
    (hosts : List Host) : List (Region × List Host) :=
  let wanted := Region.all.filter regions.contains
  let admitted := a.admissible s footprint (hosts.filter fun h => wanted.contains h.region)
  wanted.map fun r => (r, admitted.filter (·.region = r))

def eligible (region : Region) (excluded : List Host) (h : Host) : Bool :=
  h.region = region && h.coordinate.isSome && !excluded.any (h.Same ·)

/-- Nearer hosts come first, and of equally near ones the lower address. -/
def proximity (a b : Float × Host) : Ordering :=
  (Magnitude.compareTotal a.1 b.1).then (a.2.order b.2)

def nearer (a b : Float × Host) : Float × Host := if proximity b a = .lt then b else a

def nearestOf? : List (Float × Host) → Option (Float × Host)
  | [] => none
  | h :: hs => some (hs.foldl nearer h)

def measured (point : Coordinate) (hosts : List Host) : List (Float × Host) :=
  hosts.filterMap fun h => h.coordinate.map fun c => (c.distance point, h)

/-- The admissible host of a region that is nearest to a point. -/
def nearest (a : Admission) (s : Source) (footprint : Nat) (region : Region) (point : Coordinate)
    (hosts excluded : List Host) : Except NoCapableHost Host :=
  let admitted := a.admissible s footprint (hosts.filter (eligible region excluded))
  match nearestOf? (measured point admitted) with
  | some (_, h) => .ok h
  | none => .error ⟨region, footprint⟩

/-- The admissible host nearest to the representative point of its region. -/
def nearestInRegion (a : Admission) (s : Source) (footprint : Nat) (region : Region)
    (hosts : List Host) : Except NoCapableHost Host :=
  a.nearest s footprint region region.coordinate hosts []

end Admission

end GeoFleet
