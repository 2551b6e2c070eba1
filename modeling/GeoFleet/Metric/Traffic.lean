import GeoFleet.Geo.Coordinate
import Std.Data.ExtTreeMap

/-! Where the requests of each service come from. Requests are counted for a service and for each
location key they are attributed to; counts stop at their limit instead of wrapping. The share of a
key is its part of the service's total, and shares weigh the registered locations to a middle
point. -/
namespace GeoFleet

/-- Counts go no further than this. -/
def Traffic.countLimit : Nat := Nat.pow 2 64 - 1

def Traffic.plus (a b : Nat) : Nat := min (a + b) Traffic.countLimit

structure ServiceTraffic where
  total : Nat
  byLocation : Std.ExtTreeMap String Nat

namespace ServiceTraffic

def empty : ServiceTraffic := ⟨0, ∅⟩

def countOf (t : ServiceTraffic) (key : String) : Nat := t.byLocation[key]?.getD 0

/-- Counts requests for each key listed, and once for the total. -/
def record (t : ServiceTraffic) (count : Nat) (keys : List String) : ServiceTraffic :=
  { total := Traffic.plus t.total count
    byLocation := keys.foldl (fun m k => m.insert k (Traffic.plus (m[k]?.getD 0) count)) t.byLocation }

/-- The share of a key, zero without traffic. -/
def share (t : ServiceTraffic) (key : String) : Float :=
  if t.total = 0 then 0.0 else Float.ofNat (t.countOf key) / Float.ofNat t.total

def shares (t : ServiceTraffic) : List (String × Float) :=
  t.byLocation.keys.map fun key => (key, t.share key)

end ServiceTraffic

structure Traffic where
  services : Std.ExtTreeMap String ServiceTraffic
  locations : Std.ExtTreeMap String Coordinate

namespace Traffic

def empty : Traffic := ⟨∅, ∅⟩

def registerLocation (t : Traffic) (key : String) (c : Coordinate) : Traffic :=
  { t with locations := t.locations.insert key c }

def of (t : Traffic) (service : String) : ServiceTraffic := t.services[service]?.getD .empty

/-- Attributes requests of a service to location keys. No requests leave no trace. -/
def record (t : Traffic) (service : String) (count : Nat) (keys : List String) : Traffic :=
  if count = 0 then t
  else { t with services := t.services.insert service ((t.of service).record count keys) }

def clear (t : Traffic) (service : String) : Traffic :=
  { t with services := t.services.erase service }

/-- The centre of the registered locations that a service was requested from. -/
def middlePoint? (t : Traffic) (service : String) : Option Coordinate :=
  Coordinate.centroid? service <|
    (t.of service).shares.filterMap fun (key, w) => t.locations[key]?.map (·, w)

/-- A larger share comes first, and of equal shares the smaller key. -/
def ranking (a b : String × Float) : Ordering :=
  (Magnitude.compareTotal b.2 a.2).then (compare a.1 b.1)

/-- The keys that hold at least a percentage of the traffic of a service. -/
def dominant (t : Traffic) (service : String) (percentage : Float) : List (String × Float) :=
  ((t.of service).shares.filter fun (_, w) => percentage ≤ w * 100.0).mergeSort
    fun a b => (ranking a b).isLE

def serviceNames (t : Traffic) : List String := t.services.keys

end Traffic

end GeoFleet
