import GeoFleet.Decimal.Layout
import GeoFleet.Magnitude

/-! Points on the globe, and the geometry that placement and traffic need: great-circle distance
and the weighted centre of several points. -/
namespace GeoFleet

/-- A labelled point; both angles are in degrees. -/
structure Coordinate where
  label : String
  latitude : Float
  longitude : Float
  deriving DecidableEq

namespace Coordinate

def toText (c : Coordinate) : String :=
  c.label ++ " (" ++ Decimal.fixed 6 c.latitude ++ ", " ++ Decimal.fixed 6 c.longitude ++ ")"

def earthRadius : Float := 6371.0

def pi : Float := 3.14159265358979323846264338327950288

def radians (degrees : Float) : Float := degrees * (pi / 180.0)

def degrees (radians : Float) : Float := radians * (180.0 / pi)

def square (x : Float) : Float := x * x

def haversine (a b : Coordinate) : Float :=
  square (radians (b.latitude - a.latitude) / 2.0).sin
    + (radians a.latitude).cos * (radians b.latitude).cos
      * square (radians (b.longitude - a.longitude) / 2.0).sin

/-- The great-circle distance in kilometres. Rounding may take the root above one, which stands for
opposite points; so does a root that is no number. -/
def distance (a b : Coordinate) : Float :=
  2.0 * earthRadius * (Magnitude.lesser (haversine a b).sqrt 1.0).asin

structure Moment where
  x : Float
  y : Float
  z : Float
  weight : Float

/-- Adds a point of the unit sphere with its weight; a weight that is not positive adds nothing. -/
def Moment.add (m : Moment) (c : Coordinate) (w : Float) : Moment :=
  if w ≤ 0.0 then m
  else
    let lat := radians c.latitude
    let lon := radians c.longitude
    { x := m.x + lat.cos * lon.cos * w
      y := m.y + lat.cos * lon.sin * w
      z := m.z + lat.sin * w
      weight := m.weight + w }

def Moment.ofPoints (points : List (Coordinate × Float)) : Moment :=
  points.foldl (fun m (c, w) => m.add c w) ⟨0.0, 0.0, 0.0, 0.0⟩

/-- Closer to the centre of the globe than this, a mean has no direction. -/
def negligible : Float := 1e-12

/-- The point of the sphere under the weighted mean, unless there is no weight or the points
cancel out. -/
def centroid? (label : String) (points : List (Coordinate × Float)) : Option Coordinate :=
  let m := Moment.ofPoints points
  if m.weight ≤ 0.0 then none
  else
    let x := m.x / m.weight
    let y := m.y / m.weight
    let z := m.z / m.weight
    let equatorial := (x * x + y * y).sqrt
    if equatorial < negligible ∧ z.abs < negligible then none
    else some ⟨label, degrees (Float.atan2 z equatorial), degrees (Float.atan2 y x)⟩

end Coordinate

end GeoFleet
