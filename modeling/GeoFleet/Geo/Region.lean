import GeoFleet.Geo.Coordinate

/-! Coarse world regions. Each one has a representative point, and every point on the globe belongs
to the region whose point is nearest. -/
namespace GeoFleet

inductive Region where
  | africa | asia | europe | middleEast | northAmerica | oceania | southAmerica
  deriving DecidableEq, Repr

namespace Region

def all : List Region :=
  [.africa, .asia, .europe, .middleEast, .northAmerica, .oceania, .southAmerica]

def name : Region → String
  | .africa => "AFRICA"
  | .asia => "ASIA"
  | .europe => "EUROPE"
  | .middleEast => "MIDDLE_EAST"
  | .northAmerica => "NORTH_AMERICA"
  | .oceania => "OCEANIA"
  | .southAmerica => "SOUTH_AMERICA"

def ofName? (s : String) : Option Region := all.find? (·.name = s)

def ordinal (r : Region) : Nat := all.idxOf r

def coordinate (r : Region) : Coordinate :=
  match r with
  | .africa => ⟨r.name, -8.783195, 34.508523⟩
  | .asia => ⟨r.name, 34.047863, 100.619655⟩
  | .europe => ⟨r.name, 54.525961, 15.255119⟩
  | .middleEast => ⟨r.name, 29.298528, 42.550960⟩
  | .northAmerica => ⟨r.name, 54.525961, -105.255119⟩
  | .oceania => ⟨r.name, -22.735052, 140.018783⟩
  | .southAmerica => ⟨r.name, -8.783195, -55.491477⟩

/-- Keeps the nearest region so far; at equal distance the earlier one stays. -/
def nearer (c : Coordinate) (best : Region × Float) (r : Region) : Region × Float :=
  let d := c.distance r.coordinate
  if d < best.2 then (r, d) else best

def closest (c : Coordinate) : Region := (all.foldl (nearer c) (.africa, 1.0 / 0.0)).1

theorem mem_all (r : Region) : r ∈ all := by cases r <;> decide

end Region

end GeoFleet
