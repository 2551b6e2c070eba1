import GeoFleet.Geo.Region

/-! Hosts of the fleet. A host is known by its public address alone: hosts that share one are the
same host, whatever else is written about them. -/
namespace GeoFleet

structure Host where
  username : Option String
  publicAddress : String
  privateAddress : Option String
  coordinate : Option Coordinate
  region : Region
  deriving DecidableEq

namespace Host

/-- Address, after the user if there is one, and before the private address if there is one. -/
def toText (h : Host) : String :=
  (h.username.elim "" (· ++ "@")) ++ h.publicAddress ++ (h.privateAddress.elim "" ("/" ++ ·))

def Same (a b : Host) : Prop := a.publicAddress = b.publicAddress

instance : DecidableRel Same := fun a b => inferInstanceAs (Decidable (a.publicAddress = b.publicAddress))

def order (a b : Host) : Ordering := compare a.publicAddress b.publicAddress

theorem order_eq_iff {a b : Host} : order a b = .eq ↔ a.Same b := Std.LawfulEqOrd.compare_eq_iff_eq

end Host

end GeoFleet
