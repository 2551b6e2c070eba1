import Std.Data.ExtTreeMap
import Std.Data.ExtTreeSet

/-! Names linked to sets of names. A name without links has no entry, so equal relations are equal
values. -/
namespace GeoFleet

abbrev Links := Std.ExtTreeMap String (Std.ExtTreeSet String)

namespace Links

def linked (l : Links) (name : String) : Std.ExtTreeSet String := l[name]?.getD ∅

def contains (l : Links) (name other : String) : Bool := (l.linked name).contains other

def names (l : Links) (name : String) : List String := (l.linked name).toList

def link (l : Links) (name other : String) : Links :=
  Std.ExtTreeMap.insert l name ((l.linked name).insert other)

/-- Sets what is linked to a name; the empty set leaves no entry. -/
def put (l : Links) (name : String) (s : Std.ExtTreeSet String) : Links :=
  if s.isEmpty then Std.ExtTreeMap.erase l name else Std.ExtTreeMap.insert l name s

def unlink (l : Links) (name other : String) : Links :=
  if l.contains name other then l.put name ((l.linked name).erase other) else l

def clear (l : Links) (name : String) : Links := Std.ExtTreeMap.erase l name

end Links

end GeoFleet
