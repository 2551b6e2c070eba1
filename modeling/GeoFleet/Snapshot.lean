import Std.Data.ExtTreeMap

/-! Field values sampled for one target in one pass. A key names a field, or a derived view of one. -/
namespace GeoFleet

abbrev Snapshot := Std.ExtTreeMap String Float

end GeoFleet
