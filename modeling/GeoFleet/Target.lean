import GeoFleet.Host
import GeoFleet.Kind

/-! What rules are evaluated against: a host itself, or a workload that runs on one. -/
namespace GeoFleet

structure Target where
  id : String
  kind : Kind
  /-- The host that the target is, or runs on. -/
  host : Host
  service : Option String
  app : Option String
  deriving DecidableEq

namespace Target

/-- A host is a target under its public address. -/
def ofHost (h : Host) : Target := ⟨h.publicAddress, .host, h, none, none⟩

def ofContainer (id service : String) (app : Option String) (h : Host) : Target :=
  ⟨id, .container, h, some service, app⟩

end Target

end GeoFleet
