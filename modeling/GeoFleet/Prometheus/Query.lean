import GeoFleet.Metric.Source
import GeoFleet.Url.Basic

/-! Queries to a Prometheus server: the path that asks for the value of an expression now. -/
namespace GeoFleet.Prometheus

/-- The address of the server is none. -/
inductive AddressError where
  | invalid
  deriving DecidableEq, Repr

def AddressError.message : AddressError → String
  | .invalid => "invalid prometheus address"

/-- The path and query of an instant query to a server. The address may bring a path of its own. -/
def queryPath (address expression : String) : Except AddressError String :=
  match Url.ofHttp? ("//" ++ address ++ "/api/v1/query") with
  | some u => .ok (u.addPair "query" expression).target
  | none => .error .invalid

/-- A server that no connection can be made to. Nothing can be learnt from it. -/
def unreachable : Source := .silent

end GeoFleet.Prometheus
