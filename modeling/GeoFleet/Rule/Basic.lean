import GeoFleet.Rule.Condition

/-! Fields and rules. A rule names its conditions, so that a threshold can be tuned without touching
the rules that share it; a resolved rule carries their current definitions. -/
namespace GeoFleet

/-- A named signal, with the query that samples it. Without a query its name is the query. -/
structure Field where
  name : String
  query : Option String
  deriving DecidableEq, Repr

structure Rule where
  name : String
  kind : Kind
  /-- A lower number takes precedence. -/
  priority : Int
  decision : Decision
  /-- The rule applies to every target of its kind, not only to associated ones. -/
  generic : Bool
  conditions : List String
  deriving DecidableEq, Repr

structure ResolvedRule where
  name : String
  kind : Kind
  priority : Int
  decision : Decision
  conditions : List Condition
  deriving DecidableEq

def ResolvedRule.fields (r : ResolvedRule) : List String := r.conditions.map (·.field)

end GeoFleet
