import GeoFleet.Engine.Evaluation

/-! Events of the log. An event has a fixed message; what differs from one to the next is in its
details, which are integers and texts. -/
namespace GeoFleet

inductive Level where
  | debug | info | warning
  deriving DecidableEq, Repr

def Level.name : Level → String
  | .debug => "DEBUG"
  | .info => "INFO"
  | .warning => "WARN"

structure Event where
  level : Level
  message : String
  details : List (String × Document)

namespace Event

def toJson (e : Event) : String :=
  Json.print (.table [("level", .text e.level.name),
    ("fields", .table (("message", .text e.message) :: e.details))])

def detailText : String × Document → String
  | (key, .text s) => " " ++ key ++ "=" ++ s
  | (key, d) => " " ++ key ++ "=" ++ Json.print d

def toText (e : Event) : String :=
  e.level.name ++ " " ++ e.message ++ String.join (e.details.map detailText)

end Event

def Snapshot.toJson (s : Snapshot) : String :=
  Json.print (.table (s.toList.map fun (key, x) => (key, .float x)))

/-- The event that hands an action over to whoever carries it out. Without a rule it has a dash, and
without a landing host an empty text. -/
def Action.event (a : Action) : Event :=
  ⟨.info, "action dispatched", [
    ("target_id", .text a.target.id),
    ("kind", .text a.target.kind.name),
    ("decision", .text a.decision.name),
    ("rule", .text (a.rule.getD "-")),
    ("placement", .text (a.placement.elim "" Host.toText)),
    ("count", .integer a.count),
    ("values", .text a.values.toJson)]⟩

end GeoFleet
