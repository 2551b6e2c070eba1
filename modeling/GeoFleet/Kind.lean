/-! What rules and records speak about, and the actions that a rule can recommend. Host rules may
only start and stop hosts; moving and copying is for workloads. -/
namespace GeoFleet

inductive Kind where
  | host | service | container | app
  deriving DecidableEq, Repr

inductive Decision where
  | none | start | stop | replicate | migrate
  deriving DecidableEq, Repr

namespace Kind

def all : List Kind := [.host, .service, .container, .app]

def name : Kind → String
  | .host => "HOST"
  | .service => "SERVICE"
  | .container => "CONTAINER"
  | .app => "APP"

def ofName? (s : String) : Option Kind := all.find? (·.name = s)

/-- Hosts are evaluated as hosts; the other kinds are workloads. -/
def isHost (k : Kind) : Bool := k = .host

end Kind

namespace Decision

def all : List Decision := [.none, .start, .stop, .replicate, .migrate]

def name : Decision → String
  | .none => "NONE"
  | .start => "START"
  | .stop => "STOP"
  | .replicate => "REPLICATE"
  | .migrate => "MIGRATE"

def ofName? (s : String) : Option Decision := all.find? (·.name = s)

def ordinal : Decision → Nat
  | .none => 0
  | .start => 1
  | .stop => 2
  | .replicate => 3
  | .migrate => 4

def isValidFor (d : Decision) : Kind → Bool
  | .host => match d with
    | .none | .start | .stop => true
    | .replicate | .migrate => false
  | .service | .container | .app => true

theorem ordinal_injective {a b : Decision} (h : a.ordinal = b.ordinal) : a = b := by
  cases a <;> cases b <;> simp_all [ordinal]

end Decision

end GeoFleet
