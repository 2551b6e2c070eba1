import GeoFleet.Duration
import GeoFleet.Snapshot

/-! Metric sources and fetches under a timeout. A value that is missing, for whatever reason, is an
absent field and never zero. -/
namespace GeoFleet

/-- What a source answers to a query about a target, and how many milliseconds its answers about a
target take. All queries about a target take the same time: a source whose answers about one target come at
different times, some before a timeout and some after it, is none of these. -/
structure Source where
  answer : String → String → Option Float
  delay : String → Option Nat

namespace Source

def silent : Source := ⟨fun _ _ => none, fun _ => none⟩

def set (s : Source) (target query : String) (value : Option Float) : Source :=
  { s with answer := fun t q => if t = target ∧ q = query then value else s.answer t q }

def setDelay (s : Source) (target : String) (millis : Nat) : Source :=
  { s with delay := fun t => if t = target then some millis else s.delay t }

/-- Whether answers about a target come before the timeout. -/
def arrives (s : Source) (timeout : Duration) (target : String) : Bool :=
  (s.delay target).all (· < timeout.millis)

def fetch (s : Source) (timeout : Duration) (target query : String) : Option Float :=
  if s.arrives timeout target then s.answer target query else none

structure Request where
  field : String
  query : String

def answers (s : Source) (timeout : Duration) (target : String) (rs : List Request) :
    List (String × Option Float) :=
  rs.map fun r => (r.field, s.fetch timeout target r.query)

/-- Puts answers together as they come in; those without a value are left out. -/
def gather (as : List (String × Option Float)) : Snapshot :=
  as.foldl (fun s (field, value) => value.elim s (s.insert field ·)) ∅

/-- Samples every field; a field that comes too late never disturbs the others. -/
def fetchAll (s : Source) (timeout : Duration) (target : String) (rs : List Request) : Snapshot :=
  gather (s.answers timeout target rs)

end Source

end GeoFleet
