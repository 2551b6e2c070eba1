import GeoFleet.Decimal.Digits
import GeoFleet.Json.Printing
import GeoFleet.Json.Reading
import GeoFleet.Kind
import GeoFleet.Magnitude
import GeoFleet.Snapshot

/-! Records that the store keeps, their keys, and what is left of them after they were written and
read again. A composite key is the target, a separator that no target contains, and the rest. -/
namespace GeoFleet

/-- The last decision for a target, and how many passes in a row made it. -/
structure Activity where
  target : String
  kind : Kind
  decision : Decision
  count : Nat
  /-- Milliseconds since the epoch. -/
  updatedAt : Nat
  deriving DecidableEq, Repr

structure FieldStats where
  target : String
  field : String
  min : Float
  max : Float
  sum : Float
  last : Float
  count : Nat
  updatedAt : Nat
  deriving DecidableEq

structure DecisionRecord where
  target : String
  kind : Kind
  decision : Decision
  rule : Option String
  values : Snapshot
  /-- The public address of the landing host, if the action needed one. -/
  placement : Option String
  epoch : Nat

namespace Key

def separator : String := "\x00"

def stem (target : String) : String := target ++ separator

def fieldStats (target field : String) : String := stem target ++ field

/-- Twenty digits hold any time of 64 bits, so that keys are in the order of time. -/
def decision (target : String) (epoch : Nat) : String :=
  stem target ++ String.ofList (Decimal.padded 20 epoch)

end Key

/-- A number after it was written as JSON and read again; what is not finite does not come back. -/
def reread? (x : Float) : Option Float :=
  match Json.document? (Json.print (.float x)) with
  | some (.float y) => some y
  | _ => none

namespace FieldStats

def first (target field : String) (value : Float) (now : Nat) : FieldStats :=
  ⟨target, field, value, value, value, value, 1, now⟩

/-- The count has no bound here; it stands for a word of 64 bits while a field has fewer than `2 ^ 64` samples. -/
def fold (s : FieldStats) (value : Float) (now : Nat) : FieldStats :=
  { s with
    min := Magnitude.lesser s.min value
    max := Magnitude.greater s.max value
    sum := s.sum + value
    last := value
    count := s.count + 1
    updatedAt := now }

def average (s : FieldStats) : Float :=
  if s.count = 0 then 0.0 else s.sum / Float.ofNat s.count

def key (s : FieldStats) : String := Key.fieldStats s.target s.field

/-- The record as it is read back, if it can be. -/
def stored? (s : FieldStats) : Option FieldStats := do
  return { s with
    min := ← reread? s.min
    max := ← reread? s.max
    sum := ← reread? s.sum
    last := ← reread? s.last }

end FieldStats

namespace DecisionRecord

def key (r : DecisionRecord) : String := Key.decision r.target r.epoch

def stored? (r : DecisionRecord) : Option DecisionRecord := do
  let values ← r.values.toList.mapM fun (key, x) => (reread? x).map (key, ·)
  return { r with values := Std.ExtTreeMap.ofList values }

end DecisionRecord

end GeoFleet
