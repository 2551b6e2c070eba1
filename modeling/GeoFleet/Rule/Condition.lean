import GeoFleet.Decimal.Layout
import GeoFleet.Rule.Error
import GeoFleet.Snapshot
import GeoFleet.Text.Blank

/-! Threshold conditions: a view of a field, a comparison and a constant. A condition reads one key
of a snapshot; when the key is absent it does not hold. -/
namespace GeoFleet

/-- A comparison of a sample, on the left, with a threshold. -/
inductive Operator where
  | greater | less | greaterOrEqual | lessOrEqual | equal
  deriving DecidableEq, Repr

namespace Operator

def all : List Operator := [.greater, .less, .greaterOrEqual, .lessOrEqual, .equal]

def symbol : Operator → String
  | .greater => ">"
  | .less => "<"
  | .greaterOrEqual => ">="
  | .lessOrEqual => "<="
  | .equal => "=="

/-- Nothing holds of a sample that is no number. -/
def holds (op : Operator) (sample threshold : Float) : Bool :=
  match op with
  | .greater => threshold < sample
  | .less => sample < threshold
  | .greaterOrEqual => threshold ≤ sample
  | .lessOrEqual => sample ≤ threshold
  | .equal => sample == threshold

/-- Reads a symbol; blanks may surround it. -/
def parse (s : String) : Except DefinitionError Operator :=
  let text := String.ofList (Text.trim s.toList)
  match all.find? (·.symbol = text) with
  | some op => .ok op
  | none => .error (.unknownOperator text)

end Operator

inductive ValueMode where
  /-- The raw sample. -/
  | effective
  /-- The average of all earlier samples. -/
  | average
  /-- The deviation of the sample from that average, in percent of it. -/
  | deviationOnAverage
  /-- The deviation of the sample from the one before it, in percent of that. -/
  | deviationOnLast
  deriving DecidableEq, Repr

namespace ValueMode

def all : List ValueMode := [.effective, .average, .deviationOnAverage, .deviationOnLast]

def name : ValueMode → String
  | .effective => "effective-val"
  | .average => "avg-val"
  | .deviationOnAverage => "deviation-%-on-avg-val"
  | .deviationOnLast => "deviation-%-on-last-val"

/-- Every view but the raw sample is derived from earlier samples. -/
def isDerived (m : ValueMode) : Bool := m ≠ .effective

def key (m : ValueMode) (field : String) : String :=
  match m with
  | .effective => field
  | m => field ++ "-" ++ m.name

def parse (s : String) : Except DefinitionError ValueMode :=
  let text := String.ofList (Text.trim s.toList)
  match all.find? (·.name = text) with
  | some m => .ok m
  | none => .error (.unknownValueMode text)

end ValueMode

structure Condition where
  name : String
  field : String
  operator : Operator
  value : Float
  mode : ValueMode
  deriving DecidableEq

namespace Condition

def key (c : Condition) : String := c.mode.key c.field

def matched? (c : Condition) (s : Snapshot) : Option Float :=
  s[c.key]?.filter fun sample => c.operator.holds sample c.value

def toText (c : Condition) : String :=
  c.key ++ " " ++ c.operator.symbol ++ " " ++ Decimal.Layout.plain.text c.value

theorem matched?_eq_some_iff {c : Condition} {s : Snapshot} {v : Float} :
    c.matched? s = some v ↔ s[c.key]? = some v ∧ c.operator.holds v c.value = true := by
  simp [matched?, Option.filter_eq_some_iff]

end Condition

end GeoFleet
