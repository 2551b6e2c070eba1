import GeoFleet.Text.Blank
import GeoFleet.Decimal.Digits

/-! Written durations: a count with a unit, such as `500ms`, `30s`, `5m` or `2h`. A bare count
is in seconds. An interval is a duration that paces or bounds work, so it is not zero. -/
namespace GeoFleet

structure Duration where
  millis : Nat
  deriving DecidableEq, Repr

namespace Duration

inductive Unit where
  | millisecond | second | minute | hour
  deriving DecidableEq, Repr

def Unit.millis : Unit → Nat
  | .millisecond => 1
  | .second => 1000
  | .minute => 60000
  | .hour => 3600000

/-- Takes the unit off the end of a text. The last letter decides, except that an `s` after an
`m` belongs to it; a text without a unit counts seconds. -/
def splitUnit (cs : List Char) : List Char × Unit :=
  match cs.reverse with
  | 's' :: 'm' :: r => (r.reverse, .millisecond)
  | 's' :: r => (r.reverse, .second)
  | 'm' :: r => (r.reverse, .minute)
  | 'h' :: r => (r.reverse, .hour)
  | _ => (cs, .second)

/-- Reads a duration; blanks may surround it, and none may stand inside. The count has 64 bits and the span no
bound, so minutes and hours that come to more seconds than 64 bits hold are read here as what they say. -/
def parse? (s : String) : Option Duration :=
  let (count, unit) := splitUnit (Text.trim s.toList)
  (Decimal.word? count).map fun n => ⟨n * unit.millis⟩

def interval? (s : String) : Option Duration := (parse? s).filter (·.millis ≠ 0)

def seconds (d : Duration) : Nat := d.millis / 1000

def subsecond (d : Duration) : Nat := d.millis % 1000

theorem interval?_eq_some_iff {s : String} {d : Duration} :
    interval? s = some d ↔ parse? s = some d ∧ d.millis ≠ 0 := by
  simp [interval?, Option.filter_eq_some_iff]

end Duration

end GeoFleet
