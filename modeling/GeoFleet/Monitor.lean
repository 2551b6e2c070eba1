import GeoFleet.Rule.Condition
import GeoFleet.Store.Basic

/-! Derived views of fields. Before a sample joins the statistics of its field, its snapshot gets the
average of the earlier samples and the deviations from that average and from the sample before. A
first sample has no views, and nothing deviates from zero. -/
namespace GeoFleet.Store

/-- The deviation of a value from a base, in percent of the base. -/
def deviation (value base : Float) : Float := (value - base) / base * 100.0

def addViews (s : Snapshot) (field : String) (value : Float) (previous : FieldStats) : Snapshot :=
  let average := previous.average
  let s := s.insert (ValueMode.average.key field) average
  let s := if average == 0.0 then s
    else s.insert (ValueMode.deviationOnAverage.key field) (deviation value average)
  if previous.last == 0.0 then s
  else s.insert (ValueMode.deviationOnLast.key field) (deviation value previous.last)

/-- Takes samples in one by one. Samples before one that fails stay in the statistics. -/
def observeSamples (target : String) (now : Nat) :
    List (String × Float) → Snapshot → Store → Except StoreError Snapshot × Store
  | [], extended, s => (.ok extended, s)
  | (field, value) :: rest, extended, s =>
    match s.foldSample target field value now with
    | .error e => (.error e, s)
    | .ok (none, s) => observeSamples target now rest extended s
    | .ok (some previous, s) =>
      observeSamples target now rest (addViews extended field value previous) s

/-- Takes the samples of a snapshot in, in the order of its fields, and answers the snapshot with
the views of all of them. -/
def observe (s : Store) (target : String) (raw : Snapshot) (now : Nat) :
    Except StoreError Snapshot × Store :=
  observeSamples target now raw.toList raw s

end GeoFleet.Store
