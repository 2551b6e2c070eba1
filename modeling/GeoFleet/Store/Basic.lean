import GeoFleet.Store.Record
import GeoFleet.Store.Table

/-! The state that outlives a pass: activities under their targets, statistics of fields, and the
log of actions. Every operation is one transaction, and transactions are assumed to work: a database that
fails to begin, read, write or commit one is left out, and with it the ways in which an operation could end
halfway through because of it. -/
namespace GeoFleet

abbrev Activities := Std.ExtTreeMap String Activity

structure Store where
  activities : Activities
  fieldStats : Table FieldStats
  decisions : Table DecisionRecord

namespace Store

def empty : Store := ⟨∅, ∅, ∅⟩

/-- A file is a store when it is empty; no other text is one. -/
def ofText (text : String) : Except StoreError Store :=
  if text = "" then .ok empty else .error (.unopened .damaged)

def putActivity (s : Store) (a : Activity) : Store :=
  { s with activities := s.activities.insert a.target a }

def listActivities (s : Store) : List Activity := s.activities.values

/-- Removes an activity; the answer says whether there was one. -/
def deleteActivity (s : Store) (target : String) : Bool × Store :=
  (s.activities.contains target, { s with activities := s.activities.erase target })

def fieldStats? (s : Store) (target field : String) : Except StoreError (Option FieldStats) :=
  s.fieldStats.read? (Key.fieldStats target field)

def listFieldStats (s : Store) (target : String) : Except StoreError (List FieldStats) :=
  s.fieldStats.scan (Key.stem target) 0

/-- Takes a sample into the statistics of a field, and answers them as they were before. -/
def foldSample (s : Store) (target field : String) (value : Float) (now : Nat) :
    Except StoreError (Option FieldStats × Store) := do
  let key := Key.fieldStats target field
  let previous ← s.fieldStats.read? key
  let next := match previous with
    | some stats => stats.fold value now
    | none => .first target field value now
  return (previous, { s with fieldStats := s.fieldStats.insert key next.stored? })

/-- Drops the statistics of a target, and answers how many there were. -/
def deleteFieldStats (s : Store) (target : String) : Nat × Store :=
  let keys := s.fieldStats.keysUnder (Key.stem target)
  (keys.length, { s with fieldStats := s.fieldStats.eraseKeys keys })

def putDecision (s : Store) (r : DecisionRecord) : Store :=
  { s with decisions := s.decisions.insert r.key r.stored? }

/-- The logged actions on a target, oldest first; a limit of zero is none. -/
def listDecisionsOf (s : Store) (target : String) (limit : Nat) :
    Except StoreError (List DecisionRecord) :=
  s.decisions.scan (Key.stem target) limit

def listDecisions (s : Store) : Except StoreError (List DecisionRecord) :=
  s.decisions.scan "" 0

end Store

end GeoFleet
