import GeoFleet.Store.Basic

/-! Counting equal decisions in a row. The count starts at one, grows while a decision repeats, and
drops back to one when it changes; callers act once it reaches a threshold, so that single noisy
samples trigger nothing. -/
namespace GeoFleet

namespace Activity

/-- Counts go no further than this. -/
def countLimit : Nat := Nat.pow 2 32 - 1

/-- How often a decision was made in a row, after an earlier record. -/
def nextCount (previous : Option Activity) (d : Decision) : Nat :=
  match previous with
  | some p => if p.decision = d then min (p.count + 1) countLimit else 1
  | none => 1

/-- Counting starts over: the next decision to do something is a change. -/
def restarted (a : Activity) (now : Nat) : Activity :=
  { a with decision := .none, count := 1, updatedAt := now }

/-- The records before and after a decision was recorded. -/
structure Update where
  previous : Option Activity
  current : Activity

/-- Whether the decision differs from the one before, or there was none before. -/
def Update.changed (u : Update) : Bool := u.previous.all fun p => p.decision ≠ u.current.decision

end Activity

namespace Store

def recordDecision (s : Store) (target : String) (kind : Kind) (d : Decision) (now : Nat) :
    Activity.Update × Store :=
  let previous := s.activities[target]?
  let current : Activity := ⟨target, kind, d, Activity.nextCount previous d, now⟩
  (⟨previous, current⟩, s.putActivity current)

def restartCount (s : Store) (target : String) (now : Nat) : Option Activity × Store :=
  match s.activities[target]? with
  | none => (none, s)
  | some a => (some (a.restarted now), s.putActivity (a.restarted now))

end Store

end GeoFleet
