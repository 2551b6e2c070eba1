import GeoFleet.Rule.Candidate

/-! Firing rules. A rule fires when it has conditions and every one of them holds of the same
snapshot. -/
namespace GeoFleet

/-- The values that the conditions of a rule matched so far, and their sum. -/
structure Match where
  values : Snapshot
  score : Score

namespace Match

def empty : Match := ⟨∅, .sum 0.0⟩

def add? (s : Snapshot) (m : Match) (c : Condition) : Option Match :=
  (c.matched? s).map fun v => ⟨m.values.insert c.key v, m.score.add v⟩

end Match

namespace ResolvedRule

def fire? (r : ResolvedRule) (target : String) (s : Snapshot) : Option Candidate :=
  if r.conditions = [] then none
  else (r.conditions.foldlM (Match.add? s) Match.empty).map fun m =>
    { target, decision := r.decision, rule := r.name, values := m.values, priority := r.priority
      score := m.score }

end ResolvedRule

def fireAll (rules : List ResolvedRule) (target : String) (s : Snapshot) : List Candidate :=
  rules.filterMap fun r => r.fire? target s

end GeoFleet
