import GeoFleet.Magnitude
import GeoFleet.Rule.Basic

/-! Candidates: what a rule proposes when all its conditions hold of one snapshot. They are in a
total order, by urgency of the decision, precedence of the rule, the sum of the matched values, and
then by names, so that the choice among them never depends on how they were listed. -/
namespace GeoFleet

/-- A sum of matched values, as the bits of a double. Opposite infinities leave a sum without a value,
and it stays so; its bits have a sign, which sets it apart from what is no number otherwise. -/
structure Score where
  bits : UInt64
  deriving DecidableEq

namespace Score

def sum (x : Float) : Score := ⟨x.toBits⟩

/-- What opposite infinities add up to. -/
def undefined : Score := ⟨0xFFF8000000000000⟩

def value (s : Score) : Float := .ofBits s.bits

/-- A sum that is no number is kept as it is. -/
def add (s : Score) (x : Float) : Score :=
  let total := s.value + x
  if s.value.isNaN then s
  else if total.isNaN ∧ ¬x.isNaN then undefined
  else sum total

/-- Every bit pattern has its place. A sum without a value comes before all numbers. -/
def rank (s : Score) : Int := Magnitude.rankOfBits s.bits

end Score

/-- How urgent a decision is: starting before stopping, copying and moving, and those before
leaving things alone. -/
def Decision.tier : Decision → Nat
  | .start => 0
  | .stop | .replicate | .migrate => 1
  | .none => 2

structure Candidate where
  target : String
  decision : Decision
  rule : String
  /-- The matched values under the keys of the conditions. -/
  values : Snapshot
  priority : Int
  score : Score

namespace Candidate

def order (a b : Candidate) : Ordering :=
  (compare a.decision.tier b.decision.tier)
    |>.then (compare a.priority b.priority)
    |>.then (compare a.score.rank b.score.rank)
    |>.then (compare a.decision.ordinal b.decision.ordinal)
    |>.then (compare a.rule b.rule)
    |>.then (compare a.target b.target)

/-- The earlier of two candidates in the order, and the first when they are level. -/
def better (a b : Candidate) : Candidate := if b.order a = .lt then b else a

def least? : List Candidate → Option Candidate
  | [] => none
  | c :: cs => some (cs.foldl better c)

end Candidate

/-- The outcome of arbitration; nobody wins when no rule fired. -/
structure Verdict where
  decision : Decision
  winner : Option Candidate

def arbitrate (cs : List Candidate) : Verdict :=
  match Candidate.least? cs with
  | some w => ⟨w.decision, some w⟩
  | none => ⟨.none, none⟩

end GeoFleet
