import GeoFleet.Config.Basic

/-! When a decision that was made several times in a row becomes an action. -/
namespace GeoFleet.Config.Policy

inductive Check where
  | act
  | idle
  | waiting (count threshold : Nat)
  /-- The action would take the fleet out of its bounds. -/
  | fleetBound (fleet : Nat)
  deriving DecidableEq, Repr

/-- How often in a row a decision must be made; doing nothing is never an action. -/
def threshold (p : Policy) : Decision → Option Nat
  | .none => none
  | .start => some p.startAfter
  | .stop => some p.stopAfter
  | .replicate => some p.replicateAfter
  | .migrate => some p.migrateAfter

def blocks (p : Policy) (kind : Kind) (d : Decision) (fleet : Nat) : Bool :=
  kind.isHost && match d with
    | .start => decide (0 < p.maxHosts) && decide (p.maxHosts ≤ fleet)
    | .stop => decide (fleet ≤ p.minHosts)
    | _ => false

/-- Checks a decision that was made `count` times in a row, while `fleet` hosts run. -/
def check (p : Policy) (kind : Kind) (d : Decision) (count fleet : Nat) : Check :=
  match p.threshold d with
  | none => .idle
  | some threshold =>
    if count < max threshold 1 then .waiting count threshold
    else if p.blocks kind d fleet then .fleetBound fleet
    else .act

end GeoFleet.Config.Policy
