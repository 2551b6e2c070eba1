/-! Natural numbers written in decimal digits. `value` reads a digit list, `digits` writes one
without leading zeros, and `padded` fills it up to a fixed width. -/
namespace GeoFleet.Decimal

/-- The ten ASCII digits; digits of other scripts are no digits here. -/
def isDigit (c : Char) : Bool := decide ('0' ≤ c) && decide (c ≤ '9')

def digitValue (c : Char) : Nat := c.toNat - '0'.toNat

def value (ds : List Char) : Nat := ds.foldl (fun n c => 10 * n + digitValue c) 0

def digits (n : Nat) : List Char := Nat.toDigits 10 n

/-- The digits of a number after enough zeros to fill `width` places. -/
def padded (width n : Nat) : List Char :=
  List.replicate (width - (digits n).length) '0' ++ digits n

@[simp] theorem value_nil : value [] = 0 := rfl

theorem value_append_singleton (ds : List Char) (c : Char) :
    value (ds ++ [c]) = 10 * value ds + digitValue c := by
  simp [value]

/-- Reads a nonempty run of digits that makes up the whole text. -/
def natural? (cs : List Char) : Option Nat :=
  if cs ≠ [] ∧ cs.all isDigit then some (value cs) else none

/-- Reads an unsigned 64-bit count: one plus sign may stand before the digits. -/
def word? (cs : List Char) : Option Nat :=
  let ds := match cs with
    | '+' :: r => r
    | r => r
  (natural? ds).filter (· < Nat.pow 2 64)

end GeoFleet.Decimal
