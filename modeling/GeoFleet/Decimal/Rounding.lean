/-! Division rounded to the nearest whole number, and binary floating point numbers as exact
ratios. Every printed figure is rounded from the exact value, never from another decimal. -/
namespace GeoFleet.Decimal

/-- Where a quotient exactly between two whole numbers goes. -/
inductive Tie where
  | toEven | up
  deriving DecidableEq, Repr

/-- Whether a quotient `n` with the remainder `r` of a division by `d` goes to `n + 1`. -/
def Tie.roundsUp (tie : Tie) (n r d : Nat) : Bool :=
  match compare (2 * r) d with
  | .lt => false
  | .gt => true
  | .eq => match tie with
    | .toEven => n % 2 == 1
    | .up => true

def roundDiv (num den : Nat) (tie : Tie) : Nat :=
  if tie.roundsUp (num / den) (num % den) den then num / den + 1 else num / den

/-- A finite binary number, `significand * 2 ^ exponent` under its sign. -/
structure Binary where
  negative : Bool
  significand : Nat
  exponent : Int
  deriving DecidableEq, Repr

namespace Binary

/-- The smallest exponent of a double; numbers that have it lie as far apart as those below. -/
def leastExponent : Int := -1074

/-- Takes a double apart; infinities and the number that is none have no parts. -/
def ofFloat? (x : Float) : Option Binary :=
  let word := x.toBits.toNat
  let biased := word / Nat.pow 2 52 % Nat.pow 2 11
  let fraction := word % Nat.pow 2 52
  let negative := decide (Nat.pow 2 63 ≤ word)
  if biased = 2047 then none
  else if biased = 0 then some ⟨negative, fraction, leastExponent⟩
  else some ⟨negative, fraction + Nat.pow 2 52, Int.ofNat biased - 1075⟩

def unitNum (b : Binary) : Nat := Nat.pow 2 b.exponent.toNat

def unitDen (b : Binary) : Nat := Nat.pow 2 (-b.exponent).toNat

def num (b : Binary) : Nat := b.significand * b.unitNum

def den (b : Binary) : Nat := b.unitDen

end Binary

/-- The exponent of the leading decimal digit of a positive ratio: the greatest `k` with
`10 ^ k ≤ num / den`. The lengths of both numbers leave two values to choose from. -/
def leadingExponent (num den : Nat) : Int :=
  let k : Int := Int.ofNat (Nat.toDigits 10 num).length - Int.ofNat (Nat.toDigits 10 den).length
  if den * Nat.pow 10 k.toNat ≤ num * Nat.pow 10 (-k).toNat then k else k - 1

end GeoFleet.Decimal
