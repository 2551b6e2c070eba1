import GeoFleet.Decimal.Rounding

/-! The fewest decimal digits that read back as the same double. The reals that round to a double
form an interval around it, with its ends inside when the significand is even. For growing digit
counts the two neighbours of the number on that decimal grid are tested in exact arithmetic; the
first grid with a hit wins, and of two hits the nearer. -/
namespace GeoFleet.Decimal

/-- A decimal magnitude `digits * 10 ^ exponent`. -/
structure Scaled where
  digits : Nat
  exponent : Int
  deriving DecidableEq, Repr

def Scaled.normalize : Nat → Scaled → Scaled
  | 0, s => s
  | fuel + 1, s =>
    if s.digits ≠ 0 ∧ s.digits % 10 = 0 then normalize fuel ⟨s.digits / 10, s.exponent + 1⟩ else s

/-- A number on a decimal grid: it is `value / step` grid steps, `above` and `below` quarters of
`1 / step` reach the ends of the interval that rounds to it. -/
structure Grid where
  value : Nat
  step : Nat
  above : Nat
  below : Nat
  closed : Bool

namespace Grid

/-- The grid of `10 ^ exponent` under a binary number. A power of two is nearer to the number below
it than to the one above, unless the spacing cannot get smaller. -/
def of (b : Binary) (exponent : Int) : Grid :=
  let unit := b.unitNum * Nat.pow 10 (-exponent).toNat
  let halved := b.significand = Nat.pow 2 52 ∧ Binary.leastExponent < b.exponent
  { value := b.significand * unit
    step := b.unitDen * Nat.pow 10 exponent.toNat
    above := 2 * unit
    below := if halved then unit else 2 * unit
    closed := b.significand % 2 == 0 }

def admitsBelow (g : Grid) (n : Nat) : Bool :=
  let gap := 4 * g.value - 4 * (n * g.step)
  if g.closed then decide (gap ≤ g.below) else decide (gap < g.below)

def admitsAbove (g : Grid) (n : Nat) : Bool :=
  let gap := 4 * (n * g.step) - 4 * g.value
  if g.closed then decide (gap ≤ g.above) else decide (gap < g.above)

/-- The grid point that reads back as the number and is nearest to it. -/
def pick? (g : Grid) (tie : Tie) : Option Nat :=
  let n := g.value / g.step
  match g.admitsBelow n, g.admitsAbove (n + 1) with
  | true, true => some (roundDiv g.value g.step tie)
  | true, false => some n
  | false, true => some (n + 1)
  | false, false => none

end Grid

/-- Tries `count` digits and more, at most `fuel` times; seventeen digits always read back. -/
def shortestFrom (b : Binary) (leading : Int) (tie : Tie) : Nat → Nat → Scaled
  | 0, _ => ⟨b.num, 0⟩
  | fuel + 1, count =>
    let exponent := leading - Int.ofNat count + 1
    match (Grid.of b exponent).pick? tie with
    | some n => Scaled.normalize 20 ⟨n, exponent⟩
    | none => shortestFrom b leading tie fuel (count + 1)

def shortest (b : Binary) (tie : Tie) : Scaled :=
  if b.significand = 0 then ⟨0, 0⟩
  else shortestFrom b (leadingExponent b.num b.den) tie 17 1

end GeoFleet.Decimal
