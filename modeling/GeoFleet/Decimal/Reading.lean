import GeoFleet.Decimal.Digits

/-! Floating point numbers read from decimal text. A numeral is a whole part, a fraction and an
exponent. It is read either exactly, as the double nearest to it, or in one scaling step, which
takes the digits as a double first and can miss the nearest one by the last bit. -/
namespace GeoFleet.Decimal

/-- The parts of an unsigned decimal number; the value is
`whole.fraction * 10 ^ exponent`. -/
structure Numeral where
  whole : List Char
  fraction : List Char
  exponent : Int
  deriving DecidableEq, Repr

namespace Numeral

def significand (n : Numeral) : Nat := value (n.whole ++ n.fraction)

def scale (n : Numeral) : Int := n.exponent - Int.ofNat n.fraction.length

/-- Exponents beyond this size make any significand of fewer digits zero or infinite, so that no
larger power is ever formed. -/
def scaleBound (n : Numeral) : Nat := 400 + n.whole.length + n.fraction.length

def clampedScale (n : Numeral) : Int :=
  max (-Int.ofNat n.scaleBound) (min (Int.ofNat n.scaleBound) n.scale)

/-- The double nearest to the numeral, infinite when it is too large. -/
def nearest (n : Numeral) : Float :=
  if n.clampedScale < 0 then OfScientific.ofScientific n.significand true n.clampedScale.natAbs
  else OfScientific.ofScientific n.significand false n.clampedScale.natAbs

end Numeral

def negate (negative : Bool) (x : Float) : Float := if negative then -x else x

def splitSign : List Char → Bool × List Char
  | '-' :: r => (true, r)
  | '+' :: r => (false, r)
  | r => (false, r)

def splitDigits (cs : List Char) : List Char × List Char :=
  (cs.takeWhile isDigit, cs.dropWhile isDigit)

/-- A signed exponent after its letter; at least one digit is needed. -/
def exponent? (cs : List Char) : Option (Int × List Char) :=
  let (negative, r) := splitSign cs
  let (ds, r) := splitDigits r
  if ds = [] then none
  else some (if negative then -Int.ofNat (value ds) else Int.ofNat (value ds), r)

/-- Reads digits with an optional point and an optional exponent that make up the whole text;
one side of the point may be empty, but not both. -/
def numeral? (cs : List Char) : Option Numeral :=
  let (whole, r) := splitDigits cs
  let (fraction, r) := match r with
    | '.' :: r => splitDigits r
    | r => ([], r)
  if whole = [] ∧ fraction = [] then none
  else match r with
    | [] => some ⟨whole, fraction, 0⟩
    | 'e' :: r | 'E' :: r =>
      match exponent? r with
      | some (e, []) => some ⟨whole, fraction, e⟩
      | _ => none
    | _ => none

/-- Reads a signed number, or `inf`, `infinity` or `nan` in any case. -/
def number? (cs : List Char) : Option Float :=
  let (negative, r) := splitSign cs
  match numeral? r with
  | some n => some (negate negative n.nearest)
  | none =>
    let name := String.ofList (r.map Char.toLower)
    if name = "inf" ∨ name = "infinity" then some (negate negative (1.0 / 0.0))
    else if name = "nan" then some (0.0 / 0.0)
    else none

/-- The digits of `significand` as a double, divided or multiplied by the power of ten that the
exponent asks for. Beyond `10 ^ 308` a quotient is formed in several steps, and a product is out of
range; an infinite product is out of range as well. -/
def scaled? : Nat → Float → Int → Option Float
  | 0, x, _ => some x
  | fuel + 1, x, exponent =>
    if exponent.natAbs ≤ 308 then
      let power : Float := OfScientific.ofScientific 1 false exponent.natAbs
      if 0 ≤ exponent then
        let y := x * power
        if y.isInf then none else some y
      else some (x / power)
    else if x == 0 then some x
    else if 0 ≤ exponent then none
    else scaled? fuel (x / 1e308) (exponent + 308)

/-- Digits are taken up while the number so far leaves room in 64 bits for one more. -/
def takeWord : Nat → List Char → Nat × List Char
  | n, [] => (n, [])
  | n, c :: cs =>
    let m := 10 * n + digitValue c
    if m < Nat.pow 2 64 then takeWord m cs else (n, c :: cs)

/-- Reads a numeral in one scaling step. The first digit that no longer fits 64 bits ends the part
it stands in: what is dropped from the whole part still counts as places, what is dropped from the
fraction does not. -/
def Numeral.scaledOnce? (n : Numeral) : Option Float :=
  let (whole, wholeRest) := takeWord 0 n.whole
  let (m, fractionRest) := takeWord whole n.fraction
  let taken := Int.ofNat n.fraction.length - Int.ofNat fractionRest.length
  scaled? 8 (Float.ofNat m) (n.exponent + Int.ofNat wholeRest.length - taken)

end GeoFleet.Decimal
