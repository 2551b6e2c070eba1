import GeoFleet.Decimal.Digits
import GeoFleet.Decimal.Shortest

/-! Texts of floating point numbers. `Layout` holds what one format decides: ties, the exponents
written positionally, and whether a whole number keeps its point. Two more texts round the exact
value: to a number of places, and to a number of significant digits. -/
namespace GeoFleet.Decimal

structure Layout where
  tie : Tie
  keepsPoint : Bool
  /-- The exponents of the leading digit that are written positionally, the upper end excluded;
  all of them when there is no window. -/
  window : Option (Int × Int)
  nan : String
  negativeInfinity : String
  infinity : String

/-- Plain text: every number is written out, whole ones without a point. -/
def Layout.plain : Layout := ⟨.up, false, none, "NaN", "-inf", "inf"⟩

/-- Numbers of a JSON text, which has no name for what is not finite. -/
def Layout.json : Layout := ⟨.toEven, true, some (-5, 16), "null", "null", "null"⟩

/-- Numbers of a TOML text, where the point tells a float from an integer. -/
def Layout.toml : Layout := ⟨.up, true, none, "nan", "-inf", "inf"⟩

def sign (negative : Bool) : List Char := if negative then ['-'] else []

/-- Digits with the point where the exponent puts it. -/
def positional (keepsPoint : Bool) (s : Scaled) : List Char :=
  let ds := digits s.digits
  if 0 ≤ s.exponent then
    ds ++ List.replicate s.exponent.toNat '0' ++ (if keepsPoint then ['.', '0'] else [])
  else
    let places := (-s.exponent).toNat
    let ds := List.replicate (places + 1 - ds.length) '0' ++ ds
    ds.take (ds.length - places) ++ '.' :: ds.drop (ds.length - places)

/-- One digit, the others after a point, and the exponent under its own sign. -/
def exponential (s : Scaled) : List Char :=
  let ds := digits s.digits
  let exponent := s.exponent + Int.ofNat ds.length - 1
  ds.take 1 ++ (if ds.length = 1 then [] else '.' :: ds.drop 1)
    ++ 'e' :: (if exponent < 0 then '-' else '+') :: digits exponent.natAbs

def Layout.magnitude (l : Layout) (s : Scaled) : List Char :=
  let leading := s.exponent + Int.ofNat (digits s.digits).length - 1
  match l.window with
  | none => positional l.keepsPoint s
  | some (low, high) =>
    if s.digits = 0 ∨ (low ≤ leading ∧ leading < high) then positional l.keepsPoint s
    else exponential s

def Layout.nonfinite (l : Layout) (x : Float) : String :=
  if x.isNaN then l.nan else if x < 0 then l.negativeInfinity else l.infinity

/-- The text of a number with the fewest digits that read back. -/
def Layout.text (l : Layout) (x : Float) : String :=
  match Binary.ofFloat? x with
  | some b => String.ofList (sign b.negative ++ l.magnitude (shortest b l.tie))
  | none => l.nonfinite x

def fixed (places : Nat) (x : Float) : String :=
  match Binary.ofFloat? x with
  | some b =>
    let ds := padded (places + 1) (roundDiv (b.num * Nat.pow 10 places) b.den .toEven)
    String.ofList (sign b.negative ++ ds.take (ds.length - places) ++ '.' :: ds.drop (ds.length - places))
  | none => Layout.plain.nonfinite x

/-- The `count` leading digits of a ratio, rounded, with the exponent of the first one. -/
def significant (count : Nat) (num den : Nat) : Nat × Int :=
  if num = 0 then (0, 0)
  else
    let leading := leadingExponent num den
    let shift := Int.ofNat count - 1 - leading
    let n := roundDiv (num * Nat.pow 10 shift.toNat) (den * Nat.pow 10 (-shift).toNat) .toEven
    if n = Nat.pow 10 count then (n / 10, leading + 1) else (n, leading)

/-- A number rounded to `count` significant digits, always with an exponent. -/
def scientific (count : Nat) (x : Float) : String :=
  match Binary.ofFloat? x with
  | some b =>
    let (n, exponent) := significant count b.num b.den
    let ds := padded count n
    String.ofList (sign b.negative ++ ds.take 1 ++ '.' :: ds.drop 1 ++ ['e'] ++ sign (exponent < 0)
      ++ digits exponent.natAbs)
  | none => Layout.plain.nonfinite x

end GeoFleet.Decimal
