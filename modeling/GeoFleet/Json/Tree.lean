import GeoFleet.Decimal.Reading
import GeoFleet.Document
import GeoFleet.Text.Utf8

/-! JSON texts as written. A tree keeps numbers and strings in their written form: whether a number
is in range and a string well formed is asked only where the value is used, and a part of a text
that nobody reads may hold any literal. `value?` reads a whole tree as a document. -/
namespace GeoFleet.Json

/-- A piece of a written string: a character, a gap in the text, or an escaped 16-bit unit. -/
inductive Piece where
  | scalar (c : Char)
  | gap
  | escaped (code : Nat)
  deriving DecidableEq, Repr

/-- A written number; `isWhole` says that it has neither fraction nor exponent. -/
structure Number where
  negative : Bool
  isWhole : Bool
  numeral : Decimal.Numeral
  deriving DecidableEq, Repr

inductive Tree where
  | null
  | boolean (b : Bool)
  | number (n : Number)
  | text (pieces : List Piece)
  | list (items : List Tree)
  | table (entries : List (List Piece × Tree))

def isHighSurrogate (n : Nat) : Bool := decide (0xD800 ≤ n) && decide (n ≤ 0xDBFF)
def isLowSurrogate (n : Nat) : Bool := decide (0xDC00 ≤ n) && decide (n ≤ 0xDFFF)

/-- The characters of a written string. A surrogate counts only in an escaped pair, the high one
first. -/
def characters? : List Piece → Option (List Char)
  | [] => some []
  | .scalar c :: r => (characters? r).map (c :: ·)
  | .gap :: _ => none
  | .escaped high :: .escaped low :: r =>
    if isHighSurrogate high then
      if isLowSurrogate low then
        (characters? r).map (Char.ofNat (0x10000 + (high - 0xD800) * 0x400 + (low - 0xDC00)) :: ·)
      else none
    else if isLowSurrogate high then none
    else (characters? (.escaped low :: r)).map (Char.ofNat high :: ·)
  | .escaped n :: r =>
    if isHighSurrogate n || isLowSurrogate n then none
    else (characters? r).map (Char.ofNat n :: ·)

def contents? (pieces : List Piece) : Option String := (characters? pieces).map String.ofList

/-- A whole number is an integer while it fits 64 bits, unsigned or with its sign; everything else
is a floating point number, also minus zero. -/
def Number.value? (n : Number) : Option Document :=
  let w := Decimal.value n.numeral.whole
  if n.isWhole ∧ ¬n.negative ∧ w < Nat.pow 2 64 then some (.integer w)
  else if n.isWhole ∧ n.negative ∧ 0 < w ∧ w ≤ Nat.pow 2 63 then some (.integer (-Int.ofNat w))
  else n.numeral.scaledOnce?.map fun x => .float (Decimal.negate n.negative x)

mutual

/-- Reads a tree in which lists and tables nest at most `depth` deep. Of equal keys the last
counts. -/
def Tree.value? (depth : Nat) : Tree → Option Document
  | .null => some .null
  | .boolean b => some (.boolean b)
  | .number n => n.value?
  | .text pieces => (contents? pieces).map .text
  | .list items => if depth = 0 then none else (values? (depth - 1) items).map .list
  | .table entries => if depth = 0 then none else (members? (depth - 1) entries).map .table

def values? (depth : Nat) : List Tree → Option (List Document)
  | [] => some []
  | t :: r => do
    let d ← t.value? depth
    let ds ← values? depth r
    return d :: ds

/-- Later entries take the place of earlier ones. -/
def members? (depth : Nat) : List (List Piece × Tree) → Option (List (String × Document))
  | [] => some []
  | (key, t) :: r => do
    let k ← contents? key
    let d ← t.value? depth
    let ds ← members? depth r
    return if (ds.lookup k).isSome then ds else (k, d) :: ds

end

def depthLimit : Nat := 127

end GeoFleet.Json
