import GeoFleet.Json.Tree
import GeoFleet.Text.Hex

/-! Reading JSON text. Each reader takes its part off the front of the symbols and returns what is
left. Readers of nested parts spend fuel; one unit per symbol of the text is always enough. -/
namespace GeoFleet.Json

open GeoFleet.Text (Symbol)

def isSpace : Symbol → Bool
  | some ' ' | some '\t' | some '\n' | some '\r' => true
  | _ => false

def skipSpace (s : List Symbol) : List Symbol := s.dropWhile isSpace

def literal? : List Char → List Symbol → Option (List Symbol)
  | [], s => some s
  | c :: cs, some d :: s => if c = d then literal? cs s else none
  | _, _ => none

def isDigitSymbol : Symbol → Bool
  | some c => Decimal.isDigit c
  | none => false

def digitRun (s : List Symbol) : List Char × List Symbol :=
  ((s.takeWhile isDigitSymbol).filterMap id, s.dropWhile isDigitSymbol)

def fraction? : List Symbol → Option (List Char × List Symbol)
  | some '.' :: s =>
    let (ds, s) := digitRun s
    if ds = [] then none else some (ds, s)
  | s => some ([], s)

/-- The exponent of a number, `none` inside when there is none. -/
def exponent? : List Symbol → Option (Option Int × List Symbol)
  | some 'e' :: s | some 'E' :: s =>
    let (negative, s) := match s with
      | some '-' :: s => (true, s)
      | some '+' :: s => (false, s)
      | s => (false, s)
    let (ds, s) := digitRun s
    if ds = [] then none
    else some (some (if negative then -Int.ofNat (Decimal.value ds) else Int.ofNat (Decimal.value ds)), s)
  | s => some (none, s)

/-- A number after its sign. The whole part has no leading zero. -/
def unsigned? (negative : Bool) (s : List Symbol) : Option (Number × List Symbol) := do
  let (whole, s) := digitRun s
  if whole = [] ∨ (whole.head? = some '0' ∧ whole.length ≠ 1) then none
  else
    let (fraction, s) ← fraction? s
    let (exponent, s) ← exponent? s
    return (⟨negative, fraction = [] && exponent.isNone, ⟨whole, fraction, exponent.getD 0⟩⟩, s)

def number? : List Symbol → Option (Number × List Symbol)
  | some '-' :: s => unsigned? true s
  | s => unsigned? false s

def hex4? (s : List Symbol) : Option (Nat × List Symbol) :=
  match s with
  | some a :: some b :: some c :: some d :: r => (Text.Hex.value? [a, b, c, d]).map (·, r)
  | _ => none

def escape? : List Symbol → Option (Piece × List Symbol)
  | some 'u' :: s => (hex4? s).map fun (n, s) => (.escaped n, s)
  | some '"' :: s => some (.scalar '"', s)
  | some '\\' :: s => some (.scalar '\\', s)
  | some '/' :: s => some (.scalar '/', s)
  | some 'b' :: s => some (.scalar '\x08', s)
  | some 'f' :: s => some (.scalar '\x0c', s)
  | some 'n' :: s => some (.scalar '\n', s)
  | some 'r' :: s => some (.scalar '\r', s)
  | some 't' :: s => some (.scalar '\t', s)
  | _ => none

/-- A string after its opening quote; control characters must be escaped. -/
def string? : Nat → List Symbol → Option (List Piece × List Symbol)
  | 0, _ => none
  | _ + 1, [] => none
  | _ + 1, some '"' :: s => some ([], s)
  | fuel + 1, some '\\' :: s => do
    let (p, s) ← escape? s
    let (ps, s) ← string? fuel s
    return (p :: ps, s)
  | fuel + 1, some c :: s =>
    if c.toNat < 0x20 then none
    else (string? fuel s).map fun (ps, s) => (.scalar c :: ps, s)
  | fuel + 1, none :: s => (string? fuel s).map fun (ps, s) => (.gap :: ps, s)

mutual

def tree? : Nat → List Symbol → Option (Tree × List Symbol)
  | 0, _ => none
  | fuel + 1, s =>
    match skipSpace s with
    | some 'n' :: s => (literal? ['u', 'l', 'l'] s).map fun s => (.null, s)
    | some 't' :: s => (literal? ['r', 'u', 'e'] s).map fun s => (.boolean true, s)
    | some 'f' :: s => (literal? ['a', 'l', 's', 'e'] s).map fun s => (.boolean false, s)
    | some '"' :: s => (string? (s.length + 1) s).map fun (ps, s) => (.text ps, s)
    | some '[' :: s =>
      match skipSpace s with
      | some ']' :: s => some (.list [], s)
      | s => (items? fuel s).map fun (ts, s) => (.list ts, s)
    | some '\x7b' :: s =>
      match skipSpace s with
      | some '\x7d' :: s => some (.table [], s)
      | s => (entries? fuel s).map fun (es, s) => (.table es, s)
    | s => (number? s).map fun (n, s) => (.number n, s)

/-- The items of a list up to its end; there is at least one. -/
def items? : Nat → List Symbol → Option (List Tree × List Symbol)
  | 0, _ => none
  | fuel + 1, s => do
    let (t, s) ← tree? fuel s
    match skipSpace s with
    | some ']' :: s => return ([t], s)
    | some ',' :: s =>
      let (ts, s) ← items? fuel s
      return (t :: ts, s)
    | _ => none

/-- The entries of a table up to its end; there is at least one. -/
def entries? : Nat → List Symbol → Option (List (List Piece × Tree) × List Symbol)
  | 0, _ => none
  | fuel + 1, s => do
    let s ← literal? ['"'] (skipSpace s)
    let (key, s) ← string? (s.length + 1) s
    let s ← literal? [':'] (skipSpace s)
    let (t, s) ← tree? fuel s
    match skipSpace s with
    | some '\x7d' :: s => return ([(key, t)], s)
    | some ',' :: s =>
      let (es, s) ← entries? fuel s
      return ((key, t) :: es, s)
    | _ => none

end

def Tree.ofSymbols? (s : List Symbol) : Option Tree := do
  let (t, s) ← tree? (2 * s.length + 2) s
  if skipSpace s = [] then some t else none

def Tree.ofBytes? (bytes : List UInt8) : Option Tree := Tree.ofSymbols? (Text.symbols bytes)

def document? (text : String) : Option Document :=
  (Tree.ofSymbols? (text.toList.map some)).bind (Tree.value? depthLimit)

end GeoFleet.Json
