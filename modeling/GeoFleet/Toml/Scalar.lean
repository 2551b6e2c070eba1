import GeoFleet.Decimal.Reading
import GeoFleet.Document
import GeoFleet.Text.Hex

/-! Numbers and instants of a TOML text. A number is taken off the front of a text up to the first
character that cannot go on with it; underscores may stand between digits. -/
namespace GeoFleet.Toml

/-- Digits with single underscores between them. The first digit decides whether there is a run at
all; after an underscore a digit must follow. -/
def digitRun? (accepts : Char → Bool) : List Char → Option (List Char × List Char)
  | [] => none
  | c :: r =>
    if accepts c then
      match r with
      | '_' :: r' => (digitRun? accepts r').map fun (ds, r) => (c :: ds, r)
      | r => match r with
        | [] => some ([c], [])
        | d :: _ =>
          if accepts d then (digitRun? accepts r).map fun (ds, r) => (c :: ds, r)
          else some ([c], r)
    else none

/-- A decimal whole number: without a leading zero, unless it is zero. -/
def wholePart? : List Char → Option (List Char × List Char)
  | '0' :: r => some (['0'], r)
  | r => digitRun? Decimal.isDigit r

def exponentPart? : List Char → Option (Option Int × List Char)
  | 'e' :: r | 'E' :: r => do
    let (negative, r) := Decimal.splitSign r
    let (ds, r) ← digitRun? Decimal.isDigit r
    return (some (if negative then -Int.ofNat (Decimal.value ds) else Int.ofNat (Decimal.value ds)), r)
  | r => some (none, r)

def isOctal (c : Char) : Bool := decide ('0' ≤ c) && decide (c ≤ '7')
def isBinary (c : Char) : Bool := c = '0' || c = '1'
def isHex (c : Char) : Bool := (Text.Hex.digit? c).isSome

def valueIn (base : Nat) (ds : List Char) : Nat :=
  ds.foldl (fun n c => base * n + (Text.Hex.digit? c).getD 0) 0

/-- Integers have 64 bits with a sign. -/
def integer? (n : Int) : Option Document :=
  if -Int.ofNat (Nat.pow 2 63) ≤ n ∧ n < Int.ofNat (Nat.pow 2 63) then some (.integer n) else none

def based? (base : Nat) (accepts : Char → Bool) (r : List Char) : Option (Document × List Char) := do
  let (ds, r) ← digitRun? accepts r
  return (← integer? (valueIn base ds), r)

/-- A decimal number. A point or an exponent makes it a floating point number, which must not
exceed the range upwards. -/
def decimal? (s : List Char) : Option (Document × List Char) := do
  let (negative, r) := Decimal.splitSign s
  let (whole, r) ← wholePart? r
  let (fraction, r) ← match r with
    | '.' :: r => (digitRun? Decimal.isDigit r).map fun (ds, r) => (some ds, r)
    | r => some (none, r)
  let (exponent, r) ← exponentPart? r
  if fraction.isNone ∧ exponent.isNone then
    let n := Decimal.value whole
    return (← integer? (if negative then -Int.ofNat n else Int.ofNat n), r)
  else
    let numeral : Decimal.Numeral := ⟨whole, fraction.getD [], exponent.getD 0⟩
    let x := Decimal.negate negative numeral.nearest
    if x.isInf ∧ 0.0 < x then none else some (.float x, r)

/-- The names of the floating point numbers that have no digits. -/
def special? (s : List Char) : Option (Document × List Char) :=
  let (negative, r) := Decimal.splitSign s
  match r with
  | 'i' :: 'n' :: 'f' :: r => some (.float (Decimal.negate negative (1.0 / 0.0)), r)
  | 'n' :: 'a' :: 'n' :: r => some (.float (0.0 / 0.0), r)
  | _ => none

def fixedDigits? (count : Nat) (s : List Char) : Option (Nat × List Char) :=
  let ds := s.take count
  if ds.length = count ∧ ds.all Decimal.isDigit then some (Decimal.value ds, s.drop count) else none

def pair? (low high : Nat) (s : List Char) : Option (List Char) := do
  let (n, r) ← fixedDigits? 2 s
  if low ≤ n ∧ n ≤ high then some r else none

def expect? (c : Char) : List Char → Option (List Char)
  | d :: r => if c = d then some r else none
  | [] => none

def isLeapYear (y : Nat) : Bool := (y % 4 == 0 && y % 100 != 0) || y % 400 == 0

def daysIn (year month : Nat) : Nat :=
  if month = 2 then (if isLeapYear year then 29 else 28)
  else if month = 4 ∨ month = 6 ∨ month = 9 ∨ month = 11 then 30
  else 31

def date? (s : List Char) : Option (List Char) := do
  let (year, r) ← fixedDigits? 4 s
  let r ← expect? '-' r
  let (month, r) ← fixedDigits? 2 r
  let r ← expect? '-' r
  let (day, r) ← fixedDigits? 2 r
  if 1 ≤ month ∧ month ≤ 12 ∧ 1 ≤ day ∧ day ≤ daysIn year month then some r else none

/-- A time of day; seconds are needed, and a fraction may follow them. -/
def time? (s : List Char) : Option (List Char) := do
  let r ← expect? ':' (← pair? 0 23 s)
  let r ← expect? ':' (← pair? 0 59 r)
  let r ← pair? 0 60 r
  match r with
  | '.' :: t =>
    let (ds, t) := Decimal.splitDigits t
    if ds = [] then none else some t
  | r => some r

/-- The distance from universal time; nothing is taken when there is none. -/
def offset (s : List Char) : List Char :=
  match s with
  | 'Z' :: r | 'z' :: r => r
  | '+' :: r | '-' :: r =>
    match (do pair? 0 59 (← expect? ':' (← pair? 0 23 r)) : Option (List Char)) with
    | some r => r
    | none => s
  | _ => s

/-- A date, a time, or a date with a time after a `T` or a space. -/
def instant? (s : List Char) : Option (Document × List Char) :=
  match date? s with
  | some r =>
    let afterTime := match r with
      | 'T' :: t | 't' :: t | ' ' :: t => (time? t).map offset
      | _ => none
    some (.instant, afterTime.getD r)
  | none => (time? s).map fun r => (.instant, r)

def number? (s : List Char) : Option (Document × List Char) :=
  match instant? s with
  | some r => some r
  | none =>
    match s with
    | '0' :: 'x' :: r => based? 16 isHex r
    | '0' :: 'o' :: r => based? 8 isOctal r
    | '0' :: 'b' :: r => based? 2 isBinary r
    | s =>
      match special? s with
      | some r => some r
      | none => decimal? s

end GeoFleet.Toml
