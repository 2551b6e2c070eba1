import GeoFleet.Decimal.Reading
import GeoFleet.Url.Encoding
import GeoFleet.Url.Name.Basic

/-! Which texts are hosts. A host in brackets is an address of version six; a host whose last label
is a number is an address of version four; every other host is a name. -/
namespace GeoFleet.Url

/-- The number that a part of an address of version four is written as: hexadecimal after `0x`,
octal after another leading zero, and decimal otherwise. -/
def addressNumber? (cs : List Char) : Option Nat :=
  let digits (accepts : Char → Bool) (base : Nat) (ds : List Char) : Option Nat :=
    if ds.all accepts then some (ds.foldl (fun n c => base * n + (Text.Hex.digit? c).getD 0) 0)
    else none
  match cs with
  | [] => none
  | '0' :: 'x' :: ds | '0' :: 'X' :: ds => digits (fun c => (Text.Hex.digit? c).isSome) 16 ds
  | '0' :: d :: ds => digits (fun c => decide ('0' ≤ c) && decide (c ≤ '7')) 8 (d :: ds)
  | ds => digits Decimal.isDigit 10 ds

/-- The labels of a name, without an empty one at the end. -/
def labels (cs : List Char) : List (List Char) :=
  let parts := cs.splitOn '.'
  if 1 < parts.length ∧ parts.getLast? = some [] then parts.dropLast else parts

/-- Whether the last label is a number, so that the host must be an address. -/
def endsInNumber (cs : List Char) : Bool :=
  match (labels cs).getLast? with
  | some l => (l ≠ [] && l.all Decimal.isDigit) || (addressNumber? l).isSome
  | none => false

/-- Up to four numbers; the last one fills the bytes that the others leave. -/
def isAddress4 (cs : List Char) : Bool :=
  let parts := labels cs
  match parts.mapM addressNumber? with
  | some ns =>
    decide (parts.length ≤ 4) && ns.dropLast.all (· ≤ 255) &&
      (ns.getLast?.any fun n => decide (n < Nat.pow 256 (5 - parts.length)))
  | none => false

/-- Four decimal numbers without leading zeros, as at the end of an address of version six. -/
def isDotted (cs : List Char) : Bool :=
  let parts := cs.splitOn '.'
  parts.length == 4 && parts.all fun ds =>
    ds ≠ [] && ds.all Decimal.isDigit && (ds.length == 1 || ds.head? != some '0')
      && decide (Decimal.value ds ≤ 255)

/-- Whether the text goes on as an address of version six after `count` of its eight pieces. Two
colons stand for a run of zero pieces, once. -/
def isPieces : Nat → Nat → Bool → List Char → Bool
  | 0, _, _, _ => false
  | _ + 1, count, skipped, [] => skipped || count == 8
  | fuel + 1, count, skipped, c :: r =>
    if 8 ≤ count then false
    else if c = ':' then !skipped && isPieces fuel (count + 1) true r
    else
      let ds := ((c :: r).takeWhile fun c => (Text.Hex.digit? c).isSome).take 4
      match (c :: r).drop ds.length with
      | [] => isPieces fuel (count + 1) skipped []
      | ':' :: r => r ≠ [] && isPieces fuel (count + 1) skipped r
      | '.' :: _ => ds ≠ [] && decide (count ≤ 6) && isDotted (c :: r) && (skipped || count == 6)
      | _ => false

def isAddress6 (cs : List Char) : Bool :=
  match cs with
  | ':' :: ':' :: r => isPieces (cs.length + 1) 1 true r
  | ':' :: _ => false
  | [] | [_] => false
  | cs => isPieces (cs.length + 1) 0 false cs

def isHost (cs : List Char) : Bool :=
  match cs with
  | '[' :: r => r.getLast? == some ']' && isAddress6 r.dropLast
  | cs =>
    match ((Text.symbols (decode cs)).mapM id).bind Name.ofChars? with
    | some name => name ≠ [] && (!endsInNumber name || isAddress4 name)
    | none => false

end GeoFleet.Url
