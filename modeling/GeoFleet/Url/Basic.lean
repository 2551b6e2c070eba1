import GeoFleet.Url.Host

/-! Web addresses, as far as a request needs them: the path and the query of an `http` address that
is well formed. Tabs and line ends are ignored, a backslash counts as a slash, and so does any
number of slashes before the host. -/
namespace GeoFleet

structure Url where
  path : List Char
  query : Option (List Char)

namespace Url

def isSlash (c : Char) : Bool := c = '/' || c = '\\'

def endsAuthority (c : Char) : Bool := isSlash c || c = '?' || c = '#'

def splitAuthority (cs : List Char) : List Char × List Char :=
  (cs.takeWhile (!endsAuthority ·), cs.dropWhile (!endsAuthority ·))

/-- What stands before the last `@` names a user and is not looked at. -/
def dropUser (cs : List Char) : List Char :=
  if cs.contains '@' then (cs.reverse.takeWhile (· ≠ '@')).reverse else cs

/-- Splits host and port at the first colon outside brackets. -/
def splitPort : Bool → List Char → List Char × Option (List Char)
  | _, [] => ([], none)
  | false, ':' :: r => ([], some r)
  | inside, c :: r =>
    let inside := if c = '[' then true else if c = ']' then false else inside
    let (host, port) := splitPort inside r
    (c :: host, port)

/-- A port is a number of 16 bits, or nothing. -/
def isPort (ds : List Char) : Bool :=
  ds.all Decimal.isDigit && decide (Decimal.value ds < Nat.pow 2 16)

def isAuthority (cs : List Char) : Bool :=
  let (host, port) := splitPort false (dropUser cs)
  host ≠ [] && isHost host && port.all isPort

/-- A segment of dots, of which each may be encoded. -/
def isDots (count : Nat) (segment : List Char) : Bool :=
  let rec dots : List Char → Option Nat
    | [] => some 0
    | '.' :: r => (dots r).map (· + 1)
    | '%' :: '2' :: 'e' :: r | '%' :: '2' :: 'E' :: r => (dots r).map (· + 1)
    | _ => none
  dots segment == some count

/-- The name of a drive, which a path never goes back from. -/
def isDrive : List Char → Bool
  | [letter, mark] => letter.isAlpha && (mark = ':' || mark = '|')
  | _ => false

def back (done : List (List Char)) : List (List Char) :=
  if done.getLast?.any isDrive then done else done.dropLast

/-- The segments of a path once it was walked: one dot stays where it is, and two go back. -/
def walk : List (List Char) → List (List Char) → List (List Char)
  | done, [] => done
  | done, [last] =>
    if isDots 2 last then back done ++ [[]]
    else if isDots 1 last then done ++ [[]]
    else done ++ [last]
  | done, s :: r =>
    if isDots 2 s then walk (back done) r
    else if isDots 1 s then walk done r
    else walk (done ++ [s]) r

/-- A path starts with a slash, whether one was written or not. -/
def pathOf (cs : List Char) : List Char :=
  let cs := cs.map fun c => if c = '\\' then '/' else c
  let cs := match cs with
    | '/' :: r => r
    | r => r
  '/' :: ['/'].intercalate (walk [] ((cs.splitOn '/').map (encode pathExtra)))

/-- Splits a path from a query; what follows a `#` is dropped. -/
def ofParts (cs : List Char) : Url :=
  let cs := cs.takeWhile (· ≠ '#')
  let query := match cs.dropWhile (· ≠ '?') with
    | _ :: r => some (encode queryExtra r)
    | [] => none
  ⟨pathOf (cs.takeWhile (· ≠ '?')), query⟩

def ofHttp? (s : String) : Option Url :=
  let cs := s.toList.filter fun c => c ≠ '\t' ∧ c ≠ '\n' ∧ c ≠ '\r'
  let (authority, rest) := splitAuthority (cs.dropWhile isSlash)
  if isAuthority authority then some (ofParts rest) else none

def addPair (u : Url) (key value : String) : Url :=
  let pair := encodeForm key ++ '=' :: encodeForm value
  let query := match u.query with
    | none | some [] => pair
    | some q => q ++ '&' :: pair
  { u with query := some query }

/-- Path and query, as a request names them. -/
def target (u : Url) : String :=
  String.ofList (u.path ++ u.query.elim [] ('?' :: ·))

end Url

end GeoFleet
