import GeoFleet.Toml.Quoted
import GeoFleet.Toml.Scalar
import GeoFleet.Toml.Tree

/-! Reading a TOML text, line by line, into the statements that build up its document. Readers of
nested values spend fuel; one unit per character of the text is always enough. -/
namespace GeoFleet.Toml

def skipBlanks (s : List Char) : List Char := s.dropWhile fun c => c = ' ' || c = '\t'

def skipComment? (s : List Char) : Option (List Char) :=
  match s with
  | '#' :: r =>
    let r := r.dropWhile isInk
    if r = [] ∨ (newline? r).isSome then some r else none
  | s => some s

/-- Skips blanks, comments and line ends, as between the items of a list. -/
def skipLines? : Nat → List Char → Option (List Char)
  | 0, s => some s
  | fuel + 1, s => do
    let s ← skipComment? (skipBlanks s)
    match newline? s with
    | some r => skipLines? fuel r
    | none => some s

/-- Ends a line: blanks, a comment, and the line end or the end of the text. -/
def endLine? (s : List Char) : Option (List Char) := do
  let s ← skipComment? (skipBlanks s)
  if s = [] then some [] else newline? s

def isBareKey (c : Char) : Bool :=
  Decimal.isDigit c || c.isAlpha || c = '-' || c = '_'

def simpleKey? (s : List Char) : Option (String × List Char) :=
  match s with
  | '"' :: r => (basic? (r.length + 1) r).map fun (cs, r) => (String.ofList cs, r)
  | '\'' :: r => (literal? r).map fun (cs, r) => (String.ofList cs, r)
  | s =>
    let cs := s.takeWhile isBareKey
    if cs = [] then none else some (String.ofList cs, s.dropWhile isBareKey)

/-- Keys nest at most this deep, and so do lists and inline tables. -/
def depthLimit : Nat := 79

/-- Keys joined by points, with blanks around each one; the last is kept apart. -/
def keyPath? : Nat → List Char → Option (List String × String × List Char)
  | 0, _ => none
  | fuel + 1, s => do
    let (key, r) ← simpleKey? (skipBlanks s)
    match skipBlanks r with
    | '.' :: r =>
      let (path, last, r) ← keyPath? fuel r
      return (key :: path, last, r)
    | r => return ([], key, r)

def key? (s : List Char) : Option (List String × String × List Char) := keyPath? depthLimit s

mutual

def value? (depth : Nat) : Nat → List Char → Option (Document × List Char)
  | 0, _ => none
  | fuel + 1, s =>
    match s with
    | '"' :: _ | '\'' :: _ => (string? s).map fun (cs, r) => (.text (String.ofList cs), r)
    | '[' :: r =>
      if depth = 0 then none
      else (items? (depth - 1) fuel r).map fun (ds, r) => (.list ds, r)
    | '\x7b' :: r =>
      if depth = 0 then none
      else match skipBlanks r with
        | '\x7d' :: r => (inline? []).map fun d => (d, r)
        | r => do
          let (es, r) ← pairs? (depth - 1) fuel r
          return (← inline? es, r)
    | 't' :: 'r' :: 'u' :: 'e' :: r => some (.boolean true, r)
    | 'f' :: 'a' :: 'l' :: 's' :: 'e' :: r => some (.boolean false, r)
    | 'i' :: _ | 'n' :: _ => special? s
    | s => number? s

/-- The items of a list up to its end; a comma may stand after the last. -/
def items? (depth : Nat) : Nat → List Char → Option (List Document × List Char)
  | 0, _ => none
  | fuel + 1, s => do
    let s ← skipLines? s.length s
    match s with
    | ']' :: r => return ([], r)
    | s =>
      let (d, r) ← value? depth fuel s
      let r ← skipLines? r.length r
      match r with
      | ']' :: r => return ([d], r)
      | ',' :: r =>
        let (ds, r) ← items? depth fuel r
        return (d :: ds, r)
      | _ => none

/-- The entries of an inline table up to its end, all on one line. -/
def pairs? (depth : Nat) : Nat → List Char → Option (List (List String × String × Document) × List Char)
  | 0, _ => none
  | fuel + 1, s => do
    let (path, key, r) ← key? s
    let r ← expect? '=' r
    let (d, r) ← value? depth fuel (skipBlanks r)
    match skipBlanks r with
    | '\x7d' :: r => return ([(path, key, d)], r)
    | ',' :: r =>
      let (es, r) ← pairs? depth fuel r
      return ((path, key, d) :: es, r)
    | _ => none

end

def statement? (s : List Char) : Option (Statement × List Char) :=
  match s with
  | '[' :: '[' :: r => do
    let (path, key, r) ← key? r
    let r ← expect? ']' (← expect? ']' r)
    return (.item path key, r)
  | '[' :: r => do
    let (path, key, r) ← key? r
    return (.table path key, ← expect? ']' r)
  | s => do
    let (path, key, r) ← key? s
    let r ← expect? '=' r
    let (d, r) ← value? depthLimit (s.length + 1) (skipBlanks r)
    return (.entry path key d, r)

def statements? : Nat → List Char → Option (List Statement)
  | 0, s => if s = [] then some [] else none
  | fuel + 1, s =>
    match endLine? s with
    | some [] => some []
    | some r => statements? fuel r
    | none => do
      let (t, r) ← statement? (skipBlanks s)
      let r ← endLine? r
      return t :: (← statements? fuel r)

def dropMark : List Char → List Char
  | '\ufeff' :: r => r
  | r => r

def document? (text : String) : Option Document := do
  let cs := dropMark text.toList
  build? (← statements? (cs.length + 1) cs)

end GeoFleet.Toml
