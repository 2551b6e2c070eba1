import GeoFleet.Decimal.Layout
import GeoFleet.Toml.Quoted
import GeoFleet.Document

/-! The TOML text of a document with tables for people to edit. Plain entries come first, then each
table under its header, with an empty line before it; lists of tables have a header for each item,
and any other list of more than one item is written one item a line. -/
namespace GeoFleet.Toml

def isBare (key : String) : Bool :=
  key ≠ "" && key.toList.all fun c => Decimal.isDigit c || c.isAlpha || c = '-' || c = '_'

def keyText (key : String) : String := if isBare key then key else quoted key

def integerText? (n : Int) : Option String :=
  if -Int.ofNat (Nat.pow 2 63) ≤ n ∧ n < Int.ofNat (Nat.pow 2 63) then
    some (String.ofList (Decimal.sign (n < 0) ++ Decimal.digits n.natAbs))
  else none

/-- A value on the right of an equals sign; tables have no place there. -/
def plainText? : Document → Option String
  | .boolean true => some "true"
  | .boolean false => some "false"
  | .integer n => integerText? n
  | .float x => some (Decimal.Layout.toml.text x)
  | .text s => some (quoted s)
  | _ => none

def listText (items : List String) : String :=
  match items with
  | [] => "[]"
  | [s] => "[" ++ s ++ "]"
  | ss => "[\n" ++ String.join (ss.map fun s => "    " ++ s ++ ",\n") ++ "]"

def valueText? : Document → Option String
  | .list items => (items.mapM plainText?).map listText
  | d => plainText? d

/-- The entries of a document that are tables or lists of them, each as one or more sections. -/
def sections : Document → Option (List (List (String × Document)))
  | .table entries => some [entries]
  | .list [] => none
  | .list items => items.mapM fun
    | .table entries => some entries
    | _ => none
  | _ => none

/-- Lines of the entries that are neither tables nor lists of tables. -/
def entryLines? (entries : List (String × Document)) : Option String := do
  let lines ← (entries.filter fun e => (sections e.2).isNone).mapM fun (key, d) => do
    return keyText key ++ " = " ++ (← valueText? d) ++ "\n"
  return String.join lines

def header (key : String) (d : Document) : String :=
  match d with
  | .list _ => "[[" ++ keyText key ++ "]]\n"
  | _ => "[" ++ keyText key ++ "]\n"

def blocks? (key : String) (d : Document) : Option (List String) :=
  ((sections d).getD []).mapM fun entries => (entryLines? entries).map (header key d ++ ·)

/-- The text of a table whose entries nest no deeper than tables in lists. It has no text when an
integer in it is out of range. -/
def print? (entries : List (String × Document)) : Option String := do
  let plain ← entryLines? entries
  let tables ← entries.mapM fun (key, d) => blocks? key d
  let parts := (if plain = "" then [] else [plain]) ++ tables.flatten
  return String.intercalate "\n" parts

end GeoFleet.Toml
