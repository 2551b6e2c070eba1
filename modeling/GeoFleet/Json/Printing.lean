import GeoFleet.Decimal.Layout
import GeoFleet.Document
import GeoFleet.Text.Hex

/-! Compact JSON text of a document: no space between its parts, and entries in their own order. -/
namespace GeoFleet.Json

/-- A character inside a string. Quote and backslash are escaped, and control characters below the
space, five of them by a letter. -/
def escape (c : Char) : List Char :=
  if c = '"' then ['\\', '"']
  else if c = '\\' then ['\\', '\\']
  else if c = '\x08' then ['\\', 'b']
  else if c = '\x0c' then ['\\', 'f']
  else if c = '\n' then ['\\', 'n']
  else if c = '\r' then ['\\', 'r']
  else if c = '\t' then ['\\', 't']
  else if c.toNat < 0x20 then ['\\', 'u', '0', '0', if c.toNat < 0x10 then '0' else '1'] ++ Text.Hex.lower (c.toNat % 16)
  else [c]

def quoted (s : String) : String := String.ofList ('"' :: s.toList.flatMap escape ++ ['"'])

def commas (parts : List String) : String := String.intercalate "," parts

def integer (n : Int) : String :=
  String.ofList (Decimal.sign (n < 0) ++ Decimal.digits n.natAbs)

mutual

/-- The text of a document; an instant, for which JSON has no form, is written as `null`. -/
def print : Document → String
  | .null => "null"
  | .boolean true => "true"
  | .boolean false => "false"
  | .integer n => integer n
  | .float x => Decimal.Layout.json.text x
  | .text s => quoted s
  | .instant => "null"
  | .list items => "[" ++ commas (printItems items) ++ "]"
  | .table entries => "\x7b" ++ commas (printEntries entries) ++ "\x7d"

def printItems : List Document → List String
  | [] => []
  | d :: r => print d :: printItems r

def printEntries : List (String × Document) → List String
  | [] => []
  | (key, d) :: r => (quoted key ++ ":" ++ print d) :: printEntries r

end

end GeoFleet.Json
