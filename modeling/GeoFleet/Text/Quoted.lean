import GeoFleet.Text.Unprintable
import GeoFleet.Text.Hex

/-! Text quoted for a reader: in double quotes, with escapes for the quote, the backslash, and every
character that has no ink. -/
namespace GeoFleet.Text

def quotedChar (c : Char) : List Char :=
  if c = '"' then ['\\', '"']
  else if c = '\\' then ['\\', '\\']
  else if c = '\n' then ['\\', 'n']
  else if c = '\r' then ['\\', 'r']
  else if c = '\t' then ['\\', 't']
  else if c = '\x00' then ['\\', '0']
  else if ' ' ≤ c ∧ c ≤ '~' then [c]
  else if Unprintable.holds c then ['\\', 'u', '\x7b'] ++ Hex.lower c.toNat ++ ['\x7d']
  else [c]

def quoted (s : String) : String := String.ofList ('"' :: s.toList.flatMap quotedChar ++ ['"'])

def quotedList (ss : List String) : String :=
  "[" ++ String.intercalate ", " (ss.map quoted) ++ "]"

end GeoFleet.Text
