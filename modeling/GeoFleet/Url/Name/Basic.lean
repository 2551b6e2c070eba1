import GeoFleet.Text.Composition
import GeoFleet.Url.Name.Direction
import GeoFleet.Url.Name.Joining
import GeoFleet.Url.Name.Mapping
import GeoFleet.Url.Name.Punycode

/-! Host names of all scripts. The characters of a name are mapped and composed, so that names that
look the same are the same. Then each of its labels, decoded where it is written in Punycode, must
be well formed, and all of them must fit together. -/
namespace GeoFleet.Url.Name

/-- The ASCII characters that are in no name, apart from controls and the space. -/
def forbidden : List Char := ['%', '#', '/', ':', '<', '>', '?', '@', '[', '\\', ']', '^', '|']

def isAllowed (c : Char) : Bool := decide (' ' < c) && c != '\x7f' && !forbidden.contains c

def isAscii (cs : List Char) : Bool := cs.all (·.toNat < 0x80)

/-- The most characters that a label may have after the mark of Punycode. -/
def encodedLimit : Nat := 2000

/-- The most characters that a label may have that is not ASCII. -/
def decodedLimit : Nat := 1000

/-- What a label stands for. Punycode must stand for a label that mapping and composing would
leave. -/
def decodeLabel? : List Char → Option (List Char)
  | 'x' :: 'n' :: '-' :: '-' :: cs =>
    if cs.getLast?.all (· = '-') || !isAscii cs || encodedLimit < cs.length then none
    else (Punycode.decode? cs).filter fun label =>
      label.all isKept && Text.Composition.ofChars label = label
  | label => some label

def isWellFormed (label : List Char) : Bool :=
  !label.head?.any Text.Mark.holds && joinersFit [] label
    && (isAscii label || label.length ≤ decodedLimit)

def ofChars? (cs : List Char) : Option (List Char) := do
  let name ← (map? cs).map Text.Composition.ofChars
  let labels ← (name.splitOn '.').mapM decodeLabel?
  if name.all isAllowed && labels.all isWellFormed && areDirected labels then some name else none

end GeoFleet.Url.Name
