import GeoFleet.Text.Hex
import GeoFleet.Text.Utf8

/-! Percent encoding. A byte that may not stand for itself is written as a percent sign and two
hexadecimal digits; which bytes may depends on the part of the address they stand in. -/
namespace GeoFleet.Url

def percent (b : UInt8) : List Char := '%' :: Text.Hex.upper 2 b.toNat

/-- Controls, the delete character and everything beyond ASCII are always encoded. -/
def isControl (b : UInt8) : Bool := decide (b < 0x20) || decide (0x7E < b)

def encodeByte (extra : List Char) (b : UInt8) : List Char :=
  let c := Char.ofNat b.toNat
  if isControl b || extra.contains c then percent b else [c]

def encode (extra : List Char) (cs : List Char) : List Char :=
  (Text.bytes (String.ofList cs)).flatMap (encodeByte extra)

def pathExtra : List Char := [' ', '"', '<', '>', '\x60', '#', '?', '\x7b', '\x7d']

def queryExtra : List Char := [' ', '"', '#', '<', '>', '\'']

/-- Letters, digits and four marks stand for themselves in a form. -/
def isFormSafe (b : UInt8) : Bool :=
  let c := Char.ofNat b.toNat
  decide (b < 0x80) && (c.isAlphanum || ['*', '-', '.', '_'].contains c)

/-- A value of a form: a space is written as a plus sign. -/
def encodeForm (s : String) : List Char :=
  (Text.bytes s).flatMap fun b =>
    if isFormSafe b then [Char.ofNat b.toNat] else if b = 0x20 then ['+'] else percent b

/-- The bytes of a text after its percent signs with two digits are decoded. -/
def decode : List Char → List UInt8
  | '%' :: a :: b :: r =>
    match Text.Hex.value? [a, b] with
    | some n => UInt8.ofNat n :: decode r
    | none => 0x25 :: decode (a :: b :: r)
  | c :: r => Text.bytes (String.ofList [c]) ++ decode r
  | [] => []
termination_by cs => cs.length

end GeoFleet.Url
