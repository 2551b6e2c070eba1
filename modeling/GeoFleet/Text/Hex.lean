import GeoFleet.Decimal.Digits

/-! Hexadecimal digits. Either case is read; the writer chooses one. -/
namespace GeoFleet.Text.Hex

def digit? (c : Char) : Option Nat :=
  if Decimal.isDigit c then some (Decimal.digitValue c)
  else if 'a' ≤ c ∧ c ≤ 'f' then some (c.toNat - 'a'.toNat + 10)
  else if 'A' ≤ c ∧ c ≤ 'F' then some (c.toNat - 'A'.toNat + 10)
  else none

/-- The value of all the digits of a text, if it holds nothing else. -/
def value? (cs : List Char) : Option Nat :=
  cs.foldlM (fun n c => (digit? c).map (16 * n + ·)) 0

def bytes? : List Char → Option (List UInt8)
  | a :: b :: r => do
    let n ← value? [a, b]
    return UInt8.ofNat n :: (← bytes? r)
  | [] => some []
  | _ => none

def lower (n : Nat) : List Char := Nat.toDigits 16 n

def upper (width n : Nat) : List Char :=
  let ds := (Nat.toDigits 16 n).map Char.toUpper
  List.replicate (width - ds.length) '0' ++ ds

/-- A scalar value has a character: it is in range and no surrogate. -/
def character? (n : Nat) : Option Char :=
  if n < 0xD800 ∨ (0xDFFF < n ∧ n ≤ 0x10FFFF) then some (Char.ofNat n) else none

end GeoFleet.Text.Hex
