/-! Text in UTF-8. Decoding never fails: a byte that is no part of a character becomes a gap, and
the decoder goes on with the byte after it, so a gap never swallows an ASCII character. -/
namespace GeoFleet.Text

/-- A character, or a gap where a byte is no part of one. -/
abbrev Symbol := Option Char

def isContinuation (b : UInt8) : Bool := decide (0x80 ≤ b) && decide (b ≤ 0xBF)

/-- The six low bits of a continuation byte, behind what was read before it. -/
def extend (high : Nat) (b : UInt8) : Nat := high * 64 + b.toNat % 64

/-- The character that the first bytes of a text encode, if they do, and its length in bytes. The
shortest encoding of a character is the only one, and surrogates have none. -/
def leading? : List UInt8 → Option (Char × Nat)
  | [] => none
  | a :: r =>
    if a < 0x80 then some (Char.ofNat a.toNat, 1)
    else if 0xC2 ≤ a ∧ a ≤ 0xDF then
      match r with
      | b :: _ => if isContinuation b then some (Char.ofNat (extend (a.toNat % 32) b), 2) else none
      | _ => none
    else if 0xE0 ≤ a ∧ a ≤ 0xEF then
      match r with
      | b :: c :: _ =>
        let n := extend (extend (a.toNat % 16) b) c
        if isContinuation b && isContinuation c && decide (0x800 ≤ n) &&
            !(decide (0xD800 ≤ n) && decide (n ≤ 0xDFFF)) then some (Char.ofNat n, 3) else none
      | _ => none
    else if 0xF0 ≤ a ∧ a ≤ 0xF4 then
      match r with
      | b :: c :: d :: _ =>
        let n := extend (extend (extend (a.toNat % 8) b) c) d
        if isContinuation b && isContinuation c && isContinuation d && decide (0x10000 ≤ n) &&
            decide (n ≤ 0x10FFFF) then some (Char.ofNat n, 4) else none
      | _ => none
    else none

def symbolsWithin : Nat → List UInt8 → List Symbol
  | _, [] => []
  | 0, _ => []
  | fuel + 1, b :: r =>
    match leading? (b :: r) with
    | some (c, length) => some c :: symbolsWithin fuel (r.drop (length - 1))
    | none => none :: symbolsWithin fuel r

/-- Decodes a whole text; it has no more symbols than bytes. -/
def symbols (bytes : List UInt8) : List Symbol := symbolsWithin bytes.length bytes

def bytes (s : String) : List UInt8 := s.toUTF8.toList

end GeoFleet.Text
