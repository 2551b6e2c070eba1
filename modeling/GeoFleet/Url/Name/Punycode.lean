import GeoFleet.Decimal.Digits

/-! Punycode, which writes a label of any script in letters, digits and hyphens. The characters of
ASCII come first; every number after them says how far it is, in the order of characters and then of
places, from one insertion to the next. Numbers have as many digits as they need: a digit below its
threshold is the last one, and the thresholds follow the size of the numbers before. -/
namespace GeoFleet.Url.Name.Punycode

/-- What is decoded so far, and the number that is being read. -/
structure Progress where
  label : List Char
  code : Nat
  place : Nat
  bias : Nat
  number : Nat
  weight : Nat
  position : Nat

def start (label : List Char) : Progress := ⟨label, 0x80, 0, 72, 0, 1, 36⟩

def digit? (c : Char) : Option Nat :=
  if 'a' ≤ c ∧ c ≤ 'z' then some (c.toNat - 'a'.toNat)
  else if Decimal.isDigit c then some (c.toNat - '0'.toNat + 26)
  else none

def threshold (position bias : Nat) : Nat := max 1 (min 26 (position - bias))

/-- Divides a number until it is small, and counts the steps. -/
def scale (n : Nat) : Nat × Nat :=
  if 455 < n then
    let (rest, steps) := scale (n / 35)
    (rest, steps + 1)
  else (n, 0)
termination_by n
decreasing_by exact Nat.div_lt_self (by omega) (by decide)

/-- The bias after a number that led to a label of some length. -/
def adapt (number length : Nat) (isFirst : Bool) : Nat :=
  let n := number / if isFirst then 700 else 2
  let (rest, steps) := scale (n + n / length)
  36 * steps + 36 * rest / (rest + 38)

/-- A character by its code, which surrogates and what is beyond the last character do not have. -/
def character? (code : Nat) : Option Char :=
  if code.isValidChar then some (Char.ofNat code) else none

def Progress.insert? (p : Progress) (number : Nat) : Option Progress :=
  let length := p.label.length + 1
  let distance := p.place + number
  let code := p.code + distance / length
  let place := distance % length
  (character? code).map fun c =>
    { label := p.label.insertIdx place c
      code
      place := place + 1
      bias := adapt number length (p.place = 0)
      number := 0
      weight := 1
      position := 36 }

/-- Reads one digit. The weight of a digit has at most 32 bits. -/
def Progress.read? (p : Progress) (c : Char) : Option Progress := do
  let d ← digit? c
  let number := p.number + d * p.weight
  let t := threshold p.position p.bias
  let weight := p.weight * (36 - t)
  if d < t then p.insert? number
  else if weight < Nat.pow 2 32 then some { p with number, weight, position := p.position + 36 }
  else none

/-- Decodes a label. Its ASCII characters are those before the last hyphen, and the last number must
be complete. -/
def decode? (cs : List Char) : Option (List Char) := do
  let digits := (cs.reverse.takeWhile (· ≠ '-')).reverse
  let ascii := cs.take (cs.length - digits.length - 1)
  let p ← (if ascii = [] then cs else digits).foldlM Progress.read? (start ascii)
  if p.weight = 1 then some p.label else none

end GeoFleet.Url.Name.Punycode
