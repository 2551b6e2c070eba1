import GeoFleet.Text.Hex

/-! Properties of characters, written as runs over the code points in their order. A run is a letter
that says what it is about and a hexadecimal number, mostly its length. -/
namespace GeoFleet.Text

structure Run where
  kind : Char
  length : Nat

namespace Run

/-- Reads one more character. The runs so far are listed from the last one. -/
def read (runs : List Run) (c : Char) : List Run :=
  match Hex.digit? c, runs with
  | some d, r :: rest => { r with length := 16 * r.length + d } :: rest
  | _, runs => ⟨c, 0⟩ :: runs

def ofRows (rows : List String) : List Run :=
  (rows.foldl (fun runs row => row.toList.foldl read runs) []).reverse

/-- The kind of the run that a code point is in, unless it is after the last one. -/
def kindAt : List Run → Nat → Option Char
  | [], _ => none
  | r :: rest, n => if n < r.length then some r.kind else kindAt rest (n - r.length)

end Run

end GeoFleet.Text
