import GeoFleet.Disk.Error
import Std.Data.ExtTreeMap

/-! Tables of the store. Rows are kept in the order of their keys; a row that was written but cannot
be read back has no value. A scan starts at a key and goes on while keys begin with it. The database
itself does not fail: opening a table, reading and writing rows, and beginning and ending a transaction
always succeed, so a row that cannot be read back is the only thing that can go wrong with an open store. -/
namespace GeoFleet

inductive StoreError where
  /-- The file of the store cannot be opened, or is none. -/
  | unopened (cause : FileError)
  /-- A row cannot be read back. -/
  | unreadable
  deriving DecidableEq, Repr

/-- A row that cannot be read back has a cause of its own, which is left out. -/
def StoreError.message : StoreError → String
  | .unopened cause => "failed to open database: I/O error: " ++ cause.message
  | .unreadable => "deserialization error"

abbrev Table (α : Type) := Std.ExtTreeMap String (Option α)

namespace Table

def begins (stem key : String) : Bool := stem.toList.isPrefixOf key.toList

def read? (t : Table α) (key : String) : Except StoreError (Option α) :=
  match t[key]? with
  | none => .ok none
  | some none => .error .unreadable
  | some (some a) => .ok (some a)

def fromKey (t : Table α) (stem : String) : List (String × Option α) :=
  t.toList.dropWhile fun row => compare row.1 stem = .lt

/-- Reads rows up to the first whose key does not begin with the stem, and at most as many as are
still wanted; with no limit `wanted` is none. -/
def scanRows (stem : String) : Option Nat → List (String × Option α) → Except StoreError (List α)
  | some 0, _ => .ok []
  | _, [] => .ok []
  | wanted, (key, row) :: rest =>
    if begins stem key then
      match row with
      | none => .error .unreadable
      | some a => (scanRows stem (wanted.map (· - 1)) rest).map (a :: ·)
    else .ok []

/-- The values of the keys that begin with a stem, in key order; a limit of zero is none. -/
def scan (t : Table α) (stem : String) (limit : Nat) : Except StoreError (List α) :=
  scanRows stem (if limit = 0 then none else some limit) (t.fromKey stem)

def keysUnder (t : Table α) (stem : String) : List String :=
  ((t.fromKey stem).takeWhile fun row => begins stem row.1).map (·.1)

def eraseKeys (t : Table α) (keys : List String) : Table α :=
  keys.foldl Std.ExtTreeMap.erase t

end Table

end GeoFleet
