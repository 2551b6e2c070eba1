import GeoFleet.Disk.Error

/-! Paths as they are written, and the places they lead through. One dot stays where it is and two
go back; what lies above the starting folder has no name. -/
namespace GeoFleet

/-- A place among the files, by the names that lead to it. -/
structure Place where
  isAbsolute : Bool
  names : List String
  deriving DecidableEq, Repr

namespace Place

def key (p : Place) : String :=
  (if p.isAbsolute then "/" else "") ++ String.intercalate "/" p.names

def child (p : Place) (name : String) : Place := { p with names := p.names ++ [name] }

/-- The place above, which is the place itself at the root. -/
def parent (p : Place) : Place :=
  if p.names.all (· = "..") then (if p.isAbsolute then p else p.child "..")
  else { p with names := p.names.dropLast }

/-- Where a path starts, and what lies above it. -/
def isStart (p : Place) : Bool := p.names.all (· = "..")

def advance (p : Place) (name : String) : Place :=
  if name = "." then p else if name = ".." then p.parent else p.child name

end Place

structure Path where
  isAbsolute : Bool
  /-- The names between slashes, dots included. -/
  names : List String
  /-- A slash at the end, where only a folder can stand. -/
  endsInSlash : Bool
  deriving DecidableEq, Repr

namespace Path

def lengthLimit : Nat := 4096

def nameLimit : Nat := 255

def ofString (s : String) : Path :=
  let parts := (s.toList.splitOn '/').map String.ofList
  { isAbsolute := parts.length ≠ 1 && parts.head? = some ""
    names := parts.filter (· ≠ "")
    endsInSlash := parts.length ≠ 1 && parts.getLast? = some "" }

def ofString? (s : String) : Except FileError Path :=
  if s = "" then .error .missing
  else if lengthLimit ≤ s.utf8ByteSize then .error .nameTooLong
  else .ok (ofString s)

def start (p : Path) : Place := ⟨p.isAbsolute, []⟩

/-- The places that a path leads through, its end included. -/
def places (p : Path) : List Place :=
  (List.range p.names.length).map fun n => (p.names.take (n + 1)).foldl Place.advance p.start

/-- The names that say where a path leads. A dot says nothing, except where a path starts with it. -/
def tellingNames (p : Path) : List String :=
  match p.isAbsolute, p.names with
  | false, "." :: names => "." :: names.filter (· ≠ ".")
  | _, names => names.filter (· ≠ ".")

/-- The paths above, the nearest one first. -/
def above (p : Path) : List Path :=
  let counts := (List.range p.tellingNames.length).filter fun n => p.isAbsolute || n ≠ 0
  counts.reverse.map fun n => ⟨p.isAbsolute, p.tellingNames.take n, false⟩

def join (folder file : String) : String :=
  if folder = "" ∨ folder.toList.getLast? = some '/' then folder ++ file else folder ++ "/" ++ file

end Path

end GeoFleet
