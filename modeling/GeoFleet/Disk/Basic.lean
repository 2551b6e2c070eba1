import GeoFleet.Disk.Path
import GeoFleet.Store.Basic

/-! The files that commands read and write. A path is followed name by name, and every name but the
last must lead to a folder. The store of a daemon is a file too, but no text. -/
namespace GeoFleet

inductive Node where
  | folder
  | text (s : String)
  | store (s : Store)

/-- Whether nothing but a folder can be followed further. -/
def Node.isFolder : Node → Bool
  | .folder => true
  | _ => false

/-- What stands at each place, by its name. -/
abbrev Disk := Std.ExtTreeMap String Node

/-- Where a path leads: to a folder that dots name, or to a name in a folder. -/
inductive Destination where
  | folder (p : Place)
  | entry (p : Place)

namespace Disk

def node? (d : Disk) (p : Place) : Option Node := if p.isStart then some .folder else d[p.key]?

def find (d : Disk) (p : Place) : Except FileError (Option Node) :=
  if p.names.getLast?.any (Path.nameLimit < ·.utf8ByteSize) then .error .nameTooLong
  else .ok (d.node? p)

/-- One name further, which must lead to a folder. -/
def enter (d : Disk) (p : Place) (name : String) : Except FileError Place := do
  let next := p.advance name
  match ← d.find next with
  | some .folder => return next
  | some _ => .error .notFolder
  | none => .error .missing

def isDots (name : String) : Bool := name = "." || name = ".."

def follow (d : Disk) (p : Path) : Except FileError Destination := do
  let front ← p.names.dropLast.foldlM d.enter p.start
  match p.names.getLast? with
  | none => return .folder front
  | some name => return if isDots name then .folder (front.advance name) else .entry (front.advance name)

/-- What a path leads to; only folders stand before a slash at the end. -/
def lookup (d : Disk) (p : Path) : Except FileError Node := do
  match ← d.follow p with
  | .folder _ => return .folder
  | .entry place =>
    match ← d.find place with
    | none => .error .missing
    | some node => if p.endsInSlash ∧ ¬node.isFolder then .error .notFolder else return node

def isFolder (d : Disk) (p : Path) : Bool :=
  match d.lookup p with
  | .ok node => node.isFolder
  | .error _ => false

def exists? (d : Disk) (path : String) : Bool :=
  match Path.ofString? path >>= d.lookup with
  | .ok _ => true
  | .error _ => false

def read (d : Disk) (path : String) : Except FileError String := do
  match ← d.lookup (← Path.ofString? path) with
  | .folder => .error .isFolder
  | .text s => return s
  | .store _ => .error .notText

def openFile (d : Disk) (path : String) : Except FileError (Place × Option Node) := do
  let p ← Path.ofString? path
  match ← d.follow p with
  | .folder _ => .error .isFolder
  | .entry place =>
    if p.endsInSlash then .error .isFolder
    else match ← d.find place with
      | some .folder => .error .isFolder
      | node => return (place, node)

def write (d : Disk) (path text : String) : Except FileError Disk := do
  let (place, _) ← d.openFile path
  return d.insert place.key (.text text)

def makeFolder (d : Disk) (p : Path) : Except FileError Disk := do
  match ← d.follow p with
  | .folder _ => .error .occupied
  | .entry place =>
    match ← d.find place with
    | some _ => .error .occupied
    | none => return d.insert place.key .folder

/-- Makes the first of several paths a folder, after the others when one of those is missing. -/
def makeFolders : List Path → Disk → Except FileError Unit × Disk
  | [], d => (.ok (), d)
  | p :: above, d =>
    let settle (d : Disk) (e : FileError) : Except FileError Unit × Disk :=
      (if d.isFolder p then .ok () else .error e, d)
    match d.makeFolder p with
    | .ok d => (.ok (), d)
    | .error .missing =>
      match makeFolders above d with
      | (.error e, d) => (.error e, d)
      | (.ok (), d) =>
        match d.makeFolder p with
        | .ok d => (.ok (), d)
        | .error e => settle d e
    | .error e => settle d e

/-- Makes a folder, and the folders above it as far as they are not there. Those stay even when the
folder itself cannot be made. -/
def createFolders (d : Disk) (path : String) : Except FileError Unit × Disk :=
  match Path.ofString? path with
  | .error e => (.error e, d)
  | .ok p => makeFolders (p :: p.above) d

/-- Opens the store in a file; where there is no file a new store is begun. -/
def openStore (d : Disk) (path : String) : Except StoreError (Store × Disk) := do
  let (place, node) ← (d.openFile path).mapError .unopened
  let store ← match node with
    | some (.text s) => Store.ofText s
    | some (.store s) => .ok s
    | _ => .ok .empty
  return (store, d.insert place.key (.store store))

def saveStore (d : Disk) (path : String) (s : Store) : Disk :=
  match d.openFile path with
  | .ok (place, _) => d.insert place.key (.store s)
  | .error _ => d

def store? (d : Disk) (path : String) : Option Store :=
  match d.openFile path with
  | .ok (_, some (.store s)) => some s
  | _ => none

/-- Texts under their paths, with the folders that hold them. -/
def ofTexts (texts : List (String × String)) : Disk :=
  texts.foldl (fun d (path, text) =>
    let p := Path.ofString path
    let (_, d) := makeFolders p.above d
    match d.write path text with
    | .ok d => d
    | .error _ => d) ∅

end Disk

end GeoFleet
