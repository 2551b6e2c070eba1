import GeoFleet.Command.Arguments
import GeoFleet.Config.Printing

/-! Carrying out the commands of the program on a disk. -/
namespace GeoFleet

inductive Ending where
  | done (lines : List String)
  | failed (e : Failure)
  /-- The arguments ask for nothing. -/
  | misused

namespace Command

def writeScaffold (path : String) (force : Bool) (d : Disk) : Except Failure Disk :=
  if d.exists? path ∧ ¬force then .error (.overwrite path)
  else match Config.scaffold.toToml? with
    | none => .error .unwritable
    | some text => (d.write path text).mapError .file

/-- A check logs the catalog that it loads. -/
def checkLog (c : Config) : List Event :=
  match Catalog.load c with
  | .ok catalog => [Daemon.catalogLoaded catalog]
  | .error _ => []

/-- Carries out a command at a time. A daemon is interrupted after its first pass. -/
def execute (c : Command) (now : Nat) (d : Disk) : List Event × Ending × Disk :=
  match c with
  | .run o =>
    let (r, d) := Daemon.run o now d
    (r.log, r.failure.elim (.done []) .failed, d)
  | .check path =>
    match Config.ofFile d path with
    | .error e => ([], .failed e, d)
    | .ok c =>
      match c.check path with
      | .ok lines => (checkLog c, .done lines, d)
      | .error e => (checkLog c, .failed e, d)
  | .init path force =>
    match writeScaffold path force d with
    | .ok d => ([], .done ["wrote " ++ path], d)
    | .error e => ([], .failed e, d)

def files : Command → List String
  | .run o => [o.config, o.dataFolder, Path.join o.dataFolder Daemon.storeFile]
  | .check path => [path]
  | .init path _ => [path]

end Command

namespace Request

def execute (arguments : List String) (now : Nat) (d : Disk) : List Event × Ending × Disk :=
  match ofArguments? false arguments with
  | none => ([], .misused, d)
  | some (.help lines) => ([], .done lines, d)
  | some (.command _ c) => c.execute now d

def executeAll (now : Nat) : List (List String) → Disk → List (List Event × Ending) × Disk
  | [], d => ([], d)
  | arguments :: rest, d =>
    let (log, ending, d) := execute arguments now d
    let (results, d) := executeAll now rest d
    ((log, ending) :: results, d)

end Request

end GeoFleet
