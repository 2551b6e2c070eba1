import GeoFleet.Command.Execution

/-! The program. It copies the files that a command needs from the file system, carries the command
out on the copy, and writes back what has changed. A store lives as long as the daemon that opened
it: its file is made, and stays empty. -/
namespace GeoFleet.Program

/-- What the system says is wrong with a file. -/
def systemCode : IO.Error → Option UInt32
  | .noFileOrDirectory _ code _ | .inappropriateType _ code _ => some code
  | _ => none

def node? (place : String) : IO (Option Node) := do
  try
    return some (.text (← IO.FS.readFile place))
  catch e =>
    return if systemCode e = some 21 then some .folder else none

def load (d : Disk) (path : String) : IO Disk :=
  ((Path.ofString path).places.map Place.key).foldlM
    (fun d place => do return (← node? place).elim d (d.insert place)) d

/-- Writes what a command has added to the files, or changed. -/
def save (before after : Disk) : IO Unit :=
  after.toList.forM fun (place, node) =>
    match node, before[place]? with
    | .folder, none => IO.FS.createDirAll place
    | .store _, none => IO.FS.writeFile place ""
    | .text s, some (.text t) => if s = t then pure () else IO.FS.writeFile place s
    | .text s, _ => IO.FS.writeFile place s
    | _, _ => pure ()

def printEvents (asJson : Bool) (events : List Event) : IO Unit :=
  events.forM fun e => IO.println (if asJson then e.toJson else e.toText)

def fail (e : Failure) : IO UInt32 := do
  IO.eprintln ("Error: " ++ e.message)
  return 1

/-- One pass after another, until the process is interrupted. -/
partial def passes (asJson : Bool) (d : Daemon) : IO UInt32 := do
  let (events, d) := d.pass (← IO.monoMsNow)
  printEvents asJson events
  IO.sleep (UInt32.ofNat (min d.interval.millis (Nat.pow 2 32 - 1)))
  passes asJson d

def runDaemon (asJson : Bool) (o : Daemon.Options) (d : Disk) : IO UInt32 := do
  let s := Daemon.start o d
  save d s.disk
  printEvents asJson s.log
  match s.result with
  | .error e => fail e
  | .ok daemon => passes asJson daemon

def carryOut (asJson : Bool) (c : Command) (d : Disk) : IO UInt32 := do
  let (events, ending, after) := c.execute 0 d
  save d after
  printEvents asJson events
  match ending with
  | .done lines =>
    lines.forM IO.println
    return 0
  | .failed e => fail e
  | .misused => return 2

end GeoFleet.Program

open GeoFleet in
def main (arguments : List String) : IO UInt32 := do
  match Request.ofArguments? false arguments with
  | none =>
    Command.Help.program.forM IO.eprintln
    return 2
  | some (.help lines) =>
    lines.forM IO.println
    return 0
  | some (.command asJson c) =>
    let d ← c.files.foldlM Program.load ∅
    match c with
    | .run o => Program.runDaemon asJson o d
    | c => Program.carryOut asJson c d
