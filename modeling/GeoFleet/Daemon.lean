import GeoFleet.Command.Check
import GeoFleet.Engine.Evaluation
import GeoFleet.Event
import GeoFleet.Prometheus.Query

/-! The daemon. A run reads its configuration, opens the store, builds the engine and then makes one
pass after another until it is interrupted. What it does goes to the log. Metrics that cannot be
read are absent, and so is everything while no server answers. -/
namespace GeoFleet

structure Daemon where
  engine : Engine
  interval : Duration
  /-- Actions are only logged, not handed over. -/
  dryRun : Bool
  storePath : String

namespace Daemon

structure Options where
  config : String
  dataFolder : String
  /-- Takes the place of the interval that is configured. -/
  interval : Option String
  dryRun : Bool
  deriving DecidableEq, Repr

def storeFile : String := "geoscale.redb"

def starting (o : Options) : Event :=
  ⟨.info, "geoscale daemon starting", [("config", .text (Text.quoted o.config))]⟩

def storeOpened (path : String) : Event :=
  ⟨.info, "state store opened", [("path", .text (Text.quoted path))]⟩

def sourceChosen (c : Config) : Event :=
  match c.prometheus with
  | some p => ⟨.info, "using prometheus metric source", [("address", .text p.address)]⟩
  | none => ⟨.warning, "no prometheus configured, all fields will read as absent", []⟩

def catalogLoaded (c : Catalog) : Event :=
  ⟨.info, "rule catalog loaded", [("fields", .integer c.fields.size),
    ("conditions", .integer c.conditions.size), ("rules", .integer c.rules.size)]⟩

def engineConfigured (c : Config) : Event :=
  ⟨.info, "decision engine configured", [("hosts", .integer c.hosts.length),
    ("containers", .integer c.containers.length), ("rules", .integer c.rules.length)]⟩

/-- An interval in the log, a word of 64 bits. -/
def millis (interval : Duration) : Document := .integer (interval.millis % Nat.pow 2 64)

def ready (d : Daemon) : List Event :=
  (if d.dryRun then [⟨.info, "dry run, actions are logged only", []⟩] else [])
    ++ [⟨.info, "decision engine initialized",
          [("targets", .integer d.engine.registry.size), ("interval_ms", millis d.interval)]⟩,
        ⟨.info, "decision engine started", [("interval_ms", millis d.interval)]⟩]

def interrupted : List Event := [
  ⟨.info, "shutdown signal received", []⟩,
  ⟨.info, "decision engine shutting down", []⟩,
  ⟨.info, "geoscale daemon stopped", []⟩]

def intervalOf (o : Options) (c : Config) : Except Failure Duration :=
  let text := o.interval.getD c.monitoring.interval
  match Duration.interval? text with
  | some d => .ok d
  | none => .error (.invalidInterval text)

/-- Builds the engine. What was logged before a failure stays logged. -/
def configure (c : Config) (store : Store) : List Event × Except EngineError Engine :=
  match Catalog.load c with
  | .error e => ([], .error (.definition e))
  | .ok catalog =>
    match Engine.ofConfig c store with
    | .error e => ([catalogLoaded catalog], .error e)
    | .ok engine => ([catalogLoaded catalog, engineConfigured c], .ok engine)

structure Start where
  log : List Event
  result : Except Failure Daemon
  disk : Disk

def assemble (o : Options) (c : Config) (interval : Duration) (path : String) (store : Store) :
    List Event × Except Failure Daemon :=
  let (log, result) := configure c store
  match result with
  | .error e => (sourceChosen c :: log, .error (.engine e))
  | .ok engine =>
    let d : Daemon := ⟨engine, interval, o.dryRun, path⟩
    (sourceChosen c :: log ++ d.ready, .ok d)

/-- The first part of a start: the configuration and its interval, then the folder of the store and
the store itself. -/
def openStore (o : Options) (disk : Disk) :
    Except Failure (Config × Duration × String × Store) × Disk :=
  match Config.ofFile disk o.config >>= fun c => (intervalOf o c).map (c, ·) with
  | .error e => (.error e, disk)
  | .ok (c, interval) =>
    match disk.createFolders o.dataFolder with
    | (.error e, disk) => (.error (.file e), disk)
    | (.ok (), disk) =>
      let path := Path.join o.dataFolder storeFile
      match disk.openStore path with
      | .error e => (.error (.engine (.store e)), disk)
      | .ok (store, disk) => (.ok (c, interval, path, store), disk)

def start (o : Options) (disk : Disk) : Start :=
  match openStore o disk with
  | (.error e, disk) => ⟨[starting o], .error e, disk⟩
  | (.ok (c, interval, path, store), disk) =>
    let (log, result) := assemble o c interval path store
    ⟨starting o :: storeOpened path :: log, result, disk⟩

/-- One pass over all targets. Actions that are handed over succeed. -/
def pass (d : Daemon) (now : Nat) : List Event × Daemon :=
  let (reports, engine) := d.engine.evaluateAll ⟨.silent, now, fun _ => .ok ()⟩
  let actions := if d.dryRun then [] else reports.filterMap (·.dispatched)
  let applied := (reports.filter fun r => r.evaluation.outcome.isApplied).length
  (actions.map Action.event ++ [⟨.debug, "evaluation pass complete",
      [("targets", .integer reports.length), ("applied", .integer applied)]⟩],
    { d with engine })

structure Run where
  log : List Event
  failure : Option Failure

/-- A run that is interrupted after its first pass. -/
def run (o : Options) (now : Nat) (disk : Disk) : Run × Disk :=
  let s := start o disk
  match s.result with
  | .error e => (⟨s.log, some e⟩, s.disk)
  | .ok d =>
    let (log, d) := d.pass now
    (⟨s.log ++ log ++ interrupted, none⟩, s.disk.saveStore d.storePath d.engine.store)

end Daemon

end GeoFleet
