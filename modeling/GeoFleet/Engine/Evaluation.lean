import GeoFleet.Engine.Basic
import GeoFleet.Monitor
import GeoFleet.Rule.Firing

/-! Evaluating a target. The first half decides: it samples the fields of the rules that apply, adds
their derived views, arbitrates between the rules that fire, and records the decision. The second
half acts once the policy clears the decision: it picks a landing host, hands the action out, and
brings log and registry in line with it. An action that fails leaves the count as it is, so that it
is tried again. -/
namespace GeoFleet

/-- A decision that cleared the policy. -/
structure Action where
  target : Target
  decision : Decision
  rule : Option String
  values : Snapshot
  /-- The landing host, unless the decision is to stop. -/
  placement : Option Host
  /-- How many passes in a row made the decision. -/
  count : Nat

inductive Outcome where
  | idle
  | waiting (count threshold : Nat)
  | fleetBound (fleet : Nat)
  /-- No host of the region could take the footprint. -/
  | noPlacement (region : Region)
  | applyFailed (message : String)
  | applied (placement : Option String)
  deriving DecidableEq, Repr

def Outcome.isApplied : Outcome → Bool
  | .applied _ => true
  | _ => false

structure Evaluation where
  target : String
  decision : Decision
  rule : Option String
  count : Nat
  outcome : Outcome
  deriving DecidableEq, Repr

/-- The result of evaluating a target, with the action if one was handed out. -/
structure Report where
  evaluation : Evaluation
  dispatched : Option Action

/-- What an evaluation meets outside the engine: the metrics, the time, and how actions end. -/
structure Surroundings where
  source : Source
  now : Nat
  carryOut : Action → Except String Unit

/-- A decision as the first half of an evaluation leaves it. -/
structure Decided where
  target : Target
  decision : Decision
  rule : Option String
  values : Snapshot
  count : Nat
  now : Nat

namespace Decided

def action (d : Decided) (placement : Option Host) : Action :=
  ⟨d.target, d.decision, d.rule, d.values, placement, d.count⟩

def report (d : Decided) (outcome : Outcome) (dispatched : Option Action) : Report :=
  ⟨⟨d.target.id, d.decision, d.rule, d.count, outcome⟩, dispatched⟩

end Decided

def Action.logEntry (a : Action) (now : Nat) : DecisionRecord :=
  { target := a.target.id, kind := a.target.kind, decision := a.decision, rule := a.rule
    values := a.values, placement := a.placement.map (·.publicAddress), epoch := now }

namespace Engine

/-- The query of each field that the rules read, under the field. A field without a query is queried
by its name. -/
def queries (c : Catalog) (rules : List ResolvedRule) : Std.ExtTreeMap String String :=
  (rules.flatMap (·.fields)).foldl
    (fun m field => m.insert field ((c.fields[field]?.bind (·.query)).getD field)) ∅

def requests (c : Catalog) (rules : List ResolvedRule) : List Source.Request :=
  (queries c rules).toList.map fun (field, query) => ⟨field, query⟩

/-- The decision for a target, recorded. -/
def judge (e : Engine) (w : Surroundings) (t : Target) : Except EngineError Decided × Engine :=
  match e.catalog.rulesFor t with
  | .error err => (.error (.definition err), e)
  | .ok rules =>
    let raw := w.source.fetchAll e.settings.fetchTimeout t.id (requests e.catalog rules)
    match e.store.observe t.id raw w.now with
    | (.error err, store) => (.error (.store err), { e with store })
    | (.ok snapshot, store) =>
      let verdict := arbitrate (fireAll rules t.id snapshot)
      let (update, store) := store.recordDecision t.id t.kind verdict.decision w.now
      (.ok
        { target := t
          decision := verdict.decision
          rule := verdict.winner.map (·.rule)
          values := (verdict.winner.map (·.values)).getD ∅
          count := update.current.count
          now := w.now },
        { e with store })

/-- The first half: the decision for a registered target. -/
def decide (e : Engine) (w : Surroundings) (id : String) : Except EngineError Decided × Engine :=
  match e.registry[id]? with
  | none => (.error (.unknownTarget id), e)
  | some t => e.judge w t

/-- Where a workload should land, and in which region: at the middle point of its service's
requests, else where its host is, else anywhere in the region of its host. -/
def landingArea (e : Engine) (t : Target) : Coordinate × Region :=
  match t.service.bind e.traffic.middlePoint? with
  | some middle => (middle, Region.closest middle)
  | none => (t.host.coordinate.getD t.host.region.coordinate, t.host.region)

/-- The hosts that an action must not land on: a new host comes from outside the fleet, and moving
leaves the host behind. -/
def excluded (e : Engine) (t : Target) : Decision → List Host
  | .start => if t.kind.isHost then e.fleet else []
  | .migrate => [t.host]
  | _ => []

/-- The landing host of an action; stopping needs none. -/
def place (e : Engine) (s : Source) (t : Target) (d : Decision) :
    Except NoCapableHost (Option Host) :=
  match d with
  | .none | .stop => .ok none
  | _ =>
    let (point, region) := e.landingArea t
    let footprint := e.settings.footprintOf t.service
    (e.admission.nearest s footprint region point e.hosts (e.excluded t d)).map some

/-- Brings the registry in line with an action. -/
def follow (e : Engine) (t : Target) (d : Decision) (landing : Option Host) : Engine :=
  match d, landing with
  | .stop, _ => (e.deregister t.id).2
  | .start, some h => if t.kind.isHost then e.register (.ofHost h) else e
  | .migrate, some h =>
    match e.registry[t.id]? with
    | some moved => { e with registry := e.registry.insert t.id { moved with host := h } }
    | none => e
  | _, _ => e

/-- Restarts the count of a target and logs what was done. -/
def settle (e : Engine) (a : Action) (now : Nat) : Engine :=
  { e with store := (e.store.restartCount a.target.id now).2.putDecision (a.logEntry now) }

def complete (e : Engine) (a : Action) (now : Nat) : Engine :=
  (e.settle a now).follow a.target a.decision a.placement

/-- The second half: acts on a decision if the policy clears it. -/
def act (e : Engine) (w : Surroundings) (d : Decided) : Report × Engine :=
  match e.policy.check d.target.kind d.decision d.count e.fleetSize with
  | .idle => (d.report .idle none, e)
  | .waiting count threshold => (d.report (.waiting count threshold) none, e)
  | .fleetBound fleet => (d.report (.fleetBound fleet) none, e)
  | .act =>
    match e.place w.source d.target d.decision with
    | .error err => (d.report (.noPlacement err.region) none, e)
    | .ok placement =>
      let a := d.action placement
      match w.carryOut a with
      | .error message => (d.report (.applyFailed message) (some a), e)
      | .ok () =>
        (d.report (.applied (placement.map (·.publicAddress))) (some a), e.complete a d.now)

def evaluate (e : Engine) (w : Surroundings) (id : String) : Except EngineError Report × Engine :=
  match e.decide w id with
  | (.error err, e) => (.error err, e)
  | (.ok d, e) =>
    let (report, e) := e.act w d
    (.ok report, e)

/-- Evaluates targets in the order given; a target that fails is left out. -/
def evaluateEach (w : Surroundings) : List String → Engine → List Report × Engine
  | [], e => ([], e)
  | id :: ids, e =>
    let (result, e) := e.evaluate w id
    let (reports, e) := evaluateEach w ids e
    (match result with
      | .ok report => report :: reports
      | .error _ => reports, e)

def sortReports (rs : List Report) : List Report :=
  rs.mergeSort fun a b => (compare a.evaluation.target b.evaluation.target).isLE

/-- One pass over the targets registered at its start. -/
def evaluateAll (e : Engine) (w : Surroundings) : List Report × Engine :=
  let (reports, e) := evaluateEach w e.registry.keys e
  (sortReports reports, e)

/-- The number of passes that start within a time, the first at once; a pass takes at least a
millisecond of the interval. -/
def passCount (interval span : Nat) : Nat :=
  let interval := max interval 1
  (span + interval - 1) / interval

def run (w : Surroundings) : Nat → Engine → List Action × Engine
  | 0, e => ([], e)
  | n + 1, e =>
    let (reports, e) := e.evaluateAll w
    let (actions, e) := run w n e
    ((reports.filterMap (·.dispatched)) ++ actions, e)

end Engine

end GeoFleet
