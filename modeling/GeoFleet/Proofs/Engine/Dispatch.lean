import GeoFleet.Proofs.Catalog.Integrity
import GeoFleet.Proofs.Engine.Registry
import GeoFleet.Proofs.Placement.Landing
import GeoFleet.Proofs.Placement.Nearest
import GeoFleet.Proofs.Rule.Firing

/-! What an action that was handed out rests on. Its decision comes from a rule of the catalog whose
conditions hold of the values that go with the action, and its landing host was chosen among the
hosts that the decision allows. -/
namespace GeoFleet

namespace Catalog

theorem applies_host {c : Catalog} (applies : c.applies t r = true) (host : t.kind = .host) :
    r.kind = .host := by
  cases kind : r.kind with
  | host => rfl
  | service => simp [Catalog.applies,associationKey,host,Kind.isHost,kind] at applies
  | container => simp [Catalog.applies,associationKey,host,Kind.isHost,kind] at applies
  | app => simp [Catalog.applies,associationKey,host,Kind.isHost,kind] at applies

end Catalog

namespace Engine

/-- An action follows a rule of the catalog that applies to its registered target and whose
conditions hold of the values of the action. -/
structure Justified (e : Engine) (a : Action) : Prop where
  registered : e.registry[a.target.id]? = some a.target
  ruled : ∃ (name : String) (r : Rule), a.rule = some name ∧ e.catalog.rules[name]? = some r ∧
    e.catalog.applies a.target r = true ∧ r.decision = a.decision ∧
    ∀ condition ∈ r.conditions, ∃ (c : Condition) (v : Float),
      e.catalog.conditions[condition]? = some c ∧
      a.values[c.key]? = some v ∧ c.operator.holds v c.value = true
  host : a.target.kind = .host → a.decision = .start ∨ a.decision = .stop

def landingRegion (e : Engine) (t : Target) : Region :=
  match t.service.bind e.traffic.middlePoint? with
  | some middle => Region.closest middle
  | none => t.host.region

theorem landingRegion_central {e : Engine} {t : Target} {service : String} {middle : Coordinate}
    (own : t.service = some service) (found : e.traffic.middlePoint? service = some middle) (r : Region) :
    ¬middle.distance r.coordinate < middle.distance (e.landingRegion t).coordinate := by
  have same : e.landingRegion t = Region.closest middle := by simp [landingRegion,own,found]
  rw [same]
  exact (Region.closest_first middle).1 r

theorem landingRegion_home {e : Engine} {t : Target}
    (unlocated : ∀ service, t.service = some service → ∀ key ∈ (e.traffic.of service).byLocation,
      e.traffic.locations[key]? = none) : e.landingRegion t = t.host.region := by
  cases middle : t.service.bind e.traffic.middlePoint? with
  | none => simp [landingRegion,middle]
  | some point =>
    obtain ⟨service,own,found⟩ := Option.bind_eq_some_iff.mp middle
    obtain ⟨key,c,requested,registered,_⟩ := Traffic.exists_of_middlePoint? found
    rw [unlocated service own key requested] at registered
    cases registered

theorem landingArea_region (e : Engine) (t : Target) : (e.landingArea t).2 = e.landingRegion t := by
  cases middle : t.service.bind e.traffic.middlePoint? with
  | some point => simp [landingArea,landingRegion,middle]
  | none => simp [landingArea,landingRegion,middle]

structure Lands (e : Engine) (s : Source) (a : Action) : Prop where
  absent : a.placement = none ↔ a.decision = .stop
  known : ∀ h, a.placement = some h → h ∈ e.hosts
  located : ∀ h, a.placement = some h → h.coordinate.isSome = true
  admitted : ∀ h, a.placement = some h →
    e.admission.isAdmissible s (e.settings.footprintOf a.target.service) h = true
  region : ∀ h, a.placement = some h → h.region = e.landingRegion a.target
  /-- No region is nearer to the middle point of the requests than that of the host. -/
  central : ∀ h, a.placement = some h → ∀ service middle, a.target.service = some service →
    e.traffic.middlePoint? service = some middle →
      ∀ r : Region, ¬middle.distance r.coordinate < middle.distance h.region.coordinate
  /-- Without requests from registered locations the host is in the region of the current one. -/
  home : ∀ h, a.placement = some h → (∀ service, a.target.service = some service →
    ∀ key ∈ (e.traffic.of service).byLocation, e.traffic.locations[key]? = none) →
      h.region = a.target.host.region
  fresh : ∀ h, a.placement = some h → a.decision = .start → a.target.kind = .host →
    ∀ running ∈ e.fleet, ¬h.Same running
  moved : ∀ h, a.placement = some h → a.decision = .migrate → ¬h.Same a.target.host

/-- A decision to do something is that of a rule that fired. -/
theorem Judged.winner {e after : Engine} (judged : e.Judged w t d after) (active : d.decision ≠ .none) :
    ∃ listed, e.catalog.rulesFor t = .ok listed ∧ ∃ resolved ∈ listed,
      d.rule = some resolved.name ∧ d.decision = resolved.decision ∧
      ∀ c ∈ resolved.conditions, ∃ v, c.matched? d.values = some v := by
  obtain ⟨listed,snapshot,listing,decision,rule,values⟩ := judged.founded
  rw [decision] at active
  obtain ⟨c,fired,won,same⟩ := arbitrate_winner active
  obtain ⟨resolved,member,fires⟩ := List.mem_filterMap.mp fired
  obtain ⟨name,proposed,matched⟩ := ResolvedRule.fire?_sound fires
  refine ⟨listed,listing,resolved,member,?_,?_,?_⟩
  · rw [rule,won,Option.map_some,name]
  · rw [decision,same,proposed]
  · rw [values,won]
    exact matched

/-- Whatever its rules say, a host is started or stopped, or left alone. -/
theorem Judged.host_decision {e after : Engine} (built : Catalog.Built e.catalog)
    (judged : e.Judged w t d after) (host : t.kind = .host) :
    d.decision = .none ∨ d.decision = .start ∨ d.decision = .stop := by
  by_cases idle : d.decision = .none
  · exact .inl idle
  · obtain ⟨listed,listing,resolved,member,_,decision,_⟩ := judged.winner idle
    obtain ⟨r,known,applies,_,own,_⟩ := Catalog.rulesFor_sound built.consistent listing member
    have permitted := built.consistent.permitted resolved.name r known
    rw [Catalog.applies_host applies host,← own,← decision] at permitted
    cases chosen : d.decision with
    | none => exact .inl rfl
    | start => exact .inr (.inl rfl)
    | stop => exact .inr (.inr rfl)
    | replicate => simp [chosen,Decision.isValidFor] at permitted
    | migrate => simp [chosen,Decision.isValidFor] at permitted

theorem Judged.justified {e after : Engine} {id : String} (keyed : e.Keyed) (built : Catalog.Built e.catalog)
    (found : e.registry[id]? = some t) (judged : e.Judged w t d after) (active : d.decision ≠ .none)
    (landing : Option Host) : e.Justified (d.action landing) := by
  obtain ⟨listed,listing,resolved,member,name,decision,matched⟩ := judged.winner active
  obtain ⟨r,known,applies,_,own,definitions⟩ := Catalog.rulesFor_sound built.consistent listing member
  have target : (d.action landing).target = t := judged.target
  constructor
  · rw [target,keyed id t found]
    exact found
  · refine ⟨resolved.name,r,name,known,?_,?_,?_⟩
    · rw [target]; exact applies
    · exact own.symm.trans decision.symm
    · intro condition listed
      obtain ⟨c,carried,defined⟩ := exists_right_of_forall₂ definitions listed
      obtain ⟨v,holds⟩ := matched c carried
      obtain ⟨present,holds⟩ := Condition.matched?_eq_some_iff.mp holds
      exact ⟨c,v,defined,present,holds⟩
  · intro host
    rw [target] at host
    exact (judged.host_decision built host).resolve_left active

theorem Clears.lands {e : Engine} (clears : e.Clears w d landing) :
    e.Lands w.source (d.action landing) := by
  rcases place_ok clears.place with ⟨rfl,still⟩ | ⟨h,rfl,_,moving,chosen⟩
  · have stop : d.decision = .stop := still.resolve_left clears.active
    constructor
    · exact ⟨fun _ => stop,fun _ => rfl⟩
    all_goals intro h absent; cases absent
  · obtain ⟨known,eligible,admitted⟩ := Admission.nearest_ok chosen
    obtain ⟨region,located,apart⟩ := Admission.eligible_iff.mp eligible
    have region : h.region = e.landingRegion d.target := region.trans (landingArea_region e d.target)
    have only : ∀ other, (d.action (some h)).placement = some other → other = h := by
      intro other same
      exact (Option.some.inj same).symm
    constructor
    · constructor
      · intro absent; cases absent
      · intro stop; exact absurd stop moving
    all_goals
      intro other same
      obtain rfl := only other same
    · exact known
    · exact located
    · exact admitted
    · exact region
    · intro service middle own found r
      rw [region]
      exact landingRegion_central own found r
    · intro unlocated
      rw [region]
      exact landingRegion_home unlocated
    · intro start host running member
      have start : d.decision = .start := start
      have host : d.target.kind = .host := host
      exact apart running (by simpa [excluded,start,host,Kind.isHost] using member)
    · intro migrate
      have migrate : d.decision = .migrate := migrate
      exact apart d.target.host (by simp [excluded,migrate])

end Engine

namespace Session

/-- However the catalog was edited, the registry changed and evaluations overlapped, an action that is
handed out lands where it may at that moment, and was justified at the moment of its decision. An
evaluation that is not interrupted is justified and lands by one and the same state. -/
theorem dispatched_actions (built : Catalog.Built catalog) (settings : Settings)
    (policy : Config.Policy) (admission : Admission) (store : Store) (moves : List Move) :
    let origin := start (.new catalog settings policy admission store)
    let s := run moves origin
    (∀ (w : Surroundings) (id : String) (d : Decided) (a : Action), s.pending[id]? = some d →
      (s.engine.act w d).1.dispatched = some a →
      s.engine.Lands w.source a ∧ ∃ before sampled after,
        moves = before ++ .decide sampled id :: after ∧ (run before origin).engine.Justified a) ∧
    (∀ (w : Surroundings) (id : String) (report : Report) (a : Action),
      (s.engine.evaluate w id).1 = .ok report → report.dispatched = some a →
      s.engine.Justified a ∧ s.engine.Lands w.source a) := by
  intro origin s
  have sound : ∀ moves, (run moves origin).engine.Keyed ∧ Catalog.Built (run moves origin).engine.catalog := by
    intro moves
    constructor
    · exact run_keyed moves (Engine.keyed_new _ _ _ _ _)
    · exact run_built built moves
  constructor
  · intro w id d a pending dispatched
    obtain ⟨landing,clears,rfl⟩ := Engine.act_dispatched dispatched
    obtain ⟨before,sampled,after,t,next,same,found,judged⟩ := pending_origin moves pending
    obtain ⟨keyed,known⟩ := sound before
    exact ⟨clears.lands,before,sampled,after,same,judged.justified keyed known found clears.active landing⟩
  · intro w id report a done dispatched
    rcases s.engine.decide_cases w id with ⟨err,stats,failed⟩ | ⟨t,d,after,found,decided,judged⟩
    · simp [Engine.evaluate,failed] at done
    · have same : (after.act w d).1 = report := by simpa [Engine.evaluate,decided] using done
      rw [← same] at dispatched
      obtain ⟨landing,clears,rfl⟩ := Engine.act_dispatched dispatched
      obtain ⟨keyed,known⟩ := sound moves
      have lands := clears.lands
      have justified := judged.justified keyed known found clears.active landing
      -- Deciding has changed the store alone, and landing does not depend on it.
      obtain ⟨stats,rfl⟩ := judged.recorded
      exact ⟨justified,lands.absent,lands.known,lands.located,lands.admitted,lands.region,lands.central,
        lands.home,lands.fresh,lands.moved⟩

section Requests

/-! The sample fleet with requests from a registered location. Nothing here computes sines, so the middle point
of the requests may be anywhere; a host stands by in every region, and wherever it is the container finds one. -/

def standby (r : Region) : Host := ⟨none, "10.1.0." ++ toString r.ordinal, none, some r.coordinate, r⟩

def requests : Traffic :=
  (Traffic.empty.registerLocation "lisbon" ⟨"lisbon", 38.7, -9.1⟩).record "web" 10 ["lisbon","nowhere"]

def requestMoves : List Move :=
  sampleMoves ++ (Region.all.map fun r => .addHost (standby r) false) ++ [.traffic requests]

def requested : Session :=
  run requestMoves (start (.new .empty .default { Config.Policy.default with migrateAfter := 1 }
    ⟨"total", "available", 90.0, ⟨5000⟩⟩ .empty))

/-- In every region a host takes the container. -/
theorem requested_nearest (r : Region) (point : Coordinate) : ∃ h,
    requested.engine.admission.nearest hot.source (requested.engine.settings.footprintOf (some "web")) r point
      requested.engine.hosts [runningHost] = .ok h := by
  have distinct : (requested.engine.hosts.map (·.publicAddress)).Nodup := by decide +kernel
  rcases Admission.nearest_cases requested.engine.admission hot.source
    (requested.engine.settings.footprintOf (some "web")) r point distinct [runningHost] with
    ⟨h,chosen,_⟩ | ⟨_,nobody⟩
  · exact ⟨h,chosen⟩
  · have known : ∀ r ∈ Region.all, standby r ∈ requested.engine.hosts := by decide +kernel
    have apart : ∀ r ∈ Region.all, (standby r).publicAddress ≠ runningHost.publicAddress := by decide
    have roomy : requested.engine.admission.HasRoom hot.source
        (requested.engine.settings.footprintOf (some "web")) (standby r) :=
      ⟨by simp [hot],8.0e9,6.0e9,rfl,rfl,by decide,by decide +kernel⟩
    refine absurd ⟨rfl,⟨_,rfl⟩,?_,roomy⟩ (nobody _ (known r r.mem_all))
    intro other member
    rw [List.mem_singleton.mp member]
    exact apart r r.mem_all

/-- The hot container is moved, for the rule that says so, and if its requests have a middle point then to a host
in the region nearest to that. -/
theorem hot_container_moves : ∃ report a h, (requested.engine.evaluate hot "web-1").1 = .ok report ∧
    report.dispatched = some a ∧ a.placement = some h ∧ requested.engine.Justified a ∧
    requested.engine.Lands hot.source a ∧
    ∀ middle, requested.engine.traffic.middlePoint? "web" = some middle →
      ∀ r : Region, ¬middle.distance r.coordinate < middle.distance h.region.coordinate := by
  let t := Target.ofContainer "web-1" "web" none runningHost
  have decides : (requested.engine.decide hot "web-1").1.map (fun d => (d.target,d.decision,d.count)) =
      .ok (t,.migrate,1) := by
    decide +kernel
  cases decided : (requested.engine.decide hot "web-1").1 with
  | error err => rw [decided] at decides; cases decides
  | ok d =>
    rw [decided] at decides
    obtain ⟨target,rest⟩ := Prod.mk.inj (Except.ok.inj decides)
    obtain ⟨decision,count⟩ := Prod.mk.inj rest
    obtain ⟨h,nearest⟩ := requested_nearest (requested.engine.landingArea t).2 (requested.engine.landingArea t).1
    have cleared : requested.engine.policy.check d.target.kind d.decision d.count requested.engine.fleetSize =
        .act := by
      rw [target,decision,count]
      decide +kernel
    have place : requested.engine.place hot.source d.target d.decision = .ok (some h) := by
      rw [target,decision]
      exact Engine.place_of_nearest (by decide) (by decide) nearest
    obtain ⟨report,done,dispatched⟩ := Engine.evaluate_dispatches decided ⟨cleared,place⟩
    obtain ⟨justified,lands⟩ := (dispatched_actions .empty .default
      { Config.Policy.default with migrateAfter := 1 } ⟨"total","available",90.0,⟨5000⟩⟩ .empty requestMoves).2
      hot "web-1" report _ done dispatched
    have service : d.target.service = some "web" := by rw [target]; rfl
    exact ⟨report,_,h,done,dispatched,rfl,justified,lands,fun middle => lands.central h rfl "web" middle service⟩

end Requests

end Session

end GeoFleet
