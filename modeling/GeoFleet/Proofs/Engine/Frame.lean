import GeoFleet.Proofs.Engine.Crew
import GeoFleet.Proofs.Engine.Streak

/-! What an evaluation changes, by how it ends. Whatever its end, other targets keep their activities
and their statistics. Short of an action that was carried out, the registry and the log stay as they
are; such an action writes one row of the log and follows the landing host in the registry, and only
a target that was stopped leaves nothing behind. -/
namespace GeoFleet

namespace Engine

theorem deregister_statistics (e : Engine) (id : String) :
    e.store.fieldStats.SameBeside id (e.deregister id).2.store.fieldStats := by
  rw [deregister_eq]
  split
  · intro key other
    exact (Store.deleteFieldStats_rows _ id key).trans (if_neg (by simp [other]))
  · exact .refl _ _

theorem follow_statistics (e : Engine) (t : Target) (d : Decision) (landing : Option Host) :
    e.store.fieldStats.SameBeside t.id (e.follow t d landing).store.fieldStats := by
  rcases e.follow_cases t d landing with ⟨_,same⟩ | ⟨h,_,_,_,same⟩ | ⟨h,moved,_,_,_,same⟩ | ⟨_,_,same⟩
  · rw [same]; exact e.deregister_statistics t.id
  · rw [same]; exact .refl _ _
  · rw [same]; exact .refl _ _
  · rw [same]; exact .refl _ _

theorem complete_statistics (e : Engine) (a : Action) (now : Nat) :
    e.store.fieldStats.SameBeside a.target.id (e.complete a now).store.fieldStats := by
  have settled : (e.settle a now).store.fieldStats = e.store.fieldStats := by
    simp [settle,Store.putDecision]
  rw [← settled]
  exact (e.settle a now).follow_statistics a.target a.decision a.placement

theorem act_statistics (e : Engine) (w : Surroundings) (d : Decided) :
    e.store.fieldStats.SameBeside d.target.id (e.act w d).2.store.fieldStats := by
  rcases e.act_cases w d with ⟨outcome,_,same,_⟩ | ⟨landing,message,_,same⟩ | ⟨landing,_,_,same⟩
  · rw [same]; exact .refl _ _
  · rw [same]; exact .refl _ _
  · rw [same]; exact e.complete_statistics (d.action landing) d.now

theorem judge_statistics (e : Engine) (w : Surroundings) (t : Target) :
    e.store.fieldStats.SameBeside t.id (e.judge w t).2.store.fieldStats := by
  rcases e.judge_stages w t with
    ⟨err,same⟩ | ⟨rules,stats,_,beside,_,⟨err,same⟩ | ⟨snapshot,same⟩⟩
  · rw [same]; exact .refl _ _
  · rw [same]; exact beside
  · rw [same]; exact beside

theorem evaluate_statistics {e : Engine} (keyed : e.Keyed) (w : Surroundings) (id : String) :
    e.store.fieldStats.SameBeside id (e.evaluate w id).2.store.fieldStats := by
  cases found : e.registry[id]? with
  | none => simp only [evaluate,decide,found]; exact .refl _ _
  | some t =>
    have own : t.id = id := keyed id t found
    have first := e.judge_statistics w t
    rw [own] at first
    rcases e.judge_cases w t with ⟨err,stats,failed⟩ | ⟨d,after,judging,judged⟩
    · rw [failed] at first
      simpa [evaluate,decide,found,failed] using first
    · have second := after.act_statistics w d
      rw [judging] at first
      rw [judged.target,own] at second
      simpa [evaluate,decide,found,judging] using first.trans second

/-- What no evaluation of a target changes: what the engine decides by, the hosts it knows, and the
activities and statistics of all other targets. -/
structure Spares (e next : Engine) (id : String) : Prop extends Alike e next where
  inventory : next.inventory = e.inventory
  activities : ∀ other, other ≠ id → next.store.activities[other]? = e.store.activities[other]?
  statistics : ∀ other, other ≠ id → Key.Plain other → ∀ field,
    next.store.fieldStats[Key.fieldStats other field]? = e.store.fieldStats[Key.fieldStats other field]?

structure Aborted (e next : Engine) : Prop where
  registry : next.registry = e.registry
  activities : next.store.activities = e.store.activities
  decisions : next.store.decisions = e.store.decisions

structure Held (e next : Engine) (id : String) (t : Target) (v : Evaluation) (now : Nat) : Prop where
  registry : next.registry = e.registry
  decisions : next.store.decisions = e.store.decisions
  activity : next.store.activities[id]? = some ⟨id,t.kind,v.decision,v.count,now⟩

structure Applied (e next : Engine) (id : String) (t : Target) (report : Report) (now : Nat) : Prop where
  logged : ∃ a, report.dispatched = some a ∧
    next.store.decisions = e.store.decisions.insert (Key.decision id now) (a.logEntry now).stored?
  restarted : report.evaluation.decision ≠ .stop →
    next.store.activities[id]? = some ⟨id,t.kind,.none,1,now⟩
  stopped : report.evaluation.decision = .stop →
    next.registry = e.registry.erase id ∧ next.store.activities[id]? = none ∧
      ∀ field, next.store.fieldStats[Key.fieldStats id field]? = none
  started : report.evaluation.decision = .start → t.kind = .host →
    ∃ h, report.evaluation.outcome = .applied (some h.publicAddress) ∧
      e.inventory[h.publicAddress]? = some h ∧
      next.registry = e.registry.insert h.publicAddress (.ofHost h)
  migrated : report.evaluation.decision = .migrate →
    ∃ h, report.evaluation.outcome = .applied (some h.publicAddress) ∧
      e.inventory[h.publicAddress]? = some h ∧ next.registry = e.registry.insert id { t with host := h }
  kept : report.evaluation.decision ≠ .stop → report.evaluation.decision ≠ .migrate →
    ¬(report.evaluation.decision = .start ∧ t.kind = .host) → next.registry = e.registry

theorem Spares.of_beside {e next : Engine} {id : String} (alike : e.Alike next)
    (inventory : next.inventory = e.inventory)
    (activities : ∀ other : String, other ≠ id →
      next.store.activities[other]? = e.store.activities[other]?)
    (beside : e.store.fieldStats.SameBeside id next.store.fieldStats) (plain : Key.Plain id) :
    e.Spares next id := by
  refine ⟨alike,inventory,activities,?_⟩
  intro other apart separate field
  apply beside
  rw [← Bool.not_eq_true,Key.begins_stem_iff plain separate]
  exact Ne.symm apart

theorem follow_store {e : Engine} (moving : d ≠ .stop) (t : Target) (landing : Option Host) :
    (e.follow t d landing).store = e.store := by
  rcases e.follow_cases t d landing with ⟨stop,_⟩ | ⟨h,_,_,_,same⟩ | ⟨h,moved,_,_,_,same⟩ | ⟨_,_,same⟩
  · exact absurd stop moving
  · rw [same]; rfl
  · rw [same]
  · rw [same]

theorem follow_stop (e : Engine) (t : Target) (landing : Option Host) :
    e.follow t .stop landing = (e.deregister t.id).2 := by
  simp [follow]

theorem follow_start_host (e : Engine) (h : Host) (host : t.kind = .host) :
    e.follow t .start (some h) = e.register (.ofHost h) := by
  simp [follow,host,Kind.isHost]

theorem follow_migrate {e : Engine} (found : e.registry[t.id]? = some t) (h : Host) :
    e.follow t .migrate (some h) = { e with registry := e.registry.insert t.id { t with host := h } } := by
  simp [follow,found]

theorem deregister_gone {e : Engine} {id : String} (found : e.registry[id]? = some t) :
    (e.deregister id).2.store.activities[id]? = none ∧
      ∀ field, (e.deregister id).2.store.fieldStats[Key.fieldStats id field]? = none := by
  simp only [deregister_eq,found,Option.isSome_some,if_true]
  refine ⟨by simp,?_⟩
  intro field
  exact (Store.deleteFieldStats_rows _ id _).trans (if_pos (Key.begins_stem id field))

theorem complete_decisions (e : Engine) (a : Action) (now : Nat) :
    (e.complete a now).store.decisions =
      e.store.decisions.insert (Key.decision a.target.id now) (a.logEntry now).stored? := by
  rw [complete,follow_decisions,settle_decisions]
  rfl

/-- The landing host of an action that was cleared. -/
theorem Clears.landed {e : Engine} (stocked : e.Stocked) (clears : e.Clears w d landing)
    (moving : d.decision ≠ .stop) : ∃ h, landing = some h ∧ e.inventory[h.publicAddress]? = some h := by
  rcases place_ok clears.place with ⟨_,still⟩ | ⟨h,landed,_⟩
  · exact absurd (still.resolve_left clears.active) moving
  · exact ⟨h,landed,place_known stocked clears.place h landed⟩

/-- What stands under the target of an action that was settled: its record, started over. -/
theorem settle_own {e : Engine} {a : Action} {r : Activity}
    (recorded : e.store.activities[a.target.id]? = some r) (own : r.target = a.target.id) (now : Nat) :
    (e.settle a now).store.activities[a.target.id]? = some (r.restarted now) := by
  have keyed : ∀ other, e.store.activities[a.target.id]? = some other → other.target = a.target.id := by
    intro other present
    rw [recorded] at present
    cases present
    exact own
  rw [settle_activities e a now keyed,if_pos rfl,recorded]
  rfl

/-- An applied action is followed as its decision says, and nothing else changes the registry. -/
theorem Clears.applied {e : Engine} {id : String} (stocked : e.Stocked) (clears : e.Clears w d landing)
    (found : e.registry[id]? = some d.target) (own : d.target.id = id)
    (recorded : e.store.activities[id]? = some ⟨id,d.target.kind,d.decision,d.count,d.now⟩) :
    e.Applied (e.complete (d.action landing) d.now) id d.target
      (d.report (.applied (landing.map (·.publicAddress))) (some (d.action landing))) d.now := by
  subst own
  let settled := e.settle (d.action landing) d.now
  have followed : e.complete (d.action landing) d.now = settled.follow d.target d.decision landing := rfl
  have registered : settled.registry[d.target.id]? = some d.target := found
  constructor
  · exact ⟨d.action landing,rfl,e.complete_decisions _ _⟩
  · intro (moving : d.decision ≠ .stop)
    rw [followed,follow_store moving]
    exact settle_own (a := d.action landing) recorded rfl d.now
  · intro (stop : d.decision = .stop)
    rw [followed,stop,follow_stop,deregister_registry]
    exact ⟨rfl,deregister_gone registered⟩
  · intro (start : d.decision = .start) host
    obtain ⟨h,rfl,known⟩ := clears.landed stocked (by simp [start])
    refine ⟨h,rfl,known,?_⟩
    rw [followed,start,follow_start_host settled h host]
    rfl
  · intro (migrate : d.decision = .migrate)
    obtain ⟨h,rfl,known⟩ := clears.landed stocked (by simp [migrate])
    refine ⟨h,rfl,known,?_⟩
    rw [followed,migrate,follow_migrate registered h]
    rfl
  · intro moving staying other
    rw [followed]
    rcases settled.follow_cases d.target d.decision landing with
      ⟨stop,_⟩ | ⟨h,start,_,host,_⟩ | ⟨h,moved,migrate,_⟩ | ⟨_,_,same⟩
    · exact absurd stop moving
    · exact absurd ⟨start,host⟩ other
    · exact absurd migrate staying
    · rw [same]; rfl

theorem act_inventory {e : Engine} (stocked : e.Stocked) (w : Surroundings) (d : Decided) :
    (e.act w d).2.inventory = e.inventory := by
  rcases e.act_cases w d with ⟨outcome,_,same,_⟩ | ⟨landing,message,_,same⟩ | ⟨landing,clears,_,same⟩
  · rw [same]
  · rw [same]
  · rw [same]
    exact (e.settle (d.action landing) d.now).follow_inventory d.target d.decision
      (place_known stocked clears.place)

theorem act_activities_other {e : Engine} {d : Decided} (w : Surroundings)
    (own : ∀ r, e.store.activities[d.target.id]? = some r → r.target = d.target.id) {other : String}
    (apart : other ≠ d.target.id) : (e.act w d).2.store.activities[other]? = e.store.activities[other]? := by
  rcases e.act_cases w d with ⟨outcome,_,same,_⟩ | ⟨landing,message,_,same⟩ | ⟨landing,_,_,same⟩
  · rw [same]
  · rw [same]
  · rw [same]
    exact e.complete_activities_other (d.action landing) d.now own apart

theorem Judged.activity {e after : Engine} (judged : e.Judged w t d after) :
    after.store.activities[t.id]? = some ⟨t.id,t.kind,d.decision,d.count,w.now⟩ := by
  obtain ⟨stats,rfl⟩ := judged.recorded
  simp

theorem Judged.spares {e after : Engine} (stocked : e.Stocked) (judged : e.Judged w t d after)
    (plain : Key.Plain t.id)
    (beside : e.store.fieldStats.SameBeside t.id (after.act w d).2.store.fieldStats) :
    e.Spares (after.act w d).2 t.id := by
  have target : d.target = t := judged.target
  have own : ∀ r, after.store.activities[d.target.id]? = some r → r.target = d.target.id := by
    intro r present
    rw [target,judged.activity] at present
    cases present
    rw [target]
  have alike : e.Alike (after.act w d).2 := judged.alike.trans (after.act_alike w d)
  obtain ⟨stats,recorded⟩ := judged.recorded
  have inventory : after.inventory = e.inventory := by rw [recorded]
  apply Spares.of_beside alike _ _ beside plain
  · rw [act_inventory (stocked.of_inventory_eq inventory),inventory]
  · intro other apart
    rw [act_activities_other w own (by rw [target]; exact apart),recorded]
    exact getElem?_insert_ne (Ne.symm apart)

theorem evaluate_spares {e : Engine} {id : String} (keyed : e.Keyed) (stocked : e.Stocked)
    (plain : ∀ t, e.registry[id]? = some t → Key.Plain id) (w : Surroundings) :
    e.Spares (e.evaluate w id).2 id := by
  have beside := evaluate_statistics keyed w id
  rcases e.evaluate_halves w id with ⟨err,stats,failed⟩ | ⟨t,d,after,found,judged,same⟩
  · rw [failed] at beside ⊢
    cases known : e.registry[id]? with
    | none =>
      have same : (e.evaluate w id).2 = e := by simp [evaluate,decide,known]
      rw [failed] at same
      rw [same]
      exact ⟨⟨rfl,rfl,rfl,rfl,rfl⟩,rfl,fun _ _ => rfl,fun _ _ _ _ => rfl⟩
    | some t => exact .of_beside ⟨rfl,rfl,rfl,rfl,rfl⟩ rfl (fun _ _ => rfl) beside (plain t known)
  · have own : t.id = id := keyed id t found
    rw [same] at beside ⊢
    rw [← own] at beside ⊢
    exact judged.spares stocked (own ▸ plain t found) beside

theorem evaluate_aborted {e : Engine} {id : String} (failed : (e.evaluate w id).1 = .error err) :
    e.Aborted (e.evaluate w id).2 := by
  rcases e.evaluate_halves w id with ⟨_,stats,same⟩ | ⟨t,d,after,_,_,same⟩
  · rw [same]; exact ⟨rfl,rfl,rfl⟩
  · rw [same] at failed; cases failed

theorem evaluate_completed {e : Engine} {id : String} (keyed : e.Keyed) (stocked : e.Stocked)
    (done : (e.evaluate w id).1 = .ok report) : ∃ t, e.registry[id]? = some t ∧
      (report.evaluation.outcome.isApplied = false →
        e.Held (e.evaluate w id).2 id t report.evaluation w.now) ∧
      (report.evaluation.outcome.isApplied = true → e.Applied (e.evaluate w id).2 id t report w.now) := by
  rcases e.evaluate_halves w id with ⟨_,_,same⟩ | ⟨t,d,after,found,judged,same⟩
  · rw [same] at done; cases done
  · refine ⟨t,found,?_⟩
    have own : t.id = id := keyed id t found
    have target : d.target = t := judged.target
    have activity := judged.activity
    rw [own] at activity
    have now : d.now = w.now := judged.now
    rw [same] at done ⊢
    obtain ⟨stats,recorded⟩ := judged.recorded
    rcases after.act_cases w d with
      ⟨outcome,short,ended,_⟩ | ⟨landing,message,_,ended⟩ | ⟨landing,clears,_,ended⟩
    all_goals
      rw [ended] at done ⊢
      cases done
    · refine ⟨fun _ => ⟨by rw [recorded],by rw [recorded],activity⟩,?_⟩
      intro applied
      have applied : outcome.isApplied = true := applied
      rw [short] at applied
      cases applied
    · refine ⟨fun _ => ⟨by rw [recorded],by rw [recorded],activity⟩,?_⟩
      intro applied
      cases applied
    · rw [← now,← target] at activity ⊢
      have stocked : after.Stocked := stocked.of_inventory_eq (by rw [recorded])
      have registered : after.registry[id]? = some d.target := by rw [recorded,target]; exact found
      have applied := clears.applied stocked registered (target ▸ own) activity
      subst recorded
      refine ⟨nofun,fun _ => ?_⟩
      -- The registry, the inventory and the log that it starts from are those before the decision.
      exact ⟨applied.logged,applied.restarted,applied.stopped,applied.started,applied.migrated,
        applied.kept⟩

end Engine

namespace Session

/-- Whatever has happened to an engine, as long as no target's id contains a separator, an evaluation
touches exactly what its end says. The database under the store is assumed to work: an evaluation stops
early at an unknown target, at rules that cannot be resolved and at statistics that cannot be read back, and
never between recording a decision and following its action. -/
theorem evaluation_effects (catalog : Catalog) (settings : Settings) (policy : Config.Policy)
    (admission : Admission) (store : Store) (moves : List Move) (w : Surroundings) (id : String)
    (plain : ∀ (known : String) (t : Target),
      (run moves (start (.new catalog settings policy admission store))).engine.registry[known]? = some t →
      Key.Plain known) :
    let e := (run moves (start (.new catalog settings policy admission store))).engine
    let next := (e.evaluate w id).2
    e.Spares next id ∧
    (∀ err, (e.evaluate w id).1 = .error err → e.Aborted next) ∧
    ∀ report, (e.evaluate w id).1 = .ok report → ∃ t, e.registry[id]? = some t ∧
      (report.evaluation.outcome.isApplied = false → e.Held next id t report.evaluation w.now) ∧
      (report.evaluation.outcome.isApplied = true → e.Applied next id t report w.now) := by
  intro e next
  have keyed : e.Keyed := run_keyed moves (Engine.keyed_new _ _ _ _ _)
  have stocked : e.Stocked := run_stocked moves (Engine.stocked_new _ _ _ _ _)
  refine ⟨Engine.evaluate_spares keyed stocked (plain id) w,?_,?_⟩
  · intro err failed
    exact Engine.evaluate_aborted failed
  · intro report done
    exact Engine.evaluate_completed keyed stocked done

/-- The hot container of the sample fleet is moved, which touches nothing but itself and the log. -/
theorem hot_container_is_followed :
    (sample 1).engine.Spares ((sample 1).engine.evaluate hot "web-1").2 "web-1" ∧
    ∃ t report, ((sample 1).engine.evaluate hot "web-1").1 = .ok report ∧
      (sample 1).engine.Applied ((sample 1).engine.evaluate hot "web-1").2 "web-1" t report 1000 := by
  have plain : ∀ (known : String) (t : Target), (sample 1).engine.registry[known]? = some t →
      Key.Plain known := by
    have listed : ∀ known ∈ (sample 1).engine.registry.keys, Key.Plain known := by decide +kernel
    intro known t found
    exact listed known (Std.ExtTreeMap.mem_keys.mpr
      (Std.ExtTreeMap.mem_iff_isSome_getElem?.mpr (by rw [found]; rfl)))
  obtain ⟨spares,_,completed⟩ := evaluation_effects .empty .default
    { Config.Policy.default with migrateAfter := 1 } ⟨"total","available",90.0,⟨5000⟩⟩ .empty sampleMoves
    hot "web-1" plain
  refine ⟨spares,?_⟩
  have moved : (((sample 1).engine.evaluate hot "web-1").1.toOption.any
      (·.evaluation.outcome.isApplied)) = true := by
    decide +kernel
  cases done : ((sample 1).engine.evaluate hot "web-1").1 with
  | error err => rw [done] at moved; cases moved
  | ok report =>
    rw [done] at moved
    obtain ⟨t,_,_,applied⟩ := completed report done
    exact ⟨t,report,rfl,applied moved⟩

end Session

end GeoFleet
