import GeoFleet.Proofs.Catalog.Integrity
import GeoFleet.Proofs.Engine.Frame
import GeoFleet.Proofs.Engine.Judgement
import GeoFleet.Proofs.Engine.Twins
import GeoFleet.Proofs.Store.Owners

/-! No orphans. Whatever is done to an engine that started with an empty store, its store keeps activities
and statistics of registered targets alone, and every target runs on a known host. So a target that left
and comes back is evaluated as if it had never been there. -/
namespace GeoFleet

namespace Engine

/-- The store keeps nothing but of registered targets, and only of those that fit. -/
def Tracks (e : Engine) (fits : String → Prop) : Prop :=
  e.store.KeptOf fun id => id ∈ e.registry ∧ fits id

variable {e : Engine} {fits : String → Prop}

theorem Tracks.of_registry {next : Engine} (tracks : e.Tracks fits) (store : next.store = e.store)
    (grown : ∀ id, id ∈ e.registry → id ∈ next.registry) : next.Tracks fits := by
  rw [Tracks,store]
  exact Store.KeptOf.mono tracks fun id kept => ⟨grown id kept.1,kept.2⟩

theorem Tracks.register (tracks : e.Tracks fits) (t : Target) : (e.register t).Tracks fits :=
  tracks.of_registry rfl fun _ known => Std.ExtTreeMap.mem_insert.mpr (.inr known)

theorem Tracks.addHost (tracks : e.Tracks fits) (h : Host) (active : Bool) :
    (e.addHost h active).Tracks fits := by
  have stocked : Tracks { e with inventory := e.inventory.insert h.publicAddress h } fits := tracks
  cases active with
  | true => exact stocked.register (.ofHost h)
  | false => exact stocked

theorem Tracks.deregister (tracks : e.Tracks fits) (id : String) : (e.deregister id).2.Tracks fits := by
  rw [deregister_eq]
  split
  · refine Store.KeptOf.mono (Store.KeptOf.forget tracks id) ?_
    rintro other ⟨⟨known,fit⟩,apart⟩
    exact ⟨Std.ExtTreeMap.mem_erase.mpr ⟨by simpa using Ne.symm apart,known⟩,fit⟩
  · exact tracks

theorem Tracks.follow (tracks : e.Tracks fits) (t : Target) (d : Decision) (landing : Option Host) :
    (e.follow t d landing).Tracks fits := by
  rcases e.follow_cases t d landing with ⟨_,same⟩ | ⟨h,_,_,_,same⟩ | ⟨h,moved,_,_,_,same⟩ | ⟨_,_,same⟩
  · rw [same]; exact tracks.deregister t.id
  · rw [same]; exact tracks.register (.ofHost h)
  · rw [same]
    exact tracks.of_registry rfl fun _ known => Std.ExtTreeMap.mem_insert.mpr (.inr known)
  · rw [same]; exact tracks

theorem Tracks.complete (tracks : e.Tracks fits) (a : Action) (now : Nat) : (e.complete a now).Tracks fits := by
  have restarted := Store.KeptOf.restartCount tracks a.target.id now
  have settled : (e.settle a now).Tracks fits := ⟨restarted.activities,restarted.statistics⟩
  exact settled.follow a.target a.decision a.placement

theorem Tracks.act (tracks : e.Tracks fits) (w : Surroundings) (d : Decided) : (e.act w d).2.Tracks fits := by
  rcases e.act_cases w d with ⟨outcome,_,same,_⟩ | ⟨landing,message,_,same⟩ | ⟨landing,_,_,same⟩
  · rw [same]; exact tracks
  · rw [same]; exact tracks
  · rw [same]; exact tracks.complete (d.action landing) d.now

/-- What is recorded of a target is its own. -/
theorem Tracks.judge (tracks : e.Tracks fits) (w : Surroundings) (owned : t.id ∈ e.registry ∧ fits t.id) :
    (e.judge w t).2.Tracks fits := by
  rcases e.judge_stages w t with ⟨err,same⟩ | ⟨rules,stats,_,_,frame,done⟩
  · rw [same]; exact tracks
  · have observed := Store.KeptOf.observe tracks owned (e.sampled w t rules) w.now
    rw [frame] at observed
    rcases done with ⟨err,same⟩ | ⟨snapshot,same⟩
    · rw [same]; exact observed
    · rw [same]; exact observed.recordDecision owned t.kind _ w.now

theorem Tracks.decide {id : String} (tracks : e.Tracks fits) (keyed : e.Keyed) (w : Surroundings)
    (fit : id ∈ e.registry → fits id) : (e.decide w id).2.Tracks fits := by
  cases found : e.registry[id]? with
  | none => simpa [Engine.decide,found] using tracks
  | some t =>
    obtain rfl := keyed id t found
    have known : t.id ∈ e.registry := Std.ExtTreeMap.mem_iff_isSome_getElem?.mpr (by rw [found]; rfl)
    simpa [Engine.decide,found] using tracks.judge w ⟨known,fit known⟩

/-- A target that is evaluated as one that nothing was ever kept of: for the first time, without views, and
from then on with what it leaves itself. -/
structure Unknown (e : Engine) (id : String) : Prop where
  evaluations : ∀ ws, evaluations id ws e = evaluations id ws (e.withStore .empty)
  views : ∀ raw now, (e.store.observe id raw now).1 = .ok raw
  count : ∀ w report, (e.evaluate w id).1 = .ok report → report.evaluation.count = 1
  evaluates : Catalog.Built e.catalog → ∀ w, ∃ report, (e.evaluate w id).1 = .ok report

/-- Where no id contains a separator, a target that nothing fits to is unknown. -/
theorem Tracks.unknown {id : String} (tracks : e.Tracks (· ≠ id)) (keyed : e.Keyed)
    (known : id ∈ e.registry) (plain : ∀ other ∈ e.registry, Key.Plain other) : e.Unknown id := by
  obtain ⟨activity,statistics⟩ := Store.KeptOf.nothing tracks (plain id known)
    fun other kept => ⟨kept.2,plain other kept.1⟩
  have blank : e.store.SameFor id .empty := by
    refine ⟨?_,?_⟩
    · rw [activity]; simp [Store.empty]
    · intro field; rw [statistics field]; simp [Store.empty]
  constructor
  · intro ws
    exact (evaluations_twin keyed blank ws).symm
  · intro raw now
    rw [(Store.readable_unknown statistics).observe raw now,Store.extended_unknown statistics]
  · intro w report done
    rcases e.evaluate_halves w id with ⟨err,stats,failed⟩ | ⟨t,d,after,found,judged,result⟩
    · rw [failed] at done; cases done
    · rw [result] at done
      cases done
      rw [(after.act_report w d).2.2.2,judged.count,keyed id t found,activity]
      rfl
  · intro built w
    obtain ⟨t,found⟩ := Option.isSome_iff_exists.mp (Std.ExtTreeMap.mem_iff_isSome_getElem?.mp known)
    obtain ⟨rules,listing⟩ := built.whole.lists t
    have readable : e.store.Readable t.id := by
      rw [keyed id t found]
      exact Store.readable_unknown statistics
    obtain ⟨report,done,_⟩ := evaluate_readable found listing readable w
    exact ⟨report,done⟩

end Engine

namespace Session

variable {fits : String → Prop}

theorem step_decide_engine (s : Session) (w : Surroundings) (id : String) :
    (s.step (.decide w id)).engine = s.engine ∨
      (s.step (.decide w id)).engine = (s.engine.decide w id).2 := by
  simp only [step]
  split
  · exact .inl rfl
  · rcases decided : s.engine.decide w id with ⟨_ | d,e⟩ <;> exact .inr rfl

/-- A step keeps nothing of other targets, unless it decides for one. -/
theorem step_tracks {s : Session} (keyed : s.engine.Keyed) (tracks : s.engine.Tracks fits) {m : Move}
    (fit : ∀ w id, m = .decide w id → id ∈ s.engine.registry → fits id) :
    (s.step m).engine.Tracks fits := by
  cases m with
  | register t => exact tracks.register t
  | addHost h active => exact tracks.addHost h active
  | edit o => exact tracks
  | traffic t => exact tracks
  | deregister id =>
    rcases s.step_deregister id with same | ⟨t,_,_,same⟩
    · rw [same]; exact tracks
    · rw [same]; exact tracks.deregister id
  | decide w id =>
    rcases s.step_decide_engine w id with same | same
    · rw [same]; exact tracks
    · rw [same]; exact tracks.decide keyed w (fit w id rfl)
  | act w id =>
    cases found : s.pending[id]? with
    | none => simpa [step,found] using tracks
    | some d => rw [step_act found]; exact tracks.act w d

/-- What is kept in the end is kept of targets that fit, if every target that is decided for does. -/
theorem run_tracks {s : Session} (keyed : s.engine.Keyed) (tracks : s.engine.Tracks fits)
    {moves : List Move} (fit : ∀ before w id after, moves = before ++ .decide w id :: after →
      id ∈ (run before s).engine.registry → fits id) : (run moves s).engine.Tracks fits := by
  induction moves generalizing s with
  | nil => exact tracks
  | cons m moves ih =>
    refine ih (step_keyed s m keyed) (step_tracks keyed tracks ?_) ?_
    · rintro w id rfl
      exact fit [] w id moves rfl
    · intro before w id after same
      exact fit (m :: before) w id after (by rw [same]; rfl)

theorem step_inventory (address : String) (s : Session) (m : Move) (known : address ∈ s.engine.inventory) :
    address ∈ (s.step m).engine.inventory := by
  refine step_invariant (fun e => address ∈ e.inventory) ?_ ?_ ?_ ?_ ?_ s m known
  · intro e next _ inventory known
    rw [inventory]
    exact known
  · intro e t known
    exact Std.ExtTreeMap.mem_insertIfNew.mpr (.inr known)
  · intro e h active known
    have grown : address ∈ e.inventory.insert h.publicAddress h := Std.ExtTreeMap.mem_insert.mpr (.inr known)
    cases active with
    | true => exact Std.ExtTreeMap.mem_insertIfNew.mpr (.inr grown)
    | false => exact grown
  · intro e id known
    rw [Engine.deregister_inventory]
    exact known
  · intro e t d landing _ known
    rcases e.follow_cases t d landing with ⟨_,same⟩ | ⟨h,_,_,_,same⟩ | ⟨h,moved,_,_,_,same⟩ | ⟨_,_,same⟩
    · rw [same,Engine.deregister_inventory]; exact known
    · rw [same]; exact Std.ExtTreeMap.mem_insertIfNew.mpr (.inr known)
    · rw [same]; exact known
    · rw [same]; exact known

/-- The moves that take a target out of the registry: dropping it while no decision for it is pending, and
carrying out the decision to stop it. -/
def Releases (s : Session) (id : String) : Move → Prop
  | .deregister other => other = id ∧ s.pending[id]? = none
  | .act w other => other = id ∧ ∃ d, s.pending[id]? = some d ∧ d.decision = .stop ∧
    (s.engine.act w d).1.evaluation.outcome.isApplied = true
  | _ => False

theorem Releases.gone {s : Session} {id : String} {m : Move} (releases : s.Releases id m)
    (owner : ∀ d, s.pending[id]? = some d → d.target.id = id) :
    (s.step m).engine.registry[id]? = none := by
  cases m with
  | deregister other =>
    obtain ⟨rfl,idle⟩ := releases
    cases found : s.engine.registry[other]? with
    | none =>
      simp [step,Std.ExtTreeMap.contains_eq_isSome_getElem?,idle,Engine.deregister_eq,found]
    | some t =>
      simp [step,Std.ExtTreeMap.contains_eq_isSome_getElem?,idle,Engine.deregister_eq,found]
  | act w other =>
    obtain ⟨rfl,d,found,stop,applied⟩ := releases
    rw [step_act found]
    rcases s.engine.act_cases w d with ⟨outcome,short,same,_⟩ | ⟨landing,message,_,same⟩ | ⟨landing,_,_,same⟩
    all_goals rw [same] at applied ⊢
    · exact absurd (short.symm.trans applied) (by simp)
    · cases applied
    · have own : (d.action landing).target.id = other := owner d found
      have stopped : (d.action landing).decision = .stop := stop
      simp [Engine.complete,stopped,Engine.follow_stop,Engine.deregister_registry,own]
  | _ => cases releases

/-- Whatever is done to an engine that started with an empty store, everything but the log is kept of
registered targets alone, each target stands under its id on a known host, and no host is ever lost. So where
no id contains a separator, a target that was dropped or stopped, and is registered again without having been
evaluated in between, is evaluated as one that nothing was ever kept of. -/
theorem nothing_is_orphaned (catalog : Catalog) (settings : Settings) (policy : Config.Policy)
    (admission : Admission) (moves : List Move) :
    let s := run moves (start (.new catalog settings policy admission .empty))
    s.engine.store.KeptOf (· ∈ s.engine.registry) ∧
    (∀ (id : String) (t : Target), s.engine.registry[id]? = some t →
      t.id = id ∧ t.host.publicAddress ∈ s.engine.inventory) ∧
    (∀ later address, address ∈ s.engine.inventory → address ∈ (run later s).engine.inventory) ∧
    ∀ id m later, s.Releases id m →
      (∀ before w after, later = before ++ .decide w id :: after →
        (run before (s.step m)).engine.registry[id]? = none) →
      let next := (run (m :: later) s).engine
      id ∈ next.registry → (∀ other ∈ next.registry, Key.Plain other) → next.Unknown id := by
  intro s
  have keyed : s.engine.Keyed := run_keyed moves (Engine.keyed_new _ _ _ _ _)
  have housed : s.engine.Housed := run_housed moves (Engine.stocked_new _ _ _ _ _) (Engine.housed_new _ _ _ _ _)
  have counted : Counted s := run_counted catalog settings policy admission moves
  have blank : (Engine.new catalog settings policy admission .empty).Tracks fun _ => True :=
    Store.keptOf_empty _
  have tracks : s.engine.Tracks fun _ => True :=
    run_tracks (Engine.keyed_new _ _ _ _ _) blank fun _ _ _ _ _ _ => trivial
  refine ⟨Store.KeptOf.mono tracks fun id kept => kept.1,?_,?_,?_⟩
  · intro id t found
    exact ⟨keyed id t found,housed id t found⟩
  · intro later address known
    exact run_invariant (fun s => address ∈ s.engine.inventory) (step_inventory address) known later
  · intro id m later releases unevaluated next known plain
    have absent : (s.step m).engine.registry[id]? = none := releases.gone fun d => counted.owner id d
    have present : ∀ {e : Engine}, e.registry[id]? = none → ¬id ∈ e.registry := by
      intro e absent
      simp [Std.ExtTreeMap.mem_iff_isSome_getElem?,absent]
    have others : (s.step m).engine.Tracks (· ≠ id) := by
      refine Store.KeptOf.mono (step_tracks keyed tracks fun _ _ _ _ => trivial) ?_
      rintro other ⟨registered,_⟩
      refine ⟨registered,?_⟩
      rintro rfl
      exact present absent registered
    have kept : next.Tracks (· ≠ id) := by
      refine run_tracks (step_keyed s m keyed) others ?_
      rintro before w other after same registered rfl
      exact present (unevaluated before w after same) registered
    exact kept.unknown (run_invariant (fun s => s.engine.Keyed) step_keyed (step_keyed s m keyed) later)
      known plain

def evaluated : Session := run [.decide hot "web-1",.act hot "web-1"] (sample 2)

def comeBack : Move := .register (.ofContainer "web-1" "web" none runningHost)

/-- A container that was evaluated, is dropped, and comes back. -/
theorem container_comes_back : evaluated.engine.store.activities.contains "web-1" = true ∧
    (run [.deregister "web-1",comeBack] evaluated).engine.Unknown "web-1" := by
  have recorded : evaluated.engine.store.activities.contains "web-1" = true := by decide +kernel
  have idle : evaluated.pending["web-1"]?.isNone = true := by decide +kernel
  have listed : (run [.deregister "web-1",comeBack] evaluated).engine.registry.keys =
      ["10.0.0.1","web-1"] := by
    decide +kernel
  have evaluated_run : evaluated = run (sampleMoves ++ [.decide hot "web-1",.act hot "web-1"])
      (start (.new .empty .default { Config.Policy.default with migrateAfter := 2 }
        ⟨"total","available",90.0,⟨5000⟩⟩ .empty)) := by
    rw [run_append]; rfl
  refine ⟨recorded,?_⟩
  have orphaned := (nothing_is_orphaned .empty .default { Config.Policy.default with migrateAfter := 2 }
    ⟨"total","available",90.0,⟨5000⟩⟩ (sampleMoves ++ [.decide hot "web-1",.act hot "web-1"])).2.2.2
  rw [← evaluated_run] at orphaned
  refine orphaned "web-1" (.deregister "web-1") [comeBack] ⟨rfl,Option.isNone_iff_eq_none.mp idle⟩ ?_ ?_ ?_
  · intro before w after same
    cases before <;> simp [comeBack] at same
  · rw [← Std.ExtTreeMap.mem_keys,listed]
    simp
  · intro other known
    rw [← Std.ExtTreeMap.mem_keys,listed] at known
    revert other
    decide

end Session

end GeoFleet
