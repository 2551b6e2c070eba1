import GeoFleet.Proofs.Engine.Frame
import GeoFleet.Proofs.Text.ByteOrder

/-! The order of a pass. What a target's evaluation decides rests on the catalog, on the target's own
place in the registry, and on what the store keeps of it. None of that is touched by the evaluation of
another target, be its action applied or not, so a pass decides the same in whatever order it goes. -/
namespace GeoFleet

def Report.verdict (r : Report) : Decision × Option String × Nat :=
  (r.evaluation.decision, r.evaluation.rule, r.evaluation.count)

namespace Engine

/-- Engines that the decision for a target cannot tell apart. -/
structure Agrees (id : String) (e next : Engine) : Prop where
  catalog : next.catalog = e.catalog
  settings : next.settings = e.settings
  registered : next.registry[id]? = e.registry[id]?
  activity : next.store.activities[id]? = e.store.activities[id]?
  statistics : e.store.fieldStats.SameOf id next.store.fieldStats

theorem Agrees.judge {e next : Engine} (agrees : Agrees t.id e next) (w : Surroundings) :
    (next.judge w t).1 = (e.judge w t).1 := by
  have listed : next.catalog.rulesFor t = e.catalog.rulesFor t := by rw [agrees.catalog]
  cases listing : e.catalog.rulesFor t with
  | error err => rw [judge_unresolved listing,judge_unresolved (listed.trans listing)]
  | ok rules =>
    rw [listing] at listed
    have sampled : next.sampled w t rules = e.sampled w t rules := by
      rw [Engine.sampled,Engine.sampled,agrees.catalog,agrees.settings]
    have same := Store.observe_congr agrees.statistics (e.sampled w t rules) w.now
    obtain ⟨_,_,first⟩ := e.store.observe_frame t.id (e.sampled w t rules) w.now
    obtain ⟨_,_,second⟩ := next.store.observe_frame t.id (e.sampled w t rules) w.now
    rcases here : e.store.observe t.id (e.sampled w t rules) w.now with ⟨result,store⟩
    rcases there : next.store.observe t.id (e.sampled w t rules) w.now with ⟨other,later⟩
    simp only [here,there] at same first second
    subst same
    rw [← sampled] at there
    cases other with
    | error err => rw [judge_unread listing here,judge_unread listed there]
    | ok snapshot =>
      rw [judge_observed listing here,judge_observed listed there]
      simp [first,second,Store.recordDecision,agrees.activity]

theorem Agrees.decide {e next : Engine} {id : String} (keyed : e.Keyed) (agrees : Agrees id e next)
    (w : Surroundings) : (next.decide w id).1 = (e.decide w id).1 := by
  cases found : e.registry[id]? with
  | none => simp [Engine.decide,agrees.registered,found]
  | some t =>
    obtain rfl := keyed id t found
    simpa [Engine.decide,agrees.registered,found] using agrees.judge w

/-- What an evaluation decides is what its first half decides. -/
theorem evaluate_verdict (e : Engine) (w : Surroundings) (id : String) :
    (e.evaluate w id).1.map Report.verdict =
      (e.decide w id).1.map fun d => (d.decision,d.rule,d.count) := by
  rcases e.decide_cases w id with ⟨err,stats,failed⟩ | ⟨t,d,after,_,decided,_⟩
  · simp [evaluate,failed,Except.map]
  · obtain ⟨_,decision,rule,count⟩ := after.act_report w d
    simp [evaluate,decided,Except.map,Report.verdict,decision,rule,count]

theorem Agrees.verdict {e next : Engine} {id : String} (keyed : e.Keyed) (agrees : Agrees id e next)
    (w : Surroundings) :
    (next.evaluate w id).1.map Report.verdict = (e.evaluate w id).1.map Report.verdict := by
  rw [evaluate_verdict,evaluate_verdict,agrees.decide keyed w]

theorem evaluate_tidy {e : Engine} (tidy : e.Tidy) (built : Catalog.Built e.catalog) (w : Surroundings)
    (id : String) : (e.evaluate w id).2.Tidy := by
  rcases e.evaluate_follows w id with
    ⟨store,same⟩ | ⟨t,d,recorded,settled,landing,found,judged,clears,same⟩
  · rw [same]; exact tidy.of_eq rfl rfl
  · have followable := judged.followable tidy built found clears
    have still : Tidy { e with store := settled } := tidy.of_eq rfl rfl
    rw [same]
    exact still.follow ⟨followable.workload,followable.host,followable.landing⟩

/-- No evaluation takes another target out of the registry or puts one in its place. -/
theorem evaluate_registry_other {e : Engine} {id other : String} (tidy : e.Tidy) (w : Surroundings)
    (found : e.registry[other]? = some x) (apart : other ≠ id) :
    (e.evaluate w id).2.registry[other]? = some x := by
  rcases e.evaluate_follows w id with
    ⟨store,same⟩ | ⟨t,d,recorded,settled,landing,known,judged,clears,same⟩
  · rw [same]; exact found
  · have own : d.target.id = id := by rw [judged.target]; exact tidy.keyed id t known
    rw [same]
    rcases follow_cases { e with store := settled } d.target d.decision landing with
      ⟨_,followed⟩ | ⟨h,start,rfl,host,followed⟩ | ⟨h,moved,_,_,_,followed⟩ | ⟨_,_,followed⟩
    all_goals rw [followed]
    · rw [deregister_registry,own,getElem?_erase_ne (Ne.symm apart)]
      exact found
    · have still : Tidy { e with store := recorded } := tidy.of_eq rfl rfl
      have vacant := clears.landing_vacant still start host
      have elsewhere : h.publicAddress ≠ other := by
        rintro rfl
        exact absurd (vacant.symm.trans found) (by simp)
      exact (getElem?_insert_ne elsewhere).trans found
    · rw [own]
      exact (getElem?_insert_ne (Ne.symm apart)).trans found
    · exact found

/-- The evaluation of one target is nothing to the decision for another. -/
theorem evaluate_agrees {e : Engine} {id other : String} (tidy : e.Tidy) (plain : Key.Plain id)
    (separate : Key.Plain other) (registered : ∃ t, e.registry[other]? = some t) (apart : other ≠ id)
    (w : Surroundings) : Agrees other e (e.evaluate w id).2 := by
  have spares := evaluate_spares tidy.keyed tidy.known (fun _ _ => plain) w
  obtain ⟨t,found⟩ := registered
  exact ⟨spares.catalog,spares.settings,(evaluate_registry_other tidy w found apart).trans found.symm,
    spares.activities other apart,spares.statistics other apart separate⟩

def endings (w : Surroundings) : List String → Engine → List (String × Except EngineError Report)
  | [], _ => []
  | id :: ids, e => (id,(e.evaluate w id).1) :: endings w ids (e.evaluate w id).2

theorem endings_targets (w : Surroundings) (ids : List String) (e : Engine) :
    (endings w ids e).map (·.1) = ids := by
  induction ids generalizing e with
  | nil => rfl
  | cons id ids ih => rw [endings,List.map_cons,ih]

/-- A pass reports the evaluations that do not fail. -/
theorem evaluateEach_reports (w : Surroundings) (ids : List String) (e : Engine) :
    (evaluateEach w ids e).1 = (endings w ids e).filterMap fun ending => ending.2.toOption := by
  induction ids generalizing e with
  | nil => rfl
  | cons id ids ih =>
    cases done : (e.evaluate w id).1 with
    | error err => simp [evaluateEach,endings,done,ih,Except.toOption]
    | ok report => simp [evaluateEach,endings,done,ih,Except.toOption]

structure Awaits (e : Engine) (ids : List String) : Prop where
  tidy : e.Tidy
  built : Catalog.Built e.catalog
  distinct : ids.Nodup
  registered : ∀ id ∈ ids, ∃ t, e.registry[id]? = some t
  plain : ∀ id ∈ ids, Key.Plain id

theorem Awaits.agrees {e : Engine} {id other : String} (awaits : e.Awaits (id :: ids))
    (w : Surroundings) (later : other ∈ ids) : Agrees other e (e.evaluate w id).2 := by
  have apart : other ≠ id := by
    rintro rfl
    exact (List.nodup_cons.mp awaits.distinct).1 later
  have member := List.mem_cons_of_mem id later
  exact evaluate_agrees awaits.tidy (awaits.plain id List.mem_cons_self) (awaits.plain other member)
    (awaits.registered other member) apart w

theorem Awaits.step {e : Engine} {id : String} (awaits : e.Awaits (id :: ids)) (w : Surroundings) :
    (e.evaluate w id).2.Awaits ids := by
  have alike := (evaluate_spares awaits.tidy.keyed awaits.tidy.known
    (fun _ _ => awaits.plain id List.mem_cons_self) w).toAlike
  refine ⟨evaluate_tidy awaits.tidy awaits.built w id,alike.catalog ▸ awaits.built,
    (List.nodup_cons.mp awaits.distinct).2,?_,
    fun other later => awaits.plain other (List.mem_cons_of_mem id later)⟩
  intro other later
  rw [(awaits.agrees w later).registered]
  exact awaits.registered other (List.mem_cons_of_mem id later)

/-- Each evaluation of a pass decides what it would decide if it were the first. -/
theorem Awaits.verdicts {e : Engine} (awaits : e.Awaits ids) (w : Surroundings) :
    (endings w ids e).map (fun ending => (ending.1,ending.2.map Report.verdict)) =
      ids.map fun id => (id,(e.evaluate w id).1.map Report.verdict) := by
  induction ids generalizing e with
  | nil => rfl
  | cons id ids ih =>
    -- The rest of the pass goes on in an engine that agrees with this one on every target that is left.
    rw [endings,List.map_cons,List.map_cons,ih (awaits.step w)]
    congr 1
    apply List.map_congr_left
    intro other later
    rw [(awaits.agrees w later).verdict awaits.tidy.keyed w]

theorem Awaits.decided {e : Engine} {id : String} {ending : Except EngineError Report}
    (awaits : e.Awaits ids) (w : Surroundings) (member : (id,ending) ∈ endings w ids e) :
    ending.map Report.verdict = (e.evaluate w id).1.map Report.verdict := by
  have listed := List.mem_map_of_mem (f := fun x => (x.1,x.2.map Report.verdict)) member
  rw [awaits.verdicts w] at listed
  obtain ⟨first,_,same⟩ := List.mem_map.mp listed
  obtain ⟨rfl,alone⟩ := Prod.mk.inj same
  exact alone.symm

theorem evaluate_target {e : Engine} {id : String} (keyed : e.Keyed)
    (done : (e.evaluate w id).1 = .ok report) : report.evaluation.target = id := by
  rcases e.evaluate_halves w id with ⟨_,_,same⟩ | ⟨t,d,after,found,judged,same⟩
  · rw [same] at done; cases done
  · rw [same] at done
    cases done
    rw [(after.act_report w d).1,judged.target]
    exact keyed id t found

theorem Awaits.reported {e : Engine} (awaits : e.Awaits ids) (w : Surroundings) :
    ((evaluateEach w ids e).1.map (·.evaluation.target)).Sublist ids := by
  induction ids generalizing e with
  | nil => exact .slnil
  | cons id ids ih =>
    cases done : (e.evaluate w id).1 with
    | error err => simpa [evaluateEach,done] using (ih (awaits.step w)).cons id
    | ok report =>
      simpa [evaluateEach,done,evaluate_target awaits.tidy.keyed done] using (ih (awaits.step w)).cons_cons id

/-- Reports of different targets are sorted without ties. -/
theorem sortReports_ordered {rs : List Report} (distinct : (rs.map (·.evaluation.target)).Nodup) :
    (sortReports rs).Pairwise fun a b =>
      Text.bytes a.evaluation.target < Text.bytes b.evaluation.target := by
  have apart : rs.Pairwise fun a b => compareOn (·.evaluation.target) a b ≠ .eq :=
    (List.pairwise_map.mp distinct).imp fun ne same => ne (Std.LawfulEqCmp.eq_of_compare same)
  exact (mergeSort_ordered apart).imp Text.bytes_lt_of_compare

def summary (r : Report) : String × Decision × Option String × Nat := (r.evaluation.target, r.verdict)

/-- A pass lists what its evaluations would decide if each were the first. -/
theorem Awaits.summaries {e : Engine} (awaits : e.Awaits ids) (w : Surroundings) :
    (evaluateEach w ids e).1.map summary = ids.filterMap fun id =>
      ((e.evaluate w id).1.map Report.verdict).toOption.map (id,·) := by
  induction ids generalizing e with
  | nil => rfl
  | cons id ids ih =>
    have later : (evaluateEach w ids (e.evaluate w id).2).1.map summary = ids.filterMap fun other =>
        ((e.evaluate w other).1.map Report.verdict).toOption.map (other,·) := by
      rw [ih (awaits.step w)]
      apply List.filterMap_congr
      intro other member
      rw [(awaits.agrees w member).verdict awaits.tidy.keyed w]
    cases done : (e.evaluate w id).1 with
    | error err => simpa [evaluateEach,done,Except.map,Except.toOption] using later
    | ok report =>
      have own : summary report = (id,report.verdict) := by
        rw [summary,evaluate_target awaits.tidy.keyed done]
      simpa [evaluateEach,done,own,Except.map,Except.toOption] using later

/-- Ids tell targets apart, and workloads from hosts: none contains a separator, hosts go by their
addresses, and no workload goes by one. -/
structure Separate (e : Engine) : Prop where
  plain : ∀ (id : String) (t : Target), e.registry[id]? = some t → Key.Plain id
  hosts : ∀ (id : String) (t : Target), e.registry[id]? = some t → t.kind = .host →
    t.host.publicAddress = id
  workloads : ∀ (id : String) (t : Target), e.registry[id]? = some t → t.kind ≠ .host →
    e.inventory[id]? = none

theorem Separate.tidy {e : Engine} (separate : e.Separate) (keyed : e.Keyed) (stocked : e.Stocked)
    (housed : e.Housed) : e.Tidy := by
  refine ⟨keyed,stocked,?_,separate.workloads⟩
  intro id t found host
  have own := separate.hosts id t found host
  exact ⟨own,own ▸ Std.ExtTreeMap.mem_iff_isSome_getElem?.mp (housed id t found)⟩

theorem Separate.awaits {e : Engine} (separate : e.Separate) (tidy : e.Tidy)
    (built : Catalog.Built e.catalog) (order : ids.Perm e.registry.keys) : e.Awaits ids := by
  have registered : ∀ id ∈ ids, ∃ t, e.registry[id]? = some t := by
    intro id member
    have known := Std.ExtTreeMap.mem_keys.mp (order.mem_iff.mp member)
    exact Option.isSome_iff_exists.mp (Std.ExtTreeMap.mem_iff_isSome_getElem?.mp known)
  refine ⟨tidy,built,order.nodup_iff.mpr Std.ExtTreeMap.nodup_keys,registered,?_⟩
  intro id member
  obtain ⟨t,found⟩ := registered id member
  exact separate.plain id t found

/-- Judging fails for definitions or for the store, not for want of a target. -/
theorem judge_known (e : Engine) (w : Surroundings) (t : Target) (gone : String) :
    (e.judge w t).1 ≠ .error (.unknownTarget gone) := by
  rcases e.judge_stages w t with ⟨err,same⟩ | ⟨rules,stats,_,_,_,⟨err,same⟩ | ⟨snapshot,same⟩⟩
  all_goals rw [same]; simp

theorem evaluate_known {e : Engine} {id : String} (registered : ∃ t, e.registry[id]? = some t)
    (w : Surroundings) (gone : String) : (e.evaluate w id).1 ≠ .error (.unknownTarget gone) := by
  obtain ⟨t,found⟩ := registered
  have judging := e.judge_known w t gone
  have same : e.decide w id = e.judge w t := by simp [decide,found]
  intro failed
  unfold evaluate at failed
  rw [same] at failed
  split at failed
  · rename_i err next done
    cases failed
    rw [done] at judging
    exact judging rfl
  · cases failed

/-- A target that is registered when a pass starts is never unknown when its turn comes. -/
theorem Awaits.never_unknown {e : Engine} (awaits : e.Awaits ids) (w : Surroundings) (id gone : String) :
    (id,.error (.unknownTarget gone)) ∉ endings w ids e := by
  induction ids generalizing e with
  | nil => exact List.not_mem_nil
  | cons first ids ih =>
    intro member
    rcases List.mem_cons.mp member with same | later
    · exact evaluate_known (awaits.registered first List.mem_cons_self) w gone (Prod.mk.inj same).2.symm
    · exact ih (awaits.step w) later

/-- Sorted, the reports of a pass list the same in whatever order it went. -/
theorem Awaits.listing {e : Engine} (awaits : e.Awaits ids) (later : e.Awaits others)
    (order : ids.Perm others) (w : Surroundings) :
    (sortReports (evaluateEach w ids e).1).map summary =
      (sortReports (evaluateEach w others e).1).map summary := by
  have sorted : ∀ ids, e.Awaits ids → ((sortReports (evaluateEach w ids e).1).map summary).Pairwise
      fun a b => Text.bytes a.1 < Text.bytes b.1 := by
    intro ids awaits
    rw [List.pairwise_map]
    exact sortReports_ordered ((awaits.reported w).nodup awaits.distinct)
  have perm : ((sortReports (evaluateEach w ids e).1).map summary).Perm
      ((sortReports (evaluateEach w others e).1).map summary) := by
    have first := (List.mergeSort_perm (evaluateEach w ids e).1 fun a b =>
      (compare a.evaluation.target b.evaluation.target).isLE).map summary
    have second := (List.mergeSort_perm (evaluateEach w others e).1 fun a b =>
      (compare a.evaluation.target b.evaluation.target).isLE).map summary
    rw [awaits.summaries w] at first
    rw [later.summaries w] at second
    exact (first.trans (order.filterMap _)).trans second.symm
  refine perm.eq_of_pairwise ?_ (sorted ids awaits) (sorted others later)
  intro a b _ _ before after
  exact absurd before (List.lt_asymm after)

end Engine

namespace Session

/-- In whatever order the targets that are registered when a pass starts are evaluated one after another,
each is evaluated once and no other is; for each the same is decided, or it fails in the same way; and
the list of a pass is in the strict order of its targets and says the same for every order. -/
theorem pass_order_is_immaterial (built : Catalog.Built catalog) (settings : Settings)
    (policy : Config.Policy) (admission : Admission) (store : Store) (moves : List Move) (w : Surroundings)
    (separate : (run moves (start (.new catalog settings policy admission store))).engine.Separate) :
    let e := (run moves (start (.new catalog settings policy admission store))).engine
    ∀ order other : List String, order.Perm e.registry.keys → other.Perm e.registry.keys →
      (∀ id first second, (id,first) ∈ Engine.endings w order e →
        (id,second) ∈ Engine.endings w other e →
        first.map Report.verdict = second.map Report.verdict) ∧
      (∀ id, ((Engine.endings w order e).map (·.1)).count id = if e.registry.contains id then 1 else 0) ∧
      (∀ id gone, (id,.error (.unknownTarget gone)) ∉ Engine.endings w order e) ∧
      (Engine.evaluateEach w order e).1 =
        (Engine.endings w order e).filterMap (fun ending => ending.2.toOption) ∧
      ((e.evaluateAll w).1.Pairwise fun a b =>
        Text.bytes a.evaluation.target < Text.bytes b.evaluation.target) ∧
      (Engine.sortReports (Engine.evaluateEach w order e).1).map Engine.summary =
        (e.evaluateAll w).1.map Engine.summary := by
  intro e order other first second
  have keyed : e.Keyed := run_keyed moves (Engine.keyed_new _ _ _ _ _)
  have stocked : e.Stocked := run_stocked moves (Engine.stocked_new _ _ _ _ _)
  have housed : e.Housed := run_housed moves (Engine.stocked_new _ _ _ _ _) (Engine.housed_new _ _ _ _ _)
  have built : Catalog.Built e.catalog := run_built built moves
  have tidy := separate.tidy keyed stocked housed
  have awaits : e.Awaits order := separate.awaits tidy built first
  have turned : e.Awaits other := separate.awaits tidy built second
  have listed : e.Awaits e.registry.keys := separate.awaits tidy built (.refl _)
  refine ⟨?_,?_,awaits.never_unknown w,Engine.evaluateEach_reports w order e,?_,
    awaits.listing listed first w⟩
  · intro id ending again member elsewhere
    exact (awaits.decided w member).trans (turned.decided w elsewhere).symm
  · intro id
    rw [Engine.endings_targets,List.Nodup.count awaits.distinct]
    simp [first.mem_iff]
  · exact Engine.sortReports_ordered ((listed.reported w).nodup listed.distinct)

/-- The hot container of the sample fleet is moved for the same reason before its host's turn and after
it. -/
theorem hot_container_moves_in_any_turn : ∃ first second,
    ("web-1",first) ∈ Engine.endings hot ["10.0.0.1","web-1"] (sample 1).engine ∧
    ("web-1",second) ∈ Engine.endings hot ["web-1","10.0.0.1"] (sample 1).engine ∧
    first.map Report.verdict = .ok (.migrate,some "move-when-hot",1) ∧
    second.map Report.verdict = .ok (.migrate,some "move-when-hot",1) := by
  have separate : (sample 1).engine.Separate := by
    have listed : ∀ row ∈ (sample 1).engine.registry.toList, Key.Plain row.1 ∧
        (row.2.kind = .host → row.2.host.publicAddress = row.1) ∧
        (row.2.kind ≠ .host → (sample 1).engine.inventory[row.1]? = none) := by
      decide +kernel
    have rows : ∀ (id : String) (t : Target), (sample 1).engine.registry[id]? = some t → _ :=
      fun id t found => listed (id,t) (Std.ExtTreeMap.mem_toList_iff_getElem?_eq_some.mpr found)
    exact ⟨fun id t found => (rows id t found).1,fun id t found => (rows id t found).2.1,
      fun id t found => (rows id t found).2.2⟩
  have forward : ["10.0.0.1","web-1"].Perm (sample 1).engine.registry.keys := by decide +kernel
  have backward : ["web-1","10.0.0.1"].Perm (sample 1).engine.registry.keys := by decide +kernel
  have same := (pass_order_is_immaterial .empty .default
    { Config.Policy.default with migrateAfter := 1 } ⟨"total","available",90.0,⟨5000⟩⟩ .empty sampleMoves
    hot separate _ _ forward backward).1
  have moved : ((sample 1).engine.evaluate hot "web-1").1.map Report.verdict =
      .ok (.migrate,some "move-when-hot",1) := by
    decide +kernel
  let later := (sample 1).engine.evaluate hot "10.0.0.1"
  have turn : ("web-1",(later.2.evaluate hot "web-1").1) ∈
      Engine.endings hot ["10.0.0.1","web-1"] (sample 1).engine := by
    simp [Engine.endings,later]
  have first : ("web-1",((sample 1).engine.evaluate hot "web-1").1) ∈
      Engine.endings hot ["web-1","10.0.0.1"] (sample 1).engine := by
    simp [Engine.endings]
  exact ⟨_,_,turn,first,(same _ _ _ turn first).trans moved,moved⟩

end Session

end GeoFleet
