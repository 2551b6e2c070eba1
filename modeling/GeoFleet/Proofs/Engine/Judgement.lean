import GeoFleet.Proofs.Engine.Session
import GeoFleet.Proofs.Metric.Sampling
import GeoFleet.Proofs.Rule.Bids
import GeoFleet.Proofs.Rule.Extension

/-! The pass decides what the rules say. It samples the fields that some condition of an applicable rule
reads, and no others, extends them by their views, and decides for the least bid on that snapshot. -/
namespace GeoFleet

namespace Source

theorem getElem?_gather (fields : List String) (value : String → Option Float) (field : String) :
    (gather (fields.map fun f => (f,value f)))[field]? = if field ∈ fields then value field else none := by
  induction fields using List.reverseRecOn with
  | nil => simp [gather]
  | append_singleton fields last ih =>
    rw [List.map_append,List.map_singleton,gather_concat]
    by_cases same : last = field
    · subst same
      cases sampled : value last with
      | none => simp [ih,sampled]
      | some v => simp
    · cases sampled : value last with
      | none => simp [ih,Ne.symm same]
      | some v => simp [getElem?_insert_ne same,ih,Ne.symm same]

end Source

namespace Catalog

def Reads (c : Catalog) (t : Target) (field : String) : Prop :=
  ∃ r condition d, c.AppliesTo r t ∧ condition ∈ r.conditions ∧ c.conditions[condition]? = some d ∧
    d.field = field

def queryOf (c : Catalog) (field : String) : String := (c.fields[field]?.bind (·.query)).getD field

theorem Whole.reads_iff {c : Catalog} (whole : c.Whole) {listed : List ResolvedRule}
    (listing : c.rulesFor t = .ok listed) {field : String} :
    field ∈ listed.flatMap (·.fields) ↔ c.Reads t field := by
  obtain ⟨sound,complete⟩ := whole.mem_rulesFor listing
  rw [List.mem_flatMap]
  constructor
  · rintro ⟨resolved,member,read⟩
    obtain ⟨d,carried,rfl⟩ := List.mem_map.mp read
    obtain ⟨r,applies,resolves⟩ := sound resolved member
    obtain ⟨condition,used,stands⟩ :=
      exists_left_of_forall₂ (resolve_conditions applies.listed resolves) carried
    exact ⟨r,condition,d,applies,used,stands,rfl⟩
  · rintro ⟨r,condition,d,applies,used,stands,rfl⟩
    obtain ⟨resolved,member,resolves⟩ := complete r applies
    obtain ⟨definition,carried,known⟩ :=
      exists_right_of_forall₂ (resolve_conditions applies.listed resolves) used
    cases stands.symm.trans known
    exact ⟨resolved,member,List.mem_map_of_mem carried⟩

end Catalog

namespace Engine

variable {e : Engine} {id : String} {t : Target} {rules : List ResolvedRule}

theorem getElem?_queries (c : Catalog) (rules : List ResolvedRule) (field : String) :
    (queries c rules)[field]? =
      if field ∈ rules.flatMap (·.fields) then some (c.queryOf field) else none := by
  unfold queries
  induction rules.flatMap (·.fields) using List.reverseRecOn with
  | nil => simp
  | append_singleton fields last ih =>
    rw [List.foldl_append,List.foldl_cons,List.foldl_nil]
    by_cases same : last = field
    · subst same; simp [Catalog.queryOf]
    · rw [getElem?_insert_ne same,ih]
      simp [Ne.symm same]

/-- Every field that is read is fetched by its query, once. -/
theorem getElem?_sampled (e : Engine) (w : Surroundings) (t : Target) (rules : List ResolvedRule)
    (field : String) : (e.sampled w t rules)[field]? = if field ∈ rules.flatMap (·.fields) then
      w.source.fetch e.settings.fetchTimeout t.id (e.catalog.queryOf field) else none := by
  let value (field : String) := w.source.fetch e.settings.fetchTimeout t.id (e.catalog.queryOf field)
  let rows := (queries e.catalog rules).toList
  have asked : ∀ row ∈ rows, row.1 ∈ rules.flatMap (·.fields) ∧ row.2 = e.catalog.queryOf row.1 := by
    intro row member
    have found := Std.ExtTreeMap.mem_toList_iff_getElem?_eq_some.mp member
    rw [getElem?_queries] at found
    split at found
    · rename_i read
      exact ⟨read,(Option.some.inj found).symm⟩
    · cases found
  have answers : w.source.answers e.settings.fetchTimeout t.id (requests e.catalog rules) =
      (rows.map (·.1)).map fun f => (f,value f) := by
    simp only [Source.answers,requests,List.map_map]
    apply List.map_congr_left
    intro row member
    simp only [Function.comp,(asked row member).2,value]
  have listed : field ∈ rows.map (·.1) ↔ field ∈ rules.flatMap (·.fields) := by
    constructor
    · intro member
      obtain ⟨row,present,rfl⟩ := List.mem_map.mp member
      exact (asked row present).1
    · intro read
      have found := getElem?_queries e.catalog rules field
      rw [if_pos read] at found
      exact List.mem_map.mpr ⟨_,Std.ExtTreeMap.mem_toList_iff_getElem?_eq_some.mpr found,rfl⟩
  rw [sampled,Source.fetchAll,answers,Source.getElem?_gather]
  simp only [listed,value]

/-- Where statistics can be read, an evaluation comes to its end, and it decides by the extended snapshot. -/
theorem evaluate_readable (found : e.registry[id]? = some t) (listing : e.catalog.rulesFor t = .ok rules)
    (readable : e.store.Readable t.id) (w : Surroundings) :
    let verdict := arbitrate (fireAll rules t.id (e.store.extended t.id (e.sampled w t rules)))
    ∃ report, (e.evaluate w id).1 = .ok report ∧ report.evaluation.decision = verdict.decision ∧
      report.evaluation.rule = verdict.winner.map (·.rule) := by
  intro verdict
  have observed := readable.observe (e.sampled w t rules) w.now
  rcases result : e.store.observe t.id (e.sampled w t rules) w.now with ⟨answer,store⟩
  rw [result] at observed
  obtain rfl : answer = .ok _ := observed
  have decided : e.decide w id = e.judge w t := by simp [decide,found]
  rw [judge_observed listing result] at decided
  obtain ⟨_,decision,rule,_⟩ := act_report _ w _
  exact ⟨_,by rw [evaluate,decided],decision,rule⟩

/-- A snapshot of exactly the fields that are read of a target, as its metrics answer in time. -/
structure Samples (e : Engine) (w : Surroundings) (t : Target) (raw : Snapshot) : Prop where
  read : ∀ field, e.catalog.Reads t field →
    raw[field]? = w.source.fetch e.settings.fetchTimeout t.id (e.catalog.queryOf field)
  unread : ∀ field, ¬e.catalog.Reads t field → raw[field]? = none

/-- Over a catalog that was built by its operations, the evaluation of a registered target whose statistics
can be read comes to its end, and decides what the least bid on the extended snapshot of the pass says. It
decides to start exactly when a rule fires that starts something, whatever the priorities of the others, and
to leave things alone exactly when every rule that fires says so. -/
theorem evaluation_decides (built : Catalog.Built e.catalog) (found : e.registry[id]? = some t)
    (readable : e.store.Readable t.id) (w : Surroundings) :
    ∃ raw extended report, e.Samples w t raw ∧ (e.store.observe t.id raw w.now).1 = .ok extended ∧
      (e.evaluate w id).1 = .ok report ∧
      e.catalog.Decides t extended report.evaluation.decision report.evaluation.rule ∧
      (report.evaluation.decision = .start ↔
        ∃ b, e.catalog.Fires t extended b ∧ b.rule.decision = .start) ∧
      (report.evaluation.decision = .none ↔
        ∀ b, e.catalog.Fires t extended b → b.rule.decision = .none) := by
  have whole := built.whole
  obtain ⟨rules,listing⟩ := whole.lists t
  have samples : e.Samples w t (e.sampled w t rules) := by
    constructor
    · intro field read
      rw [getElem?_sampled,if_pos ((whole.reads_iff listing).mpr read)]
    · intro field unread
      rw [getElem?_sampled,if_neg (mt (whole.reads_iff listing).mp unread)]
  obtain ⟨report,done,decision,rule⟩ := evaluate_readable found listing readable w
  have decides := whole.decides listing (e.store.extended t.id (e.sampled w t rules))
  rw [← decision,← rule] at decides
  exact ⟨e.sampled w t rules,_,report,samples,readable.observe _ _,done,decides,decides.start_iff,
    decides.none_iff⟩

end Engine

namespace Session

section Rivals

/-! Three rules bid for one container. Their decisions are as urgent and their priorities the same, so it is
their sums that decide. -/

def cpuHot : Condition := ⟨"cpu-over-80", "cpu-%", .greater, 80.0, .effective⟩

def memoryFull : Condition := ⟨"mem-over-80", "mem-%", .greater, 80.0, .effective⟩

def copyWhenBusy : Rule := ⟨"copy-when-busy", .container, 1, .replicate, true, ["cpu-over-80","mem-over-80"]⟩

def moveWhenFull : Rule := ⟨"move-when-full", .container, 1, .migrate, true, ["mem-over-80"]⟩

def moveWhenHot : Rule := ⟨"move-when-hot", .container, 1, .migrate, true, ["cpu-over-80"]⟩

def rivals : Session := run [
  .edit (.addField ⟨"mem-%", none⟩),
  .edit (.addCondition memoryFull),
  .edit (.addRule copyWhenBusy),
  .edit (.addRule moveWhenFull)] (sample 1)

def busy : Surroundings :=
  { hot with source := { hot.source with
    answer := fun target query => if query = "mem-%" then some 85.0 else hot.source.answer target query } }

/-- All three rules fire, and the one with the least sum decides, although the decision of another comes first
where sums are equal. -/
theorem least_sum_decides : ∃ t raw extended, rivals.engine.registry["web-1"]? = some t ∧
    rivals.engine.Samples busy t raw ∧ (rivals.engine.store.observe t.id raw busy.now).1 = .ok extended ∧
    rivals.engine.catalog.Fires t extended ⟨copyWhenBusy,.sum 180.0⟩ ∧
    rivals.engine.catalog.Fires t extended ⟨moveWhenHot,.sum 95.0⟩ ∧
    rivals.engine.catalog.Fires t extended ⟨moveWhenFull,.sum 85.0⟩ ∧
    rivals.engine.catalog.Decides t extended .migrate (some "move-when-full") := by
  let t := Target.ofContainer "web-1" "web" none runningHost
  let c := rivals.engine.catalog
  have built : Catalog.Built c := run_built (run_built .empty sampleMoves) _
  have found : rivals.engine.registry["web-1"]? = some t := by decide +kernel
  have unknown : ∀ field, rivals.engine.store.fieldStats[Key.fieldStats t.id field]? = none := by
    have blank : rivals.engine.store = .empty := rfl
    simp [blank,Store.empty]
  have readable := Store.readable_unknown unknown
  obtain ⟨raw,extended,report,samples,observed,done,decides,_⟩ :=
    Engine.evaluation_decides built found readable busy
  have bare : extended = raw := by
    rw [readable.observe,Store.extended_unknown unknown] at observed
    exact (Except.ok.inj observed).symm
  have hot_listed : c.conditions["cpu-over-80"]? = some cpuHot := by decide +kernel
  have full_listed : c.conditions["mem-over-80"]? = some memoryFull := by decide +kernel
  have both : c.AppliesTo copyWhenBusy t := ⟨by decide +kernel,by decide,.inl rfl⟩
  have move : c.AppliesTo moveWhenHot t := ⟨by decide +kernel,by decide,.inl rfl⟩
  have clear : c.AppliesTo moveWhenFull t := ⟨by decide +kernel,by decide,.inl rfl⟩
  have cpu : extended["cpu-%"]? = some 95.0 := by
    rw [bare,samples.read "cpu-%" ⟨moveWhenHot,"cpu-over-80",cpuHot,move,by decide,hot_listed,rfl⟩]
    decide +kernel
  have memory : extended["mem-%"]? = some 85.0 := by
    rw [bare,samples.read "mem-%" ⟨moveWhenFull,"mem-over-80",memoryFull,clear,by decide,full_listed,rfl⟩]
    decide +kernel
  have hot_holds : c.Holds extended "cpu-over-80" 95.0 := ⟨cpuHot,hot_listed,cpu,by decide⟩
  have full_holds : c.Holds extended "mem-over-80" 85.0 := ⟨memoryFull,full_listed,memory,by decide⟩
  have decided : (rivals.engine.evaluate busy "web-1").1.map
      (fun r => (r.evaluation.decision,r.evaluation.rule)) = .ok (.migrate,some "move-when-full") := by
    decide +kernel
  rw [done] at decided
  obtain ⟨decision,rule⟩ := Prod.mk.inj (Except.ok.inj decided)
  rw [decision,rule] at decides
  refine ⟨t,raw,extended,found,samples,observed,?_,?_,?_,decides⟩
  · exact .of_holds both (.cons hot_holds (.cons full_holds .nil)) (by decide)
  · exact .of_holds move (.cons hot_holds .nil) (by decide)
  · exact .of_holds clear (.cons full_holds .nil) (by decide)

end Rivals
end Session

end GeoFleet
