import GeoFleet.Proofs.Engine.Registry
import GeoFleet.Proofs.Engine.Restart

/-! Passes in which nothing can be read. No rule fires on an empty snapshot, whatever the catalog says, so
every registered target gets the decision to do nothing, and nothing is acted on. Such a pass adds one
record to each target and changes nothing else. -/
namespace GeoFleet

theorem Source.fetchAll_silent (timeout : Duration) (target : String) (rs : List Request) :
    silent.fetchAll timeout target rs = ∅ := by
  rw [fetchAll,answers]
  induction rs with
  | nil => rfl
  | cons r rs ih =>
    have absent : silent.fetch timeout target r.query = none := by rw [fetch]; split <;> rfl
    rw [List.map_cons,absent]
    exact ih

theorem Store.observe_nothing (s : Store) (target : String) (now : Nat) :
    s.observe target ∅ now = (.ok ∅,s) := by
  rw [observe,Std.ExtTreeMap.toList_eq_nil_iff.mpr rfl]
  rfl

theorem ResolvedRule.fire?_nothing (r : ResolvedRule) (target : String) : r.fire? target ∅ = none := by
  rw [fire?]
  split
  · rfl
  · rename_i conditioned
    obtain ⟨d,ds,listed⟩ := List.exists_cons_of_ne_nil conditioned
    have absent : d.matched? ∅ = none := by simp [Condition.matched?]
    rw [listed,List.foldlM_cons,Match.add?,absent]
    rfl

theorem fireAll_nothing (rules : List ResolvedRule) (target : String) : fireAll rules target ∅ = [] :=
  List.filterMap_eq_nil_iff.mpr fun r _ => r.fire?_nothing target

namespace Engine

def resting (now : Nat) (t : Target) (previous : Option Activity) : Activity :=
  ⟨t.id,t.kind,.none,Activity.nextCount previous .none,now⟩

variable {e : Engine} {w : Surroundings}

theorem judge_silent {rules : List ResolvedRule} (listing : e.catalog.rulesFor t = .ok rules)
    (silent : w.source = .silent) :
    ∃ d, d.decision = .none ∧
      e.judge w t = (.ok d,e.withStore (e.store.putActivity (resting w.now t e.store.activities[t.id]?))) := by
  have sampled : e.sampled w t rules = ∅ := by rw [Engine.sampled,silent,Source.fetchAll_silent]
  have observed : e.store.observe t.id (e.sampled w t rules) w.now = (.ok ∅,e.store) := by
    rw [sampled,Store.observe_nothing]
  have judged := judge_observed listing observed
  simp only [fireAll_nothing] at judged
  refine ⟨_,?_,judged⟩
  simp only [concluded,fireAll_nothing]
  rfl

theorem evaluate_silent {id : String} {rules : List ResolvedRule} (found : e.registry[id]? = some t)
    (listing : e.catalog.rulesFor t = .ok rules) (silent : w.source = .silent) :
    (e.evaluate w id).2 = e.withStore (e.store.putActivity (resting w.now t e.store.activities[t.id]?)) := by
  obtain ⟨d,idle,judged⟩ := judge_silent listing silent
  have decided : e.decide w id = e.judge w t := by simp [decide,found]
  have refused : ∀ after : Engine, after.policy.check d.target.kind d.decision d.count after.fleetSize ≠ .act := by
    intro after
    rw [idle]
    simp [Config.Policy.check,Config.Policy.threshold]
  rw [judged] at decided
  simp only [evaluate,decided]
  obtain ⟨_,_,acted⟩ := act_refused (refused (e.withStore _)) w
  rw [acted]

/-- Each target evaluated has one record more, and everything else is as it was. -/
theorem evaluateEach_silent (keyed : e.Keyed) (lists : ∀ t, ∃ rules, e.catalog.rulesFor t = .ok rules)
    (silent : w.source = .silent) {ids : List String} (distinct : ids.Nodup)
    (registered : ∀ id ∈ ids, ∃ t, e.registry[id]? = some t) :
    ∃ store, (evaluateEach w ids e).2 = e.withStore store ∧ ∀ id : String, store.activities[id]? =
      if id ∈ ids then e.registry[id]?.map fun t => resting w.now t e.store.activities[id]?
      else e.store.activities[id]? := by
  induction ids generalizing e with
  | nil => exact ⟨e.store,rfl,fun id => rfl⟩
  | cons first ids ih =>
    obtain ⟨absent,distinct⟩ := List.nodup_cons.mp distinct
    obtain ⟨t,found⟩ := registered first List.mem_cons_self
    obtain ⟨rules,listing⟩ := lists t
    have step := evaluate_silent found listing silent
    have own : t.id = first := keyed first t found
    let recorded := e.store.putActivity (resting w.now t e.store.activities[t.id]?)
    have elsewhere : ∀ id, id ≠ first → recorded.activities[id]? = e.store.activities[id]? := by
      intro id other
      exact getElem?_insert_ne (fun same : t.id = id => other (same.symm.trans own))
    obtain ⟨store,rest,records⟩ := @ih (e.withStore recorded) keyed lists distinct
      fun id member => registered id (List.mem_cons_of_mem _ member)
    refine ⟨store,?_,?_⟩
    · simp only [evaluateEach,step]
      exact rest
    · intro id
      rw [records id]
      by_cases same : id = first
      · subst same
        have here : recorded.activities[id]? = some (resting w.now t e.store.activities[id]?) := by
          change (e.store.activities.insert t.id _)[id]? = _
          rw [own,Std.ExtTreeMap.getElem?_insert_self]
        rw [if_neg absent,if_pos List.mem_cons_self,found]
        exact here
      · have beside : (e.withStore recorded).store.activities[id]? = e.store.activities[id]? := elsewhere id same
        simp only [List.mem_cons,same,false_or,beside]
        rfl

/-- A pass without metrics adds one record to every registered target. -/
theorem evaluateAll_silent (keyed : e.Keyed) (lists : ∀ t, ∃ rules, e.catalog.rulesFor t = .ok rules)
    (silent : w.source = .silent) :
    ∃ store, (e.evaluateAll w).2 = e.withStore store ∧ ∀ id : String, store.activities[id]? =
      (e.registry[id]?.map fun t => resting w.now t e.store.activities[id]?).or e.store.activities[id]? := by
  have registered : ∀ id ∈ e.registry.keys, ∃ t, e.registry[id]? = some t := by
    intro id member
    exact Option.isSome_iff_exists.mp
      (Std.ExtTreeMap.mem_iff_isSome_getElem?.mp (Std.ExtTreeMap.mem_keys.mp member))
  obtain ⟨store,same,records⟩ :=
    evaluateEach_silent keyed lists silent Std.ExtTreeMap.nodup_keys registered
  refine ⟨store,same,?_⟩
  intro id
  simp only [records id,Std.ExtTreeMap.mem_keys,Std.ExtTreeMap.mem_iff_isSome_getElem?]
  cases e.registry[id]? <;> simp

end Engine

end GeoFleet
