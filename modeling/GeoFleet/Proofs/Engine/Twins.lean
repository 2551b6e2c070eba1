import GeoFleet.Proofs.Engine.Registry
import GeoFleet.Proofs.Engine.Restart

/-! What a target's evaluations depend on. Of the store it is the target's own activity and its own
statistics; what is kept of others never shows, neither in one evaluation nor in what it leaves to the
next. -/
namespace GeoFleet

namespace Store

theorem observeSamples_sameOf {s t : Store} (same : s.fieldStats.SameOf target t.fieldStats) (now : Nat)
    (samples : List (String × Float)) (extended : Snapshot) :
    (observeSamples target now samples extended s).2.fieldStats.SameOf target
      (observeSamples target now samples extended t).2.fieldStats := by
  induction samples generalizing extended s t with
  | nil => exact same
  | cons sample rest ih =>
    obtain ⟨field,value⟩ := sample
    rcases foldSample_congr same field value now with
      ⟨err,left,right⟩ | ⟨previous,after,later,left,right,kept⟩
    · simpa [observeSamples,left,right] using same
    · cases previous with
      | none => simpa [observeSamples,left,right] using ih kept extended
      | some known => simpa [observeSamples,left,right] using ih kept (addViews extended field value known)

structure SameFor (id : String) (s t : Store) : Prop where
  activity : t.activities[id]? = s.activities[id]?
  statistics : s.fieldStats.SameOf id t.fieldStats

variable {s t : Store} {id : String}

theorem SameFor.putActivity (same : s.SameFor id t) (a : Activity) :
    (s.putActivity a).SameFor id (t.putActivity a) := by
  refine ⟨?_,same.statistics⟩
  by_cases own : a.target = id
  · simp [Store.putActivity,own]
  · simpa [Store.putActivity,getElem?_insert_ne own] using same.activity

theorem SameFor.observe (same : s.SameFor id t) (raw : Snapshot) (now : Nat) :
    (t.observe id raw now).1 = (s.observe id raw now).1 ∧
      (s.observe id raw now).2.SameFor id (t.observe id raw now).2 := by
  refine ⟨observe_congr same.statistics raw now,?_,observeSamples_sameOf same.statistics now raw.toList raw⟩
  obtain ⟨_,_,left⟩ := s.observe_frame id raw now
  obtain ⟨_,_,right⟩ := t.observe_frame id raw now
  rw [left,right]
  exact same.activity

theorem SameFor.recordDecision (same : s.SameFor id t) (kind : Kind) (d : Decision) (now : Nat) :
    (t.recordDecision id kind d now).1 = (s.recordDecision id kind d now).1 ∧
      (s.recordDecision id kind d now).2.SameFor id (t.recordDecision id kind d now).2 := by
  simp only [Store.recordDecision,same.activity,true_and]
  exact same.putActivity _

theorem SameFor.restartCount (same : s.SameFor id t) (now : Nat) :
    (s.restartCount id now).2.SameFor id (t.restartCount id now).2 := by
  unfold Store.restartCount
  rw [same.activity]
  split
  · exact same
  · exact same.putActivity _

/-- What is dropped is gone in both. -/
theorem SameFor.forget (s t : Store) (id : String) : (Engine.forget s id).SameFor id (Engine.forget t id) := by
  have gone : ∀ (u : Store) (field : String),
      (Engine.forget u id).fieldStats[Key.fieldStats id field]? = none := by
    intro u field
    exact (deleteFieldStats_rows _ id _).trans (if_pos (Key.begins_stem id field))
  refine ⟨by simp,?_⟩
  intro field
  rw [gone,gone]

end Store

namespace Engine

variable {e : Engine} {store : Store} {id : String}

theorem judge_twin (same : e.store.SameFor t.id store) (w : Surroundings) :
    ∃ after, (e.withStore store).judge w t = ((e.judge w t).1,(e.judge w t).2.withStore after) ∧
      (e.judge w t).2.store.SameFor t.id after := by
  cases listing : e.catalog.rulesFor t with
  | error err =>
    have twin := judge_unresolved (e := e.withStore store) listing w
    rw [judge_unresolved listing w,twin]
    exact ⟨store,rfl,same⟩
  | ok rules =>
    obtain ⟨equal,kept⟩ := same.observe (e.sampled w t rules) w.now
    rcases here : e.store.observe t.id (e.sampled w t rules) w.now with ⟨result,left⟩
    rcases there : store.observe t.id (e.sampled w t rules) w.now with ⟨other,right⟩
    rw [here,there] at equal kept
    obtain rfl : other = result := equal
    have kept : left.SameFor t.id right := kept
    cases other with
    | error err =>
      have twin := judge_unread (e := e.withStore store) listing there
      rw [judge_unread listing here,twin]
      exact ⟨right,rfl,kept⟩
    | ok snapshot =>
      obtain ⟨update,recorded⟩ :=
        kept.recordDecision t.kind (arbitrate (fireAll rules t.id snapshot)).decision w.now
      have twin := judge_observed (e := e.withStore store) listing there
      rw [judge_observed listing here,twin]
      exact ⟨_,by simp only [update,withStore],recorded⟩

theorem decide_twin (keyed : e.Keyed) (same : e.store.SameFor id store) (w : Surroundings) :
    ∃ after, (e.withStore store).decide w id = ((e.decide w id).1,(e.decide w id).2.withStore after) ∧
      (e.decide w id).2.store.SameFor id after := by
  cases found : e.registry[id]? with
  | none => exact ⟨store,by simp [decide,withStore,found],by simpa [decide,found] using same⟩
  | some t =>
    obtain rfl := keyed id t found
    obtain ⟨after,judged,kept⟩ := judge_twin same w
    exact ⟨after,by simpa [decide,withStore,found] using judged,by simpa [decide,found] using kept⟩

theorem follow_twin (same : e.store.SameFor t.id store) (d : Decision) (landing : Option Host) :
    ∃ after, (e.withStore store).follow t d landing = (e.follow t d landing).withStore after ∧
      (e.follow t d landing).store.SameFor t.id after := by
  cases d with
  | stop =>
    cases found : e.registry[t.id]? with
    | none => exact ⟨store,by simp [follow,deregister,withStore,found],by simpa [follow,deregister,found] using same⟩
    | some known =>
      exact ⟨forget store t.id,by simp [follow,deregister,withStore,found],
        by simpa [follow,deregister,found] using Store.SameFor.forget e.store store t.id⟩
  | none => exact ⟨store,rfl,same⟩
  | replicate => exact ⟨store,rfl,same⟩
  | start =>
    cases landing with
    | none => exact ⟨store,rfl,same⟩
    | some h =>
      simp only [follow]
      split
      · exact ⟨store,rfl,same⟩
      · exact ⟨store,rfl,same⟩
  | migrate =>
    cases landing with
    | none => exact ⟨store,rfl,same⟩
    | some h =>
      cases found : e.registry[t.id]? with
      | none => exact ⟨store,by simp [follow,withStore,found],by simpa [follow,found] using same⟩
      | some known => exact ⟨store,by simp [follow,withStore,found],by simpa [follow,found] using same⟩

theorem settle_twin {a : Action} (same : e.store.SameFor a.target.id store) (now : Nat) :
    ∃ after, (e.withStore store).settle a now = (e.settle a now).withStore after ∧
      (e.settle a now).store.SameFor a.target.id after := by
  have restarted := same.restartCount now
  exact ⟨_,rfl,restarted.activity,restarted.statistics⟩

theorem complete_twin {a : Action} (same : e.store.SameFor a.target.id store) (now : Nat) :
    ∃ after, (e.withStore store).complete a now = (e.complete a now).withStore after ∧
      (e.complete a now).store.SameFor a.target.id after := by
  obtain ⟨middle,settled,kept⟩ := settle_twin same now
  obtain ⟨after,followed,last⟩ := follow_twin kept a.decision a.placement
  exact ⟨after,by rw [complete,settled,followed]; rfl,last⟩

theorem act_twin {d : Decided} (same : e.store.SameFor d.target.id store) (w : Surroundings) :
    ∃ after, (e.withStore store).act w d = ((e.act w d).1,(e.act w d).2.withStore after) ∧
      (e.act w d).2.store.SameFor d.target.id after := by
  have fleet : (e.withStore store).fleetSize = e.fleetSize := rfl
  have place : (e.withStore store).place w.source d.target d.decision =
      e.place w.source d.target d.decision := rfl
  have policy : (e.withStore store).policy = e.policy := rfl
  cases checked : e.policy.check d.target.kind d.decision d.count e.fleetSize with
  | act =>
    cases placed : e.place w.source d.target d.decision with
    | error err =>
      exact ⟨store,by simp [act,policy,fleet,place,checked,placed],by simpa [act,checked,placed] using same⟩
    | ok landing =>
      cases carried : w.carryOut (d.action landing) with
      | error message =>
        exact ⟨store,by simp [act,policy,fleet,place,checked,placed,carried],
          by simpa [act,checked,placed,carried] using same⟩
      | ok _ =>
        obtain ⟨after,completed,kept⟩ := complete_twin (a := d.action landing) same d.now
        have own : (d.action landing).target = d.target := rfl
        rw [own] at kept
        exact ⟨after,by simp [act,policy,fleet,place,checked,placed,carried,completed],
          by simpa [act,checked,placed,carried] using kept⟩
  | _ => exact ⟨store,by simp [act,policy,fleet,checked],by simpa [act,checked] using same⟩

/-- The evaluation of a target shows, and leaves of the target, what its own records make of it. -/
theorem evaluate_twin (keyed : e.Keyed) (same : e.store.SameFor id store) (w : Surroundings) :
    ∃ after, (e.withStore store).evaluate w id = ((e.evaluate w id).1,(e.evaluate w id).2.withStore after) ∧
      (e.evaluate w id).2.store.SameFor id after := by
  obtain ⟨middle,twin,kept⟩ := decide_twin keyed same w
  rcases e.decide_cases w id with ⟨err,stats,failed⟩ | ⟨t,d,after,found,decided,judged⟩
  · rw [failed] at twin kept
    exact ⟨middle,by simp [evaluate,failed,twin],by simpa [evaluate,failed] using kept⟩
  · rw [decided] at twin kept
    have own : d.target.id = id := by rw [judged.target]; exact keyed id t found
    subst own
    obtain ⟨last,acted,left⟩ := act_twin kept w
    exact ⟨last,by simp [evaluate,decided,twin,acted],by simpa [evaluate,decided] using left⟩

def evaluations (id : String) : List Surroundings → Engine → List (Except EngineError Report)
  | [], _ => []
  | w :: ws, e => (e.evaluate w id).1 :: evaluations id ws (e.evaluate w id).2

theorem evaluate_keyed {e : Engine} (keyed : e.Keyed) (w : Surroundings) (id : String) :
    (e.evaluate w id).2.Keyed := by
  rcases e.evaluate_follows w id with ⟨store,same⟩ | ⟨t,d,recorded,settled,landing,_,_,_,same⟩
  · rw [same]; exact keyed
  · have still : Keyed { e with store := settled } := keyed
    rw [same]
    exact still.follow d.target d.decision landing

theorem evaluations_twin (keyed : e.Keyed) (same : e.store.SameFor id store) (ws : List Surroundings) :
    evaluations id ws (e.withStore store) = evaluations id ws e := by
  induction ws generalizing e store with
  | nil => rfl
  | cons w ws ih =>
    obtain ⟨after,twin,kept⟩ := evaluate_twin keyed same w
    rw [evaluations,evaluations,twin]
    exact congrArg _ (ih (evaluate_keyed keyed w id) kept)

end Engine

end GeoFleet
