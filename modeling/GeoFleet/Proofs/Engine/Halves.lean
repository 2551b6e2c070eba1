import GeoFleet.Engine.Evaluation
import GeoFleet.Proofs.Store.Frames

/-! Everything the two halves of an evaluation can do. Deciding writes to the store alone. Acting
changes nothing unless the policy clears the decision, a landing host is found where one is needed,
and the action is carried out. -/
namespace GeoFleet

namespace Config.Policy

theorem check_eq_act_iff (p : Config.Policy) (kind : Kind) (d : Decision) (count fleet : Nat) :
    p.check kind d count fleet = .act ↔
      ∃ needed, p.threshold d = some needed ∧ max needed 1 ≤ count ∧ p.blocks kind d fleet = false := by
  unfold check
  split
  · rename_i absent
    simp [absent]
  · rename_i needed present
    split
    · rename_i few
      simp only [present,reduceCtorEq,Option.some.injEq,exists_eq_left',false_iff,not_and]
      intro enough
      omega
    · rename_i enough
      have enough : max needed 1 ≤ count := Nat.le_of_not_lt enough
      cases blocked : p.blocks kind d fleet with
      | true => simp [present]
      | false =>
        simp only [Bool.false_eq_true,if_false,true_iff]
        exact ⟨needed,present,enough,trivial⟩

theorem blocks_start (p : Config.Policy) (fleet : Nat) :
    p.blocks .host .start fleet = false ↔ p.maxHosts = 0 ∨ fleet < p.maxHosts := by
  simp only [blocks,Kind.isHost,decide_true,Bool.true_and,Bool.and_eq_false_iff,decide_eq_false_iff_not]
  omega

theorem blocks_stop (p : Config.Policy) (fleet : Nat) :
    p.blocks .host .stop fleet = false ↔ p.minHosts < fleet := by
  simp [blocks,Kind.isHost]

end Config.Policy

namespace Engine

/-- What a decision for a target rests on, and what is left after it was recorded. -/
structure Judged (e : Engine) (w : Surroundings) (t : Target) (d : Decided) (after : Engine) : Prop where
  target : d.target = t
  now : d.now = w.now
  count : d.count = Activity.nextCount e.store.activities[t.id]? d.decision
  founded : ∃ listed snapshot, e.catalog.rulesFor t = .ok listed ∧
    d.decision = (arbitrate (fireAll listed t.id snapshot)).decision ∧
    d.rule = (arbitrate (fireAll listed t.id snapshot)).winner.map (·.rule) ∧
    d.values = ((arbitrate (fireAll listed t.id snapshot)).winner.map (·.values)).getD ∅
  recorded : ∃ stats, after = { e with store := { e.store with
    fieldStats := stats
    activities := e.store.activities.insert t.id ⟨t.id,t.kind,d.decision,d.count,w.now⟩ } }

def sampled (e : Engine) (w : Surroundings) (t : Target) (rules : List ResolvedRule) : Snapshot :=
  w.source.fetchAll e.settings.fetchTimeout t.id (requests e.catalog rules)

def concluded (t : Target) (rules : List ResolvedRule) (snapshot : Snapshot) (count now : Nat) : Decided :=
  let verdict := arbitrate (fireAll rules t.id snapshot)
  { target := t
    decision := verdict.decision
    rule := verdict.winner.map (·.rule)
    values := (verdict.winner.map (·.values)).getD ∅
    count, now }

section Stages

variable {e : Engine} {t : Target} {rules : List ResolvedRule} {observed : Store}

theorem judge_unresolved (listing : e.catalog.rulesFor t = .error err) (w : Surroundings) :
    e.judge w t = (.error (.definition err),e) := by
  simp [judge,listing]

theorem judge_unread {w : Surroundings} (listing : e.catalog.rulesFor t = .ok rules)
    (result : e.store.observe t.id (e.sampled w t rules) w.now = (.error err,observed)) :
    e.judge w t = (.error (.store err),{ e with store := observed }) := by
  unfold sampled at result
  simp [judge,listing,result]

theorem judge_observed {w : Surroundings} (listing : e.catalog.rulesFor t = .ok rules)
    (result : e.store.observe t.id (e.sampled w t rules) w.now = (.ok snapshot,observed)) :
    e.judge w t =
      let recorded := observed.recordDecision t.id t.kind (arbitrate (fireAll rules t.id snapshot)).decision w.now
      (.ok (concluded t rules snapshot recorded.1.current.count w.now),{ e with store := recorded.2 }) := by
  unfold sampled at result
  simp only [judge,listing,result]
  rfl

end Stages

/-- Deciding stops at rules that cannot be resolved or at statistics that cannot be read, or it comes to a
conclusion and records it. -/
theorem judge_stages (e : Engine) (w : Surroundings) (t : Target) :
    (∃ err, e.judge w t = (.error (.definition err),e)) ∨
    ∃ rules stats, e.catalog.rulesFor t = .ok rules ∧ e.store.fieldStats.SameBeside t.id stats ∧
      (e.store.observe t.id (e.sampled w t rules) w.now).2 = { e.store with fieldStats := stats } ∧
      let store := { e.store with fieldStats := stats }
      ((∃ err, e.judge w t = (.error (.store err),{ e with store })) ∨
      ∃ snapshot,
        let recorded := store.recordDecision t.id t.kind (arbitrate (fireAll rules t.id snapshot)).decision w.now
        e.judge w t = (.ok (concluded t rules snapshot recorded.1.current.count w.now),
          { e with store := recorded.2 })) := by
  cases listing : e.catalog.rulesFor t with
  | error err => exact .inl ⟨err,judge_unresolved listing w⟩
  | ok rules =>
    obtain ⟨stats,beside,frame⟩ := e.store.observe_frame t.id (e.sampled w t rules) w.now
    refine .inr ⟨rules,stats,rfl,beside,frame,?_⟩
    rcases result : e.store.observe t.id (e.sampled w t rules) w.now with ⟨err | snapshot,observed⟩
    all_goals
      rw [result] at frame
      obtain rfl : observed = { e.store with fieldStats := stats } := frame
    · exact .inl ⟨err,judge_unread listing result⟩
    · exact .inr ⟨snapshot,judge_observed listing result⟩

/-- Either a decision is recorded, or statistics alone have changed. -/
theorem judge_cases (e : Engine) (w : Surroundings) (t : Target) :
    (∃ err stats, e.judge w t = (.error err,{ e with store := { e.store with fieldStats := stats } })) ∨
    ∃ d after, e.judge w t = (.ok d,after) ∧ e.Judged w t d after := by
  rcases e.judge_stages w t with
    ⟨err,same⟩ | ⟨rules,stats,listing,_,_,⟨err,same⟩ | ⟨snapshot,same⟩⟩
  · exact .inl ⟨_,e.store.fieldStats,same⟩
  · exact .inl ⟨_,stats,same⟩
  · exact .inr ⟨_,_,same,rfl,rfl,rfl,⟨rules,snapshot,listing,rfl,rfl,rfl⟩,⟨stats,rfl⟩⟩

theorem decide_cases (e : Engine) (w : Surroundings) (id : String) :
    (∃ err stats, e.decide w id = (.error err,{ e with store := { e.store with fieldStats := stats } })) ∨
    ∃ t d after, e.registry[id]? = some t ∧ e.decide w id = (.ok d,after) ∧ e.Judged w t d after := by
  cases found : e.registry[id]? with
  | none =>
    refine .inl ⟨.unknownTarget id,e.store.fieldStats,?_⟩
    simp [decide,found]
  | some t =>
    have same : e.decide w id = e.judge w t := by simp [decide,found]
    rw [same]
    rcases e.judge_cases w t with failed | ⟨d,after,done,judged⟩
    · exact .inl failed
    · exact .inr ⟨t,d,after,rfl,done,judged⟩

/-- An action that does something needs a landing host, unless it stops its target. -/
theorem place_ok {e : Engine} (done : e.place s t d = .ok landing) :
    (landing = none ∧ (d = .none ∨ d = .stop)) ∨
    ∃ h, landing = some h ∧ d ≠ .none ∧ d ≠ .stop ∧
      e.admission.nearest s (e.settings.footprintOf t.service) (e.landingArea t).2 (e.landingArea t).1
        e.hosts (e.excluded t d) = .ok h := by
  have landed : d ≠ .none → d ≠ .stop →
      (e.admission.nearest s (e.settings.footprintOf t.service) (e.landingArea t).2 (e.landingArea t).1
        e.hosts (e.excluded t d)).map some = .ok landing →
      ∃ h, landing = some h ∧ d ≠ .none ∧ d ≠ .stop ∧
        e.admission.nearest s (e.settings.footprintOf t.service) (e.landingArea t).2 (e.landingArea t).1
          e.hosts (e.excluded t d) = .ok h := by
    intro active moving found
    cases chosen : e.admission.nearest s (e.settings.footprintOf t.service) (e.landingArea t).2
      (e.landingArea t).1 e.hosts (e.excluded t d) with
    | error err => rw [chosen] at found; cases found
    | ok h =>
      rw [chosen] at found
      cases found
      exact ⟨h,rfl,active,moving,rfl⟩
  cases d with
  | none => cases done; exact .inl ⟨rfl,.inl rfl⟩
  | stop => cases done; exact .inl ⟨rfl,.inr rfl⟩
  | start => exact .inr (landed (by simp) (by simp) done)
  | replicate => exact .inr (landed (by simp) (by simp) done)
  | migrate => exact .inr (landed (by simp) (by simp) done)

theorem place_of_nearest {e : Engine} (active : d ≠ .none) (moving : d ≠ .stop)
    (chosen : e.admission.nearest s (e.settings.footprintOf t.service) (e.landingArea t).2 (e.landingArea t).1
      e.hosts (e.excluded t d) = .ok h) : e.place s t d = .ok (some h) := by
  cases d with
  | none => exact absurd rfl active
  | stop => exact absurd rfl moving
  | start | replicate | migrate => simp [place,chosen,Except.map]

structure Clears (e : Engine) (w : Surroundings) (d : Decided) (landing : Option Host) : Prop where
  policy : e.policy.check d.target.kind d.decision d.count e.fleetSize = .act
  place : e.place w.source d.target d.decision = .ok landing

/-- A decision that the policy holds back changes nothing. -/
theorem act_refused {e : Engine} {d : Decided}
    (refused : e.policy.check d.target.kind d.decision d.count e.fleetSize ≠ .act) (w : Surroundings) :
    ∃ outcome, outcome.isApplied = false ∧ e.act w d = (d.report outcome none,e) := by
  cases checked : e.policy.check d.target.kind d.decision d.count e.fleetSize with
  | idle => exact ⟨.idle,rfl,by simp [act,checked]⟩
  | waiting count threshold => exact ⟨.waiting count threshold,rfl,by simp [act,checked]⟩
  | fleetBound fleet => exact ⟨.fleetBound fleet,rfl,by simp [act,checked]⟩
  | act => exact absurd checked refused

/-- Acting hands an action out exactly when it is cleared, and changes the engine exactly when the
action was carried out. -/
theorem act_cases (e : Engine) (w : Surroundings) (d : Decided) :
    (∃ outcome, outcome.isApplied = false ∧ e.act w d = (d.report outcome none,e) ∧
      ∀ landing, ¬e.Clears w d landing) ∨
    (∃ landing message, e.Clears w d landing ∧
      e.act w d = (d.report (.applyFailed message) (some (d.action landing)),e)) ∨
    ∃ landing, e.Clears w d landing ∧ w.carryOut (d.action landing) = .ok () ∧
      e.act w d = (d.report (.applied (landing.map (·.publicAddress))) (some (d.action landing)),
        e.complete (d.action landing) d.now) := by
  by_cases checked : e.policy.check d.target.kind d.decision d.count e.fleetSize = .act
  · cases placed : e.place w.source d.target d.decision with
    | error err =>
      refine .inl ⟨.noPlacement err.region,rfl,by simp [act,checked,placed],?_⟩
      intro landing clears
      simpa [placed] using clears.place
    | ok landing =>
      cases carried : w.carryOut (d.action landing) with
      | error message =>
        exact .inr (.inl ⟨landing,message,⟨checked,placed⟩,by simp [act,checked,placed,carried]⟩)
      | ok done =>
        exact .inr (.inr ⟨landing,⟨checked,placed⟩,carried,by simp [act,checked,placed,carried]⟩)
  · obtain ⟨outcome,unapplied,same⟩ := act_refused checked w
    exact .inl ⟨outcome,unapplied,same,fun landing clears => checked clears.policy⟩

theorem act_dispatched {e : Engine} (dispatched : (e.act w d).1.dispatched = some a) :
    ∃ landing, e.Clears w d landing ∧ a = d.action landing := by
  rcases e.act_cases w d with ⟨outcome,_,same,_⟩ | ⟨landing,message,clears,same⟩ | ⟨landing,clears,_,same⟩
  all_goals rw [same] at dispatched
  · cases dispatched
  · exact ⟨landing,clears,(Option.some.inj dispatched).symm⟩
  · exact ⟨landing,clears,(Option.some.inj dispatched).symm⟩

/-- A decision made `count` times in a row was made often enough, keeps the fleet in its bounds, and
has a host to land on where one is needed. -/
def LetsThrough (e : Engine) (s : Source) (t : Target) (d : Decision) (count : Nat) : Prop :=
  (∃ needed, e.policy.threshold d = some needed ∧ max needed 1 ≤ count) ∧
    e.policy.blocks t.kind d e.fleetSize = false ∧
    (d ≠ .stop → ∃ h, e.place s t d = .ok (some h))

theorem clears_iff (e : Engine) (w : Surroundings) {d : Decided} (active : d.decision ≠ .none) :
    (∃ landing, e.Clears w d landing) ↔ e.LetsThrough w.source d.target d.decision d.count := by
  constructor
  · rintro ⟨landing,clears⟩
    obtain ⟨needed,threshold,enough,free⟩ := (Config.Policy.check_eq_act_iff ..).mp clears.policy
    refine ⟨⟨needed,threshold,enough⟩,free,?_⟩
    intro moving
    rcases place_ok clears.place with ⟨_,still⟩ | ⟨h,rfl,_⟩
    · rcases still with idle | stop
      · exact absurd idle active
      · exact absurd stop moving
    · exact ⟨h,clears.place⟩
  · rintro ⟨⟨needed,threshold,enough⟩,free,found⟩
    have cleared := (Config.Policy.check_eq_act_iff ..).mpr ⟨needed,threshold,enough,free⟩
    by_cases stop : d.decision = .stop
    · exact ⟨none,cleared,by rw [stop]; rfl⟩
    · obtain ⟨h,place⟩ := found stop
      exact ⟨some h,cleared,place⟩

theorem Clears.active {e : Engine} (clears : e.Clears w d landing) : d.decision ≠ .none := by
  intro idle
  obtain ⟨needed,threshold,_⟩ := (Config.Policy.check_eq_act_iff ..).mp clears.policy
  rw [idle] at threshold
  cases threshold

theorem act_dispatches_iff (e : Engine) (w : Surroundings) (d : Decided) :
    (e.act w d).1.dispatched.isSome = true ↔ ∃ landing, e.Clears w d landing := by
  rcases e.act_cases w d with ⟨outcome,_,same,never⟩ | ⟨landing,message,clears,same⟩ | ⟨landing,clears,_,same⟩
  · simp [same,Decided.report,never]
  · simp only [same,Decided.report,Option.isSome_some,true_iff]
    exact ⟨landing,clears⟩
  · simp only [same,Decided.report,Option.isSome_some,true_iff]
    exact ⟨landing,clears⟩

theorem Clears.dispatched {e : Engine} (clears : e.Clears w d landing) :
    (e.act w d).1.dispatched = some (d.action landing) := by
  obtain ⟨a,dispatched⟩ := Option.isSome_iff_exists.mp ((act_dispatches_iff e w d).mpr ⟨landing,clears⟩)
  obtain ⟨other,cleared,rfl⟩ := act_dispatched dispatched
  obtain rfl : other = landing := Except.ok.inj (cleared.place.symm.trans clears.place)
  exact dispatched

theorem act_report (e : Engine) (w : Surroundings) (d : Decided) :
    (e.act w d).1.evaluation.target = d.target.id ∧ (e.act w d).1.evaluation.decision = d.decision ∧
      (e.act w d).1.evaluation.rule = d.rule ∧ (e.act w d).1.evaluation.count = d.count := by
  rcases e.act_cases w d with ⟨outcome,_,same,_⟩ | ⟨landing,message,_,same⟩ | ⟨landing,_,_,same⟩
  all_goals rw [same]; exact ⟨rfl,rfl,rfl,rfl⟩

/-- Either an evaluation fails before it decides, or it acts on the decision that it recorded. -/
theorem evaluate_halves (e : Engine) (w : Surroundings) (id : String) :
    (∃ err stats, e.evaluate w id = (.error err,{ e with store := { e.store with fieldStats := stats } })) ∨
    ∃ t d after, e.registry[id]? = some t ∧ e.Judged w t d after ∧
      e.evaluate w id = (.ok (after.act w d).1,(after.act w d).2) := by
  rcases e.decide_cases w id with ⟨err,stats,failed⟩ | ⟨t,d,after,found,decided,judged⟩
  · exact .inl ⟨err,stats,by simp [evaluate,failed]⟩
  · exact .inr ⟨t,d,after,found,judged,by simp [evaluate,decided]⟩

/-- An evaluation hands an action out if the policy clears its decision by the state before. -/
theorem evaluate_dispatches {e : Engine} {w : Surroundings} {id : String} {d : Decided} {landing : Option Host}
    (decided : (e.decide w id).1 = .ok d) (clears : e.Clears w d landing) :
    ∃ report, (e.evaluate w id).1 = .ok report ∧ report.dispatched = some (d.action landing) := by
  rcases e.decide_cases w id with ⟨err,stats,failed⟩ | ⟨t,made,after,_,done,judged⟩
  · rw [failed] at decided
    cases decided
  · rw [done] at decided
    obtain rfl := Except.ok.inj decided
    have evaluated : (e.evaluate w id).1 = .ok (after.act w made).1 := by rw [evaluate,done]
    obtain ⟨stats,rfl⟩ := judged.recorded
    exact ⟨_,evaluated,Clears.dispatched ⟨clears.policy,clears.place⟩⟩

/-- An evaluation applies an action, or leaves everything but the store as it was. -/
theorem evaluate_cases (e : Engine) (w : Surroundings) (id : String) :
    ((∀ report, (e.evaluate w id).1 = .ok report → report.evaluation.outcome.isApplied = false) ∧
      ∃ store, (e.evaluate w id).2 = { e with store := store }) ∨
    ∃ t d after landing, e.registry[id]? = some t ∧ e.Judged w t d after ∧ after.Clears w d landing ∧
      e.evaluate w id =
        (.ok (d.report (.applied (landing.map (·.publicAddress))) (some (d.action landing))),
          after.complete (d.action landing) d.now) := by
  rcases e.evaluate_halves w id with ⟨err,stats,failed⟩ | ⟨t,d,after,found,judged,result⟩
  · refine .inl ⟨?_,{ e.store with fieldStats := stats },by rw [failed]⟩
    intro report done
    rw [failed] at done
    cases done
  · rcases after.act_cases w d with ⟨outcome,unapplied,same,_⟩ | ⟨landing,message,_,same⟩ | ⟨landing,clears,_,same⟩
    all_goals rw [same] at result
    · obtain ⟨stats,rfl⟩ := judged.recorded
      refine .inl ⟨?_,_,by rw [result]⟩
      intro report done
      rw [result] at done
      cases done
      exact unapplied
    · obtain ⟨stats,rfl⟩ := judged.recorded
      refine .inl ⟨?_,_,by rw [result]⟩
      intro report done
      rw [result] at done
      cases done
      rfl
    · exact .inr ⟨t,d,after,landing,found,judged,clears,result⟩

/-- An evaluation that changes more than the store follows an action that it settled there. -/
theorem evaluate_follows (e : Engine) (w : Surroundings) (id : String) :
    (∃ store, (e.evaluate w id).2 = { e with store := store }) ∨
    ∃ t d recorded settled landing, e.registry[id]? = some t ∧
      e.Judged w t d { e with store := recorded } ∧ Clears { e with store := recorded } w d landing ∧
      (e.evaluate w id).2 = follow { e with store := settled } d.target d.decision landing := by
  rcases e.evaluate_cases w id with ⟨_,store,same⟩ | ⟨t,d,after,landing,found,judged,clears,result⟩
  · exact .inl ⟨store,same⟩
  · obtain ⟨stats,rfl⟩ := judged.recorded
    exact .inr ⟨t,d,_,_,landing,found,judged,clears,by rw [result]; rfl⟩

@[simp] theorem settle_decisions (e : Engine) (a : Action) (now : Nat) :
    (e.settle a now).store.decisions =
      e.store.decisions.insert (a.logEntry now).key (a.logEntry now).stored? := by
  simp [settle,Store.putDecision]

/-- An action is followed by dropping its target, registering the landing host, moving the target
to it, or nothing. -/
theorem follow_cases (e : Engine) (t : Target) (d : Decision) (landing : Option Host) :
    (d = .stop ∧ e.follow t d landing = (e.deregister t.id).2) ∨
    (∃ h, d = .start ∧ landing = some h ∧ t.kind = .host ∧ e.follow t d landing = e.register (.ofHost h)) ∨
    (∃ h moved, d = .migrate ∧ landing = some h ∧ e.registry[t.id]? = some moved ∧
      e.follow t d landing = { e with registry := e.registry.insert t.id { moved with host := h } }) ∨
    (d ≠ .stop ∧ (d = .start → t.kind.isHost = true → landing = none) ∧ e.follow t d landing = e) := by
  cases d with
  | none => exact .inr (.inr (.inr ⟨by simp,by simp,by simp [follow]⟩))
  | replicate => exact .inr (.inr (.inr ⟨by simp,by simp,by simp [follow]⟩))
  | stop => exact .inl ⟨rfl,by simp [follow]⟩
  | start =>
    cases landing with
    | none => exact .inr (.inr (.inr ⟨by simp,by simp,by simp [follow]⟩))
    | some h =>
      cases host : t.kind.isHost with
      | true =>
        have kind : t.kind = .host := by simpa [Kind.isHost] using host
        exact .inr (.inl ⟨h,rfl,rfl,kind,by simp [follow,host]⟩)
      | false => exact .inr (.inr (.inr ⟨by simp,by simp,by simp [follow,host]⟩))
  | migrate =>
    cases landing with
    | none => exact .inr (.inr (.inr ⟨by simp,by simp,by simp [follow]⟩))
    | some h =>
      cases found : e.registry[t.id]? with
      | none => exact .inr (.inr (.inr ⟨by simp,by simp,by simp [follow,found]⟩))
      | some moved => exact .inr (.inr (.inl ⟨h,moved,rfl,rfl,rfl,by simp [follow,found]⟩))

theorem deregister_eq (e : Engine) (id : String) :
    e.deregister id = (e.registry[id]?,
      if e.registry[id]?.isSome then
        { e with registry := e.registry.erase id, store := forget e.store id } else e) := by
  cases found : e.registry[id]? with
  | none => simp [deregister,found]
  | some t => simp [deregister,found]

theorem deregister_inventory (e : Engine) (id : String) : (e.deregister id).2.inventory = e.inventory := by
  rw [deregister_eq]
  split <;> rfl

theorem deregister_registry (e : Engine) (id : String) :
    (e.deregister id).2.registry = e.registry.erase id := by
  rw [deregister_eq]
  split
  · rfl
  · rename_i absent
    apply Std.ExtTreeMap.ext_getElem?
    intro other
    by_cases same : id = other
    · subst same
      simpa using absent
    · rw [getElem?_erase_ne same]

@[simp] theorem deregister_decisions (e : Engine) (id : String) :
    (e.deregister id).2.store.decisions = e.store.decisions := by
  rw [deregister_eq]
  split <;> rfl

@[simp] theorem follow_decisions (e : Engine) (t : Target) (d : Decision) (landing : Option Host) :
    (e.follow t d landing).store.decisions = e.store.decisions := by
  rcases e.follow_cases t d landing with ⟨_,same⟩ | ⟨h,_,_,_,same⟩ | ⟨h,moved,_,_,_,same⟩ | ⟨_,_,same⟩
  · rw [same,deregister_decisions]
  · rw [same]; rfl
  · rw [same]
  · rw [same]

/-- What an engine decides by, and where actions may land because of it. -/
structure Alike (e next : Engine) : Prop where
  catalog : next.catalog = e.catalog
  settings : next.settings = e.settings
  policy : next.policy = e.policy
  admission : next.admission = e.admission
  traffic : next.traffic = e.traffic

theorem Alike.trans {e next last : Engine} (first : e.Alike next) (second : next.Alike last) :
    e.Alike last :=
  ⟨second.catalog.trans first.catalog,second.settings.trans first.settings,
    second.policy.trans first.policy,second.admission.trans first.admission,
    second.traffic.trans first.traffic⟩

theorem deregister_alike (e : Engine) (id : String) : e.Alike (e.deregister id).2 := by
  rw [deregister_eq]
  split <;> exact ⟨rfl,rfl,rfl,rfl,rfl⟩

theorem Judged.alike {e after : Engine} (judged : e.Judged w t d after) : e.Alike after := by
  obtain ⟨stats,rfl⟩ := judged.recorded
  exact ⟨rfl,rfl,rfl,rfl,rfl⟩

theorem follow_alike (e : Engine) (t : Target) (d : Decision) (landing : Option Host) :
    e.Alike (e.follow t d landing) := by
  rcases e.follow_cases t d landing with ⟨_,same⟩ | ⟨h,_,_,_,same⟩ | ⟨h,moved,_,_,_,same⟩ | ⟨_,_,same⟩
  all_goals rw [same]
  · exact e.deregister_alike t.id
  all_goals exact ⟨rfl,rfl,rfl,rfl,rfl⟩

theorem complete_alike (e : Engine) (a : Action) (now : Nat) : e.Alike (e.complete a now) := by
  obtain ⟨catalog,settings,policy,admission,traffic⟩ :=
    (e.settle a now).follow_alike a.target a.decision a.placement
  exact ⟨catalog,settings,policy,admission,traffic⟩

theorem act_alike (e : Engine) (w : Surroundings) (d : Decided) : e.Alike (e.act w d).2 := by
  rcases e.act_cases w d with ⟨outcome,_,same,_⟩ | ⟨landing,message,_,same⟩ | ⟨landing,_,_,same⟩
  · rw [same]; exact ⟨rfl,rfl,rfl,rfl,rfl⟩
  · rw [same]; exact ⟨rfl,rfl,rfl,rfl,rfl⟩
  · rw [same]; exact e.complete_alike _ _

end Engine

end GeoFleet
