import GeoFleet.Proofs.Engine.Registry

/-! How often in a row. The store keeps one record for each target, which every pass overwrites; over
whole runs its count is the number of passes in a row that came to the same decision, however many
other targets are evaluated in between and whatever became of the decision. Only an action that was
carried out, or dropping the target, starts the count over. -/
namespace GeoFleet

namespace Engine

/-- Following an action leaves the activities of all other targets alone, and its own unless the
target is dropped. -/
theorem follow_activities (e : Engine) (t : Target) (d : Decision) (landing : Option Host) (id : String) :
    (e.follow t d landing).store.activities[id]? = e.store.activities[id]? ∨
      (id = t.id ∧ (e.follow t d landing).store.activities[id]? = none) := by
  rcases e.follow_cases t d landing with ⟨_,same⟩ | ⟨h,_,_,_,same⟩ | ⟨h,moved,_,_,_,same⟩ | ⟨_,_,same⟩
  · rw [same,deregister_eq]
    split
    · by_cases own : id = t.id
      · exact .inr ⟨own,by simp [own]⟩
      · exact .inl (getElem?_erase_ne (Ne.symm own))
    · exact .inl rfl
  · exact .inl (by rw [same]; rfl)
  · exact .inl (by rw [same])
  · exact .inl (by rw [same])

theorem settle_activities (e : Engine) (a : Action) (now : Nat)
    (keyed : ∀ r, e.store.activities[a.target.id]? = some r → r.target = a.target.id) (id : String) :
    (e.settle a now).store.activities[id]? =
      if id = a.target.id then e.store.activities[id]?.map (·.restarted now)
      else e.store.activities[id]? :=
  e.store.restartCount_activities a.target.id now keyed id

theorem complete_activities_other (e : Engine) (a : Action) (now : Nat) {id : String}
    (keyed : ∀ r, e.store.activities[a.target.id]? = some r → r.target = a.target.id)
    (other : id ≠ a.target.id) :
    (e.complete a now).store.activities[id]? = e.store.activities[id]? := by
  rcases (e.settle a now).follow_activities a.target a.decision a.placement id with same | ⟨own,_⟩
  · rw [complete,same,settle_activities e a now keyed,if_neg other]
  · exact absurd own other

/-- After an action was carried out, any decision to do something is the first in a row. -/
theorem nextCount_complete (e : Engine) (a : Action) (now : Nat)
    (keyed : ∀ r, e.store.activities[a.target.id]? = some r → r.target = a.target.id)
    (active : d ≠ .none) :
    Activity.nextCount (e.complete a now).store.activities[a.target.id]? d = 1 := by
  rcases (e.settle a now).follow_activities a.target a.decision a.placement a.target.id with
    same | ⟨_,gone⟩
  · rw [complete,same,settle_activities e a now keyed,if_pos rfl]
    cases e.store.activities[a.target.id]? with
    | none => rfl
    | some r => simp [Activity.nextCount,Activity.restarted,Ne.symm active]
  · rw [complete,gone]; rfl

end Engine

namespace Session

/-- How many evaluations of a target in a row, up to now, came to one decision: since another
decision, since an action on the target was carried out, and since the target was dropped. What
happens to other targets does not matter. -/
def streak (id : String) (d : Decision) : List Occurrence → Nat
  | [] => 0
  | .dropped other :: past => if other = id then 0 else streak id d past
  | .completed report _ :: past =>
    if report.evaluation.target ≠ id then streak id d past
    else if report.evaluation.decision = d ∧ report.evaluation.outcome.isApplied = false then
      streak id d past + 1
    else 0

/-- The records of the store count the evaluations of the past. -/
structure Counted (s : Session) : Prop where
  idle : ∀ (id : String) (d : Decision), s.pending[id]? = none → d ≠ .none →
    Activity.nextCount s.engine.store.activities[id]? d =
      min (streak id d s.past + 1) Activity.countLimit
  owner : ∀ (id : String) (d : Decided), s.pending[id]? = some d → d.target.id = id
  record : ∀ (id : String) (d : Decided), s.pending[id]? = some d →
    s.engine.store.activities[id]? = some ⟨id,d.target.kind,d.decision,d.count,d.now⟩
  count : ∀ (id : String) (d : Decided), s.pending[id]? = some d → d.decision ≠ .none →
    d.count = min (streak id d.decision s.past + 1) Activity.countLimit

theorem counted_start (catalog : Catalog) (settings : Settings) (policy : Config.Policy)
    (admission : Admission) : Counted (start (.new catalog settings policy admission .empty)) := by
  constructor
  · intro id d _ _
    simp [start,Engine.new,Store.empty,Activity.nextCount,streak,Activity.countLimit]
  all_goals intro id d found; simp [start] at found

theorem Counted.of_activities_eq {s : Session} (valid : Counted s) {e : Engine}
    (same : e.store.activities = s.engine.store.activities) : Counted { s with engine := e } := by
  constructor
  · intro id d idle active; simp only [same]; exact valid.idle id d idle active
  · exact valid.owner
  · intro id d found; simp only [same]; exact valid.record id d found
  · exact valid.count

theorem Counted.deregister {s : Session} (valid : Counted s) {id : String}
    (idle : s.pending[id]? = none) (found : s.engine.registry[id]? = some t) :
    Counted { s with engine := (s.engine.deregister id).2, past := .dropped id :: s.past } := by
  have activities : (s.engine.deregister id).2.store.activities = s.engine.store.activities.erase id := by
    simp [Engine.deregister_eq,found]
  have apart : ∀ (other : String) (d : Decided), s.pending[other]? = some d → other ≠ id := by
    intro other d pending same
    rw [same,idle] at pending
    cases pending
  constructor
  · intro other d free active
    by_cases same : other = id
    · subst same
      simp [activities,Activity.nextCount,streak,Activity.countLimit]
    · simp only [activities,getElem?_erase_ne (Ne.symm same),streak,Ne.symm same,if_false]
      exact valid.idle other d free active
  · exact valid.owner
  · intro other d pending
    simp only [activities,getElem?_erase_ne (Ne.symm (apart other d pending))]
    exact valid.record other d pending
  · intro other d pending active
    simp only [streak,Ne.symm (apart other d pending),if_false]
    exact valid.count other d pending active

theorem Counted.judged {s : Session} (valid : Counted s) {id : String} (keyed : s.engine.Keyed)
    (idle : s.pending[id]? = none) (found : s.engine.registry[id]? = some t)
    (judged : s.engine.Judged w t d after) :
    Counted { s with engine := after, pending := s.pending.insert id d } := by
  have own : t.id = id := keyed id t found
  obtain ⟨stats,rfl⟩ := judged.recorded
  have fresh : d.decision ≠ .none →
      d.count = min (streak id d.decision s.past + 1) Activity.countLimit := by
    intro active
    rw [judged.count,own]
    exact valid.idle id d.decision idle active
  constructor
  · intro other decision free active
    have apart : id ≠ other := by
      intro same
      simp [same] at free
    simp only [own,getElem?_insert_ne apart] at free ⊢
    exact valid.idle other decision free active
  all_goals
    intro other made pending
    rcases getElem?_insert_eq_some pending with ⟨rfl,rfl⟩ | ⟨apart,before⟩
  · exact judged.target ▸ own
  · exact valid.owner other made before
  · simp [own,judged.target,judged.now]
  · simp only [own,getElem?_insert_ne apart]
    exact valid.record other made before
  · exact fresh
  · exact valid.count other made before

theorem streak_completed_self (report : Report) (now : Nat) (past : List Occurrence)
    (short : report.evaluation.outcome.isApplied = false) :
    streak report.evaluation.target report.evaluation.decision (.completed report now :: past) =
      streak report.evaluation.target report.evaluation.decision past + 1 := by
  simp [streak,short]

theorem streak_completed_other (report : Report) (now : Nat) (past : List Occurrence) (d : Decision)
    {id : String} (other : report.evaluation.target ≠ id) :
    streak id d (.completed report now :: past) = streak id d past := by
  simp [streak,other]

theorem streak_completed_applied (report : Report) (now : Nat) (past : List Occurrence) (d : Decision)
    (applied : report.evaluation.outcome.isApplied = true) :
    streak report.evaluation.target d (.completed report now :: past) = 0 := by
  simp [streak,applied]

theorem streak_completed_different (report : Report) (now : Nat) (past : List Occurrence)
    (different : report.evaluation.decision ≠ d) :
    streak report.evaluation.target d (.completed report now :: past) = 0 := by
  simp [streak,different]

/-- The end of an evaluation keeps every other target's count, and leaves its own to be gone on with
or, after an applied action, to be started over. -/
theorem Counted.completed {s : Session} (valid : Counted s) {id : String} {d : Decided}
    (found : s.pending[id]? = some d) {e : Engine} {report : Report}
    (target : report.evaluation.target = id)
    (others : ∀ other : String, other ≠ id →
      e.store.activities[other]? = s.engine.store.activities[other]?)
    (own : ∀ decision, decision ≠ .none → Activity.nextCount e.store.activities[id]? decision =
      min (streak id decision (.completed report d.now :: s.past) + 1) Activity.countLimit) :
    Counted
      { engine := e, pending := s.pending.erase id, past := .completed report d.now :: s.past } := by
  have away : ∀ (other : String) (made : Decided), (s.pending.erase id)[other]? = some made →
      other ≠ id ∧ s.pending[other]? = some made := by
    intro other made pending
    obtain ⟨apart,before⟩ := getElem?_erase_eq_some pending
    exact ⟨Ne.symm apart,before⟩
  have passed : ∀ (other : String) (decision : Decision), other ≠ id →
      streak other decision (.completed report d.now :: s.past) = streak other decision s.past := by
    intro other decision apart
    apply streak_completed_other
    rw [target]
    exact Ne.symm apart
  constructor
  · intro other decision free active
    by_cases same : other = id
    · subst same; exact own decision active
    · simp only [getElem?_erase_ne (Ne.symm same)] at free
      simp only [others other same,passed other decision same]
      exact valid.idle other decision free active
  · intro other made pending
    exact valid.owner other made (away other made pending).2
  · intro other made pending
    obtain ⟨apart,pending⟩ := away other made pending
    simp only [others other apart]
    exact valid.record other made pending
  · intro other made pending active
    obtain ⟨apart,pending⟩ := away other made pending
    simp only [passed other made.decision apart]
    exact valid.count other made pending active

/-- An outcome short of an applied action leaves the record as it was: its count goes on if the next
evaluation comes to the same decision. -/
theorem Counted.unapplied {s : Session} (valid : Counted s) {id : String} {d : Decided}
    (found : s.pending[id]? = some d) {report : Report} (target : report.evaluation.target = id)
    (decision : report.evaluation.decision = d.decision)
    (short : report.evaluation.outcome.isApplied = false) :
    Counted
      { engine := s.engine, pending := s.pending.erase id, past := .completed report d.now :: s.past } := by
  apply valid.completed found target
  · intro other _; rfl
  · intro next active
    rw [valid.record id d found]
    by_cases equal : d.decision = next
    · subst equal
      have longer := streak_completed_self report d.now s.past short
      rw [target,decision] at longer
      have count := valid.count id d found active
      rw [longer]
      simp only [Activity.nextCount,if_true,count]
      omega
    · have fresh := streak_completed_different report d.now s.past (by rw [decision]; exact equal)
      rw [target] at fresh
      rw [fresh]
      simp [Activity.nextCount,equal,Activity.countLimit]

/-- After an applied action the count starts over. -/
theorem Counted.applied {s : Session} (valid : Counted s) {id : String} {d : Decided}
    (found : s.pending[id]? = some d) {report : Report} (target : report.evaluation.target = id)
    (applied : report.evaluation.outcome.isApplied = true) (landing : Option Host) :
    Counted
      { engine := s.engine.complete (d.action landing) d.now
        pending := s.pending.erase id
        past := .completed report d.now :: s.past } := by
  have owner : (d.action landing).target.id = id := valid.owner id d found
  have keyed : ∀ r, s.engine.store.activities[(d.action landing).target.id]? = some r →
      r.target = (d.action landing).target.id := by
    intro r present
    rw [owner] at present ⊢
    rw [valid.record id d found] at present
    cases present
    rfl
  apply valid.completed found target
  · intro other apart
    apply Engine.complete_activities_other _ _ _ keyed
    rw [owner]
    exact apart
  · intro next active
    have fresh := streak_completed_applied report d.now s.past next applied
    rw [target] at fresh
    have first := Engine.nextCount_complete s.engine (d.action landing) d.now keyed active
    rw [owner] at first
    rw [fresh,first]
    simp [Activity.countLimit]

theorem Counted.act {s : Session} (valid : Counted s) {id : String} {d : Decided}
    (found : s.pending[id]? = some d) (w : Surroundings) : Counted (s.step (.act w id)) := by
  have owner : d.target.id = id := valid.owner id d found
  rw [step_act found]
  rcases s.engine.act_cases w d with ⟨outcome,short,same,_⟩ | ⟨landing,message,_,same⟩ | ⟨landing,_,_,same⟩
  all_goals rw [same]
  · exact valid.unapplied found owner rfl short
  · exact valid.unapplied found owner rfl rfl
  · exact valid.applied found owner rfl landing

theorem step_counted (s : Session) (m : Move) (valid : s.engine.Keyed ∧ Counted s) :
    (s.step m).engine.Keyed ∧ Counted (s.step m) := by
  obtain ⟨keyed,valid⟩ := valid
  refine ⟨step_keyed s m keyed,?_⟩
  cases m with
  | register t => exact valid.of_activities_eq rfl
  | addHost h active =>
    apply valid.of_activities_eq
    cases active <;> rfl
  | edit o => exact valid.of_activities_eq rfl
  | traffic t => exact valid.of_activities_eq rfl
  | deregister id =>
    rcases s.step_deregister id with same | ⟨t,idle,found,same⟩
    · rw [same]; exact valid
    · rw [same]; exact valid.deregister idle found
  | decide w id =>
    rcases s.step_decide w id with ⟨stats,same⟩ | ⟨t,d,after,idle,found,judged,same⟩
    · rw [same]; exact valid.of_activities_eq rfl
    · rw [same]; exact valid.judged keyed idle found judged
  | act w id =>
    cases found : s.pending[id]? with
    | none => simpa [step,found] using valid
    | some d => exact valid.act found w

theorem run_counted (catalog : Catalog) (settings : Settings) (policy : Config.Policy)
    (admission : Admission) (moves : List Move) :
    Counted (run moves (start (.new catalog settings policy admission .empty))) := by
  have initial := And.intro (Engine.keyed_new catalog settings policy admission .empty)
    (counted_start catalog settings policy admission)
  exact (run_invariant (fun s => s.engine.Keyed ∧ Counted s) step_counted initial moves).2

structure Accounted (s : Session) (w : Surroundings) (id : String) (t : Target) (report : Report) :
    Prop where
  target : report.evaluation.target = id
  idle : report.evaluation.decision = .none → report.dispatched = none
  count : report.evaluation.decision ≠ .none → report.evaluation.count =
    min (streak id report.evaluation.decision s.past + 1) Activity.countLimit
  dispatched : report.evaluation.decision ≠ .none → (report.dispatched.isSome = true ↔
    s.engine.LetsThrough w.source t report.evaluation.decision report.evaluation.count)

theorem Counted.accounted {s : Session} (valid : Counted s) {id : String}
    (pending : s.pending[id]? = some d) (w : Surroundings) :
    s.Accounted w id d.target (s.engine.act w d).1 := by
  obtain ⟨target,decision,_,count⟩ := s.engine.act_report w d
  constructor
  · exact target.trans (valid.owner id d pending)
  · intro idle
    rw [decision] at idle
    have never : ¬∃ landing, s.engine.Clears w d landing := by
      rintro ⟨landing,clears⟩
      exact clears.active idle
    rw [← Engine.act_dispatches_iff] at never
    simpa using never
  · intro active
    rw [decision] at active ⊢
    exact count.trans (valid.count id d pending active)
  · intro active
    rw [decision] at active ⊢
    rw [count,Engine.act_dispatches_iff,Engine.clears_iff s.engine w active]

/-- An evaluation that is not interrupted is accounted for by the state that it starts in. -/
theorem Counted.evaluate {s : Session} (valid : Counted s) (keyed : s.engine.Keyed) {id : String}
    (idle : s.pending[id]? = none) (found : s.engine.registry[id]? = some t)
    (done : (s.engine.evaluate w id).1 = .ok report) : s.Accounted w id t report := by
  rcases s.engine.decide_cases w id with ⟨err,stats,failed⟩ | ⟨other,d,after,known,decided,judged⟩
  · simp [Engine.evaluate,failed] at done
  · cases found.symm.trans known
    have next : Counted { s with engine := after, pending := s.pending.insert id d } :=
      valid.judged keyed idle found judged
    have same : (after.act w d).1 = report := by simpa [Engine.evaluate,decided] using done
    have held : (s.pending.insert id d)[id]? = some d := Std.ExtTreeMap.getElem?_insert_self
    have accounted := next.accounted held w
    obtain ⟨stats,rfl⟩ := judged.recorded
    rw [judged.target] at accounted
    rw [← same]
    exact ⟨accounted.target,accounted.idle,accounted.count,accounted.dispatched⟩

/-- Whatever was done to an engine that started with an empty store, every evaluation that comes to
its end, be it interrupted by others or not, reports how many evaluations of its target in a row came
to its decision. It hands an action out exactly when the row is long enough, the bounds of the fleet
allow the action, and a landing host is found where one is needed. -/
theorem evaluations_report_streaks (catalog : Catalog) (settings : Settings) (policy : Config.Policy)
    (admission : Admission) (moves : List Move) :
    let s := run moves (start (.new catalog settings policy admission .empty))
    s.engine.policy = policy ∧
    (∀ (w : Surroundings) (id : String) (d : Decided), s.pending[id]? = some d →
      s.Accounted w id d.target (s.engine.act w d).1 ∧
      (s.step (.act w id)).past = .completed (s.engine.act w d).1 d.now :: s.past) ∧
    (∀ (w : Surroundings) (id : String) (t : Target) (report : Report), s.pending[id]? = none →
      s.engine.registry[id]? = some t → (s.engine.evaluate w id).1 = .ok report →
      s.Accounted w id t report ∧
      (run [.decide w id,.act w id] s).past = .completed report w.now :: s.past) := by
  intro s
  have counted : Counted s := run_counted catalog settings policy admission moves
  have keyed : s.engine.Keyed := run_keyed moves (Engine.keyed_new _ _ _ _ _)
  refine ⟨run_invariant (fun s => s.engine.policy = policy) step_policy rfl moves,?_,?_⟩
  · intro w id d pending
    exact ⟨counted.accounted pending w,by rw [step_act pending]⟩
  · intro w id t report idle found done
    refine ⟨counted.evaluate keyed idle found done,?_⟩
    rw [run_evaluate s w id idle,done]
    rfl

/-- Where it takes two passes to move a container, the first one waits and the second one moves it. -/
example : (run [.decide hot "web-1",.act hot "web-1",.decide hot "web-1",.act hot "web-1"]
    (sample 2)).past.map (fun
      | .completed report _ => (report.evaluation.count,report.dispatched.isSome)
      | .dropped _ => (0,false)) = [(2,true),(1,false)] := by
  decide +kernel

end Session

end GeoFleet
