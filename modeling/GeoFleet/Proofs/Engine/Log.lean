import Mathlib.Data.List.Nodup
import Mathlib.Data.List.Perm.Subperm
import GeoFleet.Proofs.Engine.Session
import GeoFleet.Proofs.Store.Keys

/-! What the log keeps of the actions that were carried out. An entry stands under its target and its
time in milliseconds, so of several actions on a target at one time the last one alone is left; and an
entry is written as text, so values that text does not give back are lost with it or come back
different. Otherwise the log is complete. -/
namespace GeoFleet

namespace Store

def logged (s : Store) (target : String) : Nat :=
  (s.decisions.values.filter fun row => row.any (·.target = target)).length

def loggedKeys (s : Store) (target : String) : List String :=
  (s.decisions.toList.filter fun row => row.2.any (·.target = target)).map (·.1)

theorem length_loggedKeys (s : Store) (target : String) :
    (s.loggedKeys target).length = s.logged target := by
  rw [loggedKeys,List.length_map,logged,values_eq_map_toList,List.filter_map,List.length_map]
  rfl

theorem loggedKeys_nodup (s : Store) (target : String) : (s.loggedKeys target).Nodup := by
  have distinct : (s.decisions.toList.map Prod.fst).Nodup := by
    rw [Std.ExtTreeMap.map_fst_toList_eq_keys]
    exact Std.ExtTreeMap.nodup_keys
  exact distinct.sublist (List.filter_sublist.map _)

theorem mem_loggedKeys {s : Store} {target k : String} :
    k ∈ s.loggedKeys target ↔ ∃ r, s.decisions[k]? = some (some r) ∧ r.target = target := by
  simp only [loggedKeys,List.mem_map,List.mem_filter]
  constructor
  · rintro ⟨⟨key,row⟩,⟨member,own⟩,rfl⟩
    cases row with
    | none => cases own
    | some r => exact ⟨r,Std.ExtTreeMap.mem_toList_iff_getElem?_eq_some.mp member,by simpa using own⟩
  · rintro ⟨r,found,same⟩
    exact ⟨(k,some r),⟨Std.ExtTreeMap.mem_toList_iff_getElem?_eq_some.mpr found,by simpa using same⟩,rfl⟩

/-- The log is what writing the records of a list leaves, the latest of them first. -/
def LogOf (s : Store) (records : List DecisionRecord) : Prop :=
  ∀ k : String, s.decisions[k]? = (records.find? (·.key = k)).map (·.stored?)

/-- Every record has an entry of its own, as it was written. -/
structure LogComplete (s : Store) (records : List DecisionRecord) : Prop where
  present : ∀ r ∈ records, s.decisions[r.key]? = some (some r)
  counted : ∀ target, s.logged target = (records.filter (·.target = target)).length

def recordKeys (records : List DecisionRecord) (target : String) : List String :=
  (records.filter (·.target = target)).map (·.key)

theorem nodup_keys_iff {records : List DecisionRecord} :
    (records.map (·.key)).Nodup ↔ (records.map fun r => (r.target,r.epoch)).Nodup := by
  simp only [List.Nodup,List.pairwise_map]
  constructor
  · intro apart
    exact apart.imp fun different same => different (DecisionRecord.key_eq_iff.mpr same)
  · intro apart
    exact apart.imp fun different same => different (DecisionRecord.key_eq_iff.mp same)

theorem nodup_keys_of_targets {records : List DecisionRecord}
    (each : ∀ target, (recordKeys records target).Nodup) : (records.map (·.key)).Nodup := by
  rw [List.Nodup,List.pairwise_map,List.pairwise_iff_getElem]
  intro i j hi hj before same
  have target : records[i].target = records[j].target :=
    (Prod.mk.inj (DecisionRecord.key_eq_iff.mp same)).1
  have apart := each records[i].target
  rw [recordKeys,List.Nodup,List.pairwise_map,List.pairwise_filter,List.pairwise_iff_getElem] at apart
  exact apart i j hi hj before (by simp) (by simp [target]) same

theorem LogOf.mem_recordKeys {s : Store} {records : List DecisionRecord} (log : s.LogOf records)
    {target : String} (member : k ∈ s.loggedKeys target) : k ∈ recordKeys records target := by
  obtain ⟨back,found,own⟩ := mem_loggedKeys.mp member
  rw [log k] at found
  obtain ⟨r,first,stored⟩ := Option.map_eq_some_iff.mp found
  have key : r.key = k := by simpa using List.find?_some first
  have target_eq := (DecisionRecord.stored?_target stored).1
  apply List.mem_map.mpr
  exact ⟨r,List.mem_filter.mpr ⟨List.mem_of_find?_eq_some first,by simp [← own,target_eq]⟩,key⟩

theorem LogOf.found {s : Store} {records : List DecisionRecord} (log : s.LogOf records)
    (distinct : (records.map (·.key)).Nodup) (member : r ∈ records) :
    s.decisions[r.key]? = some r.stored? := by
  rw [log r.key]
  cases first : records.find? (·.key = r.key) with
  | none =>
    have absent := List.find?_eq_none.mp first r member
    simp at absent
  | some other =>
    have key : other.key = r.key := by simpa using List.find?_some first
    have same := List.inj_on_of_nodup_map distinct (List.mem_of_find?_eq_some first) member key
    rw [same,Option.map_some]

theorem LogComplete.distinct {s : Store} {records : List DecisionRecord} (log : s.LogOf records)
    (complete : s.LogComplete records) : (records.map (·.key)).Nodup := by
  apply nodup_keys_of_targets
  intro target
  -- As many keys stand in the log as there are records, so no two records share one.
  have within : (s.loggedKeys target).Subperm (recordKeys records target) :=
    List.subperm_of_subset (s.loggedKeys_nodup target) fun k member => log.mem_recordKeys member
  have same : (recordKeys records target).length = (s.loggedKeys target).length := by
    rw [length_loggedKeys,complete.counted,recordKeys,List.length_map]
  exact (within.perm_of_length_le (Nat.le_of_eq same)).nodup_iff.mp (s.loggedKeys_nodup target)

theorem LogOf.complete {s : Store} {records : List DecisionRecord} (log : s.LogOf records)
    (distinct : (records.map (·.key)).Nodup) (lasting : ∀ r ∈ records, r.stored? = some r) :
    s.LogComplete records := by
  have present : ∀ r ∈ records, s.decisions[r.key]? = some (some r) := by
    intro r member
    rw [log.found distinct member,lasting r member]
  refine ⟨present,?_⟩
  intro target
  have own : (recordKeys records target).Nodup := distinct.sublist (List.filter_sublist.map _)
  have same : (s.loggedKeys target).Perm (recordKeys records target) := by
    apply (List.perm_ext_iff_of_nodup (s.loggedKeys_nodup target) own).mpr
    intro k
    constructor
    · exact log.mem_recordKeys
    · intro member
      obtain ⟨r,chosen,rfl⟩ := List.mem_map.mp member
      obtain ⟨member,target⟩ := List.mem_filter.mp chosen
      exact mem_loggedKeys.mpr ⟨r,present r member,by simpa using target⟩
  rw [← length_loggedKeys,same.length_eq,recordKeys,List.length_map]

/-- A log is complete exactly when no two records of one target have one time, and every record
survives being written. -/
theorem LogOf.complete_iff {s : Store} {records : List DecisionRecord} (log : s.LogOf records) :
    s.LogComplete records ↔
      (records.map fun r => (r.target,r.epoch)).Nodup ∧ ∀ r ∈ records, r.stored? = some r := by
  rw [← nodup_keys_iff]
  constructor
  · intro complete
    have distinct := complete.distinct log
    refine ⟨distinct,?_⟩
    intro r member
    have found := log.found distinct member
    rw [complete.present r member] at found
    exact (Option.some.inj found).symm
  · rintro ⟨distinct,lasting⟩
    exact log.complete distinct lasting

end Store

namespace Session

/-- What a complete log keeps of an occurrence: the action, if one was carried out. -/
def carriedOut? : Occurrence → Option DecisionRecord
  | .completed report now =>
    if report.evaluation.outcome.isApplied then report.dispatched.map (·.logEntry now) else none
  | .dropped _ => none

def applied (past : List Occurrence) : List DecisionRecord := past.filterMap carriedOut?

/-- An evaluation writes to the log what it carried out, and nothing otherwise. -/
theorem act_log {s : Session} (log : s.engine.store.LogOf (applied s.past)) (w : Surroundings)
    (d : Decided) :
    (s.engine.act w d).2.store.LogOf (applied (.completed (s.engine.act w d).1 d.now :: s.past)) := by
  have quiet : ∀ report, report.evaluation.outcome.isApplied = false →
      applied (.completed report d.now :: s.past) = applied s.past := by
    intro report unapplied
    simp [applied,carriedOut?,unapplied]
  rcases s.engine.act_cases w d with ⟨outcome,unapplied,same,_⟩ | ⟨landing,message,_,same⟩ | ⟨landing,_,_,same⟩
  · rw [same,quiet _ unapplied]; exact log
  · rw [same,quiet _ rfl]; exact log
  · rw [same]
    have entries : applied (.completed (d.report (.applied (landing.map (·.publicAddress)))
        (some (d.action landing))) d.now :: s.past) = (d.action landing).logEntry d.now :: applied s.past := rfl
    intro k
    rw [entries,Engine.complete,Engine.follow_decisions,Engine.settle_decisions]
    by_cases own : ((d.action landing).logEntry d.now).key = k
    · rw [own,Std.ExtTreeMap.getElem?_insert_self]
      simp [own]
    · rw [getElem?_insert_ne own,log k,List.find?_cons_of_neg (by simpa using own)]

theorem step_log (s : Session) (m : Move) (log : s.engine.store.LogOf (applied s.past)) :
    (s.step m).engine.store.LogOf (applied (s.step m).past) := by
  cases m with
  | register t => exact log
  | addHost h active => cases active <;> exact log
  | edit o => exact log
  | traffic t => exact log
  | deregister id =>
    rcases s.step_deregister id with same | ⟨t,_,_,same⟩
    · rw [same]; exact log
    · rw [same]
      intro k
      rw [Engine.deregister_decisions]
      exact log k
  | decide w id =>
    rcases s.step_decide w id with ⟨stats,same⟩ | ⟨t,d,after,_,_,judged,same⟩
    · rw [same]; exact log
    · obtain ⟨stats,recorded⟩ := judged.recorded
      rw [same,recorded]; exact log
  | act w id =>
    cases found : s.pending[id]? with
    | none => simpa [step,found] using log
    | some d => rw [step_act found]; exact act_log log w d

/-- The log of an engine that started with an empty store is what its past wrote. -/
theorem run_log (catalog : Catalog) (settings : Settings) (policy : Config.Policy)
    (admission : Admission) (moves : List Move) :
    let s := run moves (start (.new catalog settings policy admission .empty))
    s.engine.store.LogOf (applied s.past) := by
  apply run_invariant (fun s => s.engine.store.LogOf (applied s.past)) step_log
  intro k
  simp [start,Engine.new,Store.empty,applied]

theorem step_past (s : Session) (m : Move) : s.past <:+ (s.step m).past := by
  cases m with
  | register t => exact List.suffix_refl _
  | addHost h active => exact List.suffix_refl _
  | edit o => exact List.suffix_refl _
  | traffic t => exact List.suffix_refl _
  | deregister id =>
    rcases s.step_deregister id with same | ⟨t,_,_,same⟩
    · simp [same]
    · simp [same]
  | decide w id =>
    rcases s.step_decide w id with ⟨stats,same⟩ | ⟨t,d,after,_,_,_,same⟩
    · simp [same]
    · simp [same]
  | act w id =>
    cases found : s.pending[id]? with
    | none => simp [step,found]
    | some d => rw [step_act found]; exact List.suffix_cons _ _

theorem run_past (moves : List Move) (s : Session) : s.past <:+ (run moves s).past := by
  induction moves generalizing s with
  | nil => exact List.suffix_refl _
  | cons m moves ih => exact (s.step_past m).trans (ih (s.step m))

/-- From an empty store on, the log is complete at every point of a run exactly when the run carried
out no two actions on one target in one millisecond, and no values that writing them loses. -/
theorem log_complete_iff (catalog : Catalog) (settings : Settings) (policy : Config.Policy)
    (admission : Admission) (moves : List Move) :
    let origin := start (.new catalog settings policy admission .empty)
    let carriedOut := applied (run moves origin).past
    (∀ n, (run (moves.take n) origin).engine.store.LogComplete
      (applied (run (moves.take n) origin).past)) ↔
      (carriedOut.map fun r => (r.target,r.epoch)).Nodup ∧ ∀ r ∈ carriedOut, r.stored? = some r := by
  intro origin carriedOut
  have exactly : ∀ moves, (run moves origin).engine.store.LogComplete (applied (run moves origin).past) ↔ _ :=
    fun moves => (run_log catalog settings policy admission moves).complete_iff
  constructor
  · intro always
    have whole := always moves.length
    rw [List.take_length] at whole
    exact (exactly moves).mp whole
  · rintro ⟨distinct,lasting⟩ n
    have grown : (run (moves.take n) origin).past <:+ (run moves origin).past := by
      have later := run_past (moves.drop n) (run (moves.take n) origin)
      rwa [← run_append,List.take_append_drop] at later
    have fewer : (applied (run (moves.take n) origin).past).Sublist carriedOut :=
      grown.sublist.filterMap carriedOut?
    apply (exactly (moves.take n)).mpr
    refine ⟨distinct.sublist (fewer.map _),?_⟩
    intro r member
    exact lasting r (fewer.subset member)

/-- A container that is moved twice within a millisecond has one entry in the log. -/
theorem moves_share_entry :
    let s := run [.decide hot "web-1",.act hot "web-1",.decide hot "web-1",.act hot "web-1"] (sample 1)
    s.engine.store.logged "web-1" = 1 ∧ ¬s.engine.store.LogComplete (applied s.past) := by
  intro s
  have counts : s.engine.store.logged "web-1" = 1 ∧
      ((applied s.past).filter (·.target = "web-1")).length = 2 := by decide +kernel
  refine ⟨counts.1,?_⟩
  intro complete
  have same := complete.counted "web-1"
  omega

end Session

end GeoFleet
