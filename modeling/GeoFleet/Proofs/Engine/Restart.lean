import GeoFleet.Proofs.Engine.Log

/-! Restarts. An engine is built from a configuration without a look into its store, and as long as no
action is carried out, evaluations change nothing but the store. So whoever builds the engine anew over
the store that was left has the engine that was left, with all counts and statistics, and goes on as if
nothing had happened. -/
namespace GeoFleet

namespace Engine

def withStore (e : Engine) (store : Store) : Engine := { e with store }

@[simp] theorem withStore_withStore (e : Engine) (store other : Store) :
    (e.withStore store).withStore other = e.withStore other := rfl

theorem addHosts_withStore (hosts : List Config.HostEntry) (e : Engine) (store : Store) :
    hosts.foldl (fun e h => e.addHost h.host !h.standby) (e.withStore store) =
      (hosts.foldl (fun e h => e.addHost h.host !h.standby) e).withStore store := by
  induction hosts generalizing e with
  | nil => rfl
  | cons h hosts ih =>
    have step : (e.withStore store).addHost h.host (!h.standby) =
        (e.addHost h.host (!h.standby)).withStore store := by
      cases h.standby <;> rfl
    rw [List.foldl_cons,List.foldl_cons,step,ih]

theorem addContainers_withStore {containers : List Config.ContainerEntry} {e final : Engine}
    (done : containers.foldlM addContainer e = .ok final) (store : Store) :
    containers.foldlM addContainer (e.withStore store) = .ok (final.withStore store) := by
  induction containers generalizing e with
  | nil => cases done; rfl
  | cons c containers ih =>
    rw [List.foldlM_cons] at done ⊢
    obtain ⟨next,added,rest⟩ := bind_eq_ok.mp done
    refine bind_eq_ok.mpr ⟨next.withStore store,?_,ih rest⟩
    unfold addContainer at added ⊢
    split at added
    · cases added
    · rename_i h known
      cases added
      have same : (e.withStore store).inventory[c.host]? = some h := known
      rw [same]
      rfl

/-- Over another store a configuration builds the same engine. -/
theorem ofConfig_withStore {c : Config} {store : Store} {e : Engine} (built : ofConfig c store = .ok e)
    (other : Store) : ofConfig c other = .ok (e.withStore other) := by
  obtain ⟨catalog,loaded,rest⟩ := bind_eq_ok.mp built
  obtain ⟨settings,set,rest⟩ := bind_eq_ok.mp rest
  obtain ⟨final,added,same⟩ := bind_eq_ok.mp rest
  cases same
  have moved := addContainers_withStore added other
  rw [← addHosts_withStore] at moved
  exact bind_eq_ok.mpr ⟨catalog,loaded,bind_eq_ok.mpr ⟨settings,set,bind_eq_ok.mpr ⟨_,moved,rfl⟩⟩⟩

/-- Evaluations none of which carries an action out change the store alone. -/
theorem evaluateEach_unapplied {e : Engine} {ids : List String}
    (unapplied : ∀ r ∈ (evaluateEach w ids e).1, r.evaluation.outcome.isApplied = false) :
    ∃ store, (evaluateEach w ids e).2 = e.withStore store := by
  induction ids generalizing e with
  | nil => exact ⟨e.store,rfl⟩
  | cons id ids ih =>
    have rest : ∀ r ∈ (evaluateEach w ids (e.evaluate w id).2).1, r.evaluation.outcome.isApplied = false := by
      intro r member
      apply unapplied r
      cases done : (e.evaluate w id).1 with
      | error err => simpa [evaluateEach,done] using member
      | ok report => simpa [evaluateEach,done] using .inr member
    obtain ⟨store,last⟩ := ih rest
    rcases e.evaluate_cases w id with ⟨_,middle,same⟩ | ⟨t,d,after,landing,_,_,_,result⟩
    · have same : (e.evaluate w id).2 = e.withStore middle := same
      rw [same,withStore_withStore] at last
      exact ⟨store,by simpa [evaluateEach,same] using last⟩
    · have applied := unapplied _ (by simp only [evaluateEach,result]; exact List.mem_cons_self)
      cases applied

theorem evaluateAll_unapplied {e : Engine}
    (unapplied : ∀ r ∈ (e.evaluateAll w).1, r.evaluation.outcome.isApplied = false) :
    ∃ store, (e.evaluateAll w).2 = e.withStore store :=
  evaluateEach_unapplied fun r member => unapplied r (List.mem_mergeSort.mpr member)

def passes : List Surroundings → Engine → List (List Report) × Engine
  | [], e => ([], e)
  | w :: ws, e =>
    let (reports, e) := e.evaluateAll w
    let (later, e) := passes ws e
    (reports :: later, e)

@[simp] theorem passes_cons (w : Surroundings) (ws : List Surroundings) (e : Engine) :
    passes (w :: ws) e = ((e.evaluateAll w).1 :: (passes ws (e.evaluateAll w).2).1,
      (passes ws (e.evaluateAll w).2).2) := rfl

theorem passes_unapplied {e : Engine} {ws : List Surroundings}
    (unapplied : ∀ reports ∈ (passes ws e).1, ∀ r ∈ reports, r.evaluation.outcome.isApplied = false) :
    ∃ store, (passes ws e).2 = e.withStore store := by
  induction ws generalizing e with
  | nil => exact ⟨e.store,rfl⟩
  | cons w ws ih =>
    rw [passes_cons] at unapplied ⊢
    obtain ⟨middle,first⟩ := evaluateAll_unapplied (unapplied _ List.mem_cons_self)
    obtain ⟨store,last⟩ := ih fun reports member => unapplied reports (List.mem_cons_of_mem _ member)
    exact ⟨store,by rw [last,first,withStore_withStore]⟩

/-- An engine that differs in its store alone from one that was built is built again over its store. -/
theorem ofConfig_again {c : Config} {store : Store} {e later : Engine} (built : ofConfig c store = .ok e)
    (changed : ∃ left, later = e.withStore left) : ofConfig c later.store = .ok later := by
  obtain ⟨left,rfl⟩ := changed
  exact ofConfig_withStore built left

end Engine

def Move.Evaluates : Move → Prop
  | .decide _ _ | .act _ _ => True
  | _ => False

namespace Session

/-- A half of an evaluation that carries nothing out changes the store alone. -/
theorem step_unapplied {s : Session} {m : Move} (evaluates : m.Evaluates)
    (unapplied : ∀ report now, .completed report now ∈ (s.step m).past →
      report.evaluation.outcome.isApplied = false) :
    ∃ store, (s.step m).engine = s.engine.withStore store := by
  cases m with
  | decide w id =>
    rcases s.step_decide w id with ⟨stats,same⟩ | ⟨t,d,after,_,_,judged,same⟩
    · exact ⟨_,by rw [same]; rfl⟩
    · obtain ⟨stats,recorded⟩ := judged.recorded
      exact ⟨_,by rw [same,recorded]; rfl⟩
  | act w id =>
    cases found : s.pending[id]? with
    | none => exact ⟨s.engine.store,by simp [step,found,Engine.withStore]⟩
    | some d =>
      rw [step_act found] at unapplied ⊢
      rcases s.engine.act_cases w d with ⟨outcome,_,same,_⟩ | ⟨landing,message,_,same⟩ | ⟨landing,_,_,same⟩
      · exact ⟨s.engine.store,by rw [same]; rfl⟩
      · exact ⟨s.engine.store,by rw [same]; rfl⟩
      · have applied := unapplied _ _ List.mem_cons_self
        rw [same] at applied
        cases applied
  | _ => exact absurd evaluates id

/-- A run of evaluations that carries nothing out, be they one after another or at once, changes the
store alone. -/
theorem run_unapplied {s : Session} {moves : List Move} (evaluations : ∀ m ∈ moves, m.Evaluates)
    (unapplied : ∀ report now, .completed report now ∈ (run moves s).past →
      report.evaluation.outcome.isApplied = false) :
    ∃ store, (run moves s).engine = s.engine.withStore store := by
  induction moves generalizing s with
  | nil => exact ⟨s.engine.store,rfl⟩
  | cons m moves ih =>
    have earlier : ∀ report now, .completed report now ∈ (s.step m).past →
        report.evaluation.outcome.isApplied = false := fun report now member =>
      unapplied report now ((run_past moves (s.step m)).subset member)
    obtain ⟨middle,first⟩ := step_unapplied (evaluations m List.mem_cons_self) earlier
    obtain ⟨store,last⟩ := ih (fun m member => evaluations m (List.mem_cons_of_mem _ member)) unapplied
    exact ⟨store,by rw [run_cons,last,first,Engine.withStore_withStore]⟩

def precededBy (s : Session) (past : List Occurrence) : Session := { s with past := s.past ++ past }

/-- The past is written, never read. -/
theorem step_precededBy (s : Session) (past : List Occurrence) (m : Move) :
    (s.precededBy past).step m = (s.step m).precededBy past := by
  cases m with
  | deregister id =>
    rcases dropped : s.engine.deregister id with ⟨_ | t,e⟩
    all_goals cases busy : s.pending.contains id
    all_goals simp [step,precededBy,-Std.ExtTreeMap.contains_iff_mem,busy,dropped]
  | decide w id =>
    rcases decided : s.engine.decide w id with ⟨_ | d,e⟩
    all_goals cases busy : s.pending.contains id
    all_goals simp [step,precededBy,-Std.ExtTreeMap.contains_iff_mem,busy,decided]
  | act w id => cases found : s.pending[id]? <;> simp [step,precededBy,found]
  | _ => rfl

theorem run_precededBy (moves : List Move) (s : Session) (past : List Occurrence) :
    run moves (s.precededBy past) = (run moves s).precededBy past := by
  induction moves generalizing s with
  | nil => rfl
  | cons m moves ih => rw [run_cons,run_cons,step_precededBy,ih]

/-- An engine that has carried nothing out so far can be dropped and built again from its configuration
over its store, after passes, or between evaluations that went on at once: what follows is evaluated as
if it had been kept. -/
theorem restart_is_invisible {c : Config} {store : Store} {e : Engine}
    (built : Engine.ofConfig c store = .ok e) :
    (∀ before, (∀ reports ∈ (Engine.passes before e).1, ∀ r ∈ reports,
        r.evaluation.outcome.isApplied = false) →
      ∃ rebuilt, Engine.ofConfig c (Engine.passes before e).2.store = .ok rebuilt ∧
        ∀ later, Engine.passes later rebuilt = Engine.passes later (Engine.passes before e).2) ∧
    ∀ before, (∀ m ∈ before, m.Evaluates) →
      let s := run before (start e)
      (∀ report now, .completed report now ∈ s.past → report.evaluation.outcome.isApplied = false) →
      (∀ id : String, s.pending[id]? = none) →
      ∃ rebuilt, Engine.ofConfig c s.engine.store = .ok rebuilt ∧ ∀ later,
        (run later s).engine = (run later (start rebuilt)).engine ∧
        (run later s).past = (run later (start rebuilt)).past ++ s.past := by
  constructor
  · intro before unapplied
    exact ⟨_,Engine.ofConfig_again built (Engine.passes_unapplied unapplied),fun _ => rfl⟩
  · intro before evaluations s unapplied idle
    refine ⟨s.engine,Engine.ofConfig_again built (run_unapplied evaluations unapplied),?_⟩
    -- Nothing is on its way, so the past is all that tells the session from a new one.
    have nothing : s.pending = ∅ := Std.ExtTreeMap.ext_getElem? fun id => by simp [idle id]
    have kept : s = (start s.engine).precededBy s.past := by
      rw [precededBy,start,← nothing]
      rfl
    intro later
    have same := run_precededBy later (start s.engine) s.past
    rw [← kept] at same
    rw [same]
    exact ⟨rfl,rfl⟩

/-- A host that starts another one once it was too busy in three passes. -/
def patient : Config :=
  { Config.empty with
    fields := [⟨"cpu-%", none⟩]
    conditions := [⟨"hot", "cpu-%", ">", 80.0, none⟩]
    rules := [⟨"grow", .host, 1, .start, true, ["hot"], []⟩]
    hosts := [
      ⟨none, "10.0.0.1", none, .europe, some 50.1, some 8.7, none, false⟩,
      ⟨none, "10.0.0.2", none, .europe, some 52.5, some 13.4, none, true⟩] }

/-- After two passes that wait and a restart, the third pass starts the other host. -/
theorem third_pass_starts_a_host : ∃ e rebuilt, Engine.ofConfig patient .empty = .ok e ∧
    Engine.ofConfig patient (Engine.passes [hot,hot] e).2.store = .ok rebuilt ∧
    (Engine.passes [hot] rebuilt).1.map (·.map fun r => (r.evaluation.count,r.evaluation.outcome)) =
      [[(3,.applied (some "10.0.0.2"))]] := by
  have waits : (Engine.ofConfig patient .empty).toOption.map (fun e =>
      (Engine.passes [hot,hot] e).1.flatten.any (·.evaluation.outcome.isApplied)) = some false := by
    decide +kernel
  have starts : (Engine.ofConfig patient .empty).toOption.map (fun e =>
      (Engine.passes [hot] (Engine.passes [hot,hot] e).2).1.map
        (·.map fun r => (r.evaluation.count,r.evaluation.outcome))) =
      some [[(3,.applied (some "10.0.0.2"))]] := by
    decide +kernel
  cases built : Engine.ofConfig patient .empty with
  | error err => rw [built] at waits; cases waits
  | ok e =>
    rw [built] at waits starts
    have unapplied : ∀ reports ∈ (Engine.passes [hot,hot] e).1, ∀ r ∈ reports,
        r.evaluation.outcome.isApplied = false := by
      intro reports listed r member
      have none_applied := List.any_eq_false.mp (Option.some.inj waits)
      simpa using none_applied r (List.mem_flatten.mpr ⟨reports,listed,member⟩)
    obtain ⟨rebuilt,again,same⟩ := (restart_is_invisible built).1 [hot,hot] unapplied
    refine ⟨e,rebuilt,rfl,again,?_⟩
    rw [same]
    exact Option.some.inj starts

end Session

end GeoFleet
