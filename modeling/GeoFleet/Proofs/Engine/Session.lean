import Mathlib.Data.List.Induction
import GeoFleet.Proofs.Catalog.Edits
import GeoFleet.Proofs.Engine.Halves

/-! Everything that can happen to an engine, step by step. Evaluations of different targets may
overlap: between the two halves of one, the others go on, and so do all other operations. A target
is neither decided for again nor dropped from outside while its decision is pending; such a move does
nothing. What was completed and dropped is kept as the past, the latest first. -/
namespace GeoFleet

inductive Move where
  | register (t : Target)
  | addHost (h : Host) (active : Bool)
  | deregister (id : String)
  | edit (o : Catalog.Edit)
  | traffic (t : Traffic)
  | decide (w : Surroundings) (id : String)
  | act (w : Surroundings) (id : String)

inductive Occurrence where
  /-- An evaluation that came to its end, with the time of its decision. -/
  | completed (report : Report) (now : Nat)
  | dropped (id : String)

structure Session where
  engine : Engine
  /-- The decisions that were not acted on yet, by target. -/
  pending : Std.ExtTreeMap String Decided
  past : List Occurrence

namespace Session

def start (e : Engine) : Session := ⟨e, ∅, []⟩

def step (s : Session) : Move → Session
  | .register t => { s with engine := s.engine.register t }
  | .addHost h active => { s with engine := s.engine.addHost h active }
  | .deregister id =>
    if s.pending.contains id then s
    else match s.engine.deregister id with
      | (none, _) => s
      | (some _, e) => { s with engine := e, past := .dropped id :: s.past }
  | .edit o => { s with engine := { s.engine with catalog := s.engine.catalog.edit o } }
  | .traffic t => { s with engine := { s.engine with traffic := t } }
  | .decide w id =>
    if s.pending.contains id then s
    else match s.engine.decide w id with
      | (.error _, e) => { s with engine := e }
      | (.ok d, e) => { s with engine := e, pending := s.pending.insert id d }
  | .act w id =>
    match s.pending[id]? with
    | none => s
    | some d =>
      { engine := (s.engine.act w d).2
        pending := s.pending.erase id
        past := .completed (s.engine.act w d).1 d.now :: s.past }

def run (moves : List Move) (s : Session) : Session := moves.foldl step s

@[simp] theorem run_nil (s : Session) : run [] s = s := rfl

@[simp] theorem run_cons (m : Move) (moves : List Move) (s : Session) :
    run (m :: moves) s = run moves (s.step m) := rfl

@[simp] theorem run_append (before after : List Move) (s : Session) :
    run (before ++ after) s = run after (run before s) := List.foldl_append

/-- What every step keeps holds after every run. -/
theorem run_invariant (property : Session → Prop)
    (kept : ∀ s m, property s → property (s.step m)) (initial : property s) (moves : List Move) :
    property (run moves s) := by
  induction moves generalizing s with
  | nil => exact initial
  | cons m moves ih => exact ih (kept s m initial)

theorem step_act {s : Session} {id : String} (found : s.pending[id]? = some d) (w : Surroundings) :
    s.step (.act w id) =
      { engine := (s.engine.act w d).2
        pending := s.pending.erase id
        past := .completed (s.engine.act w d).1 d.now :: s.past } := by
  simp [step,found]

/-- Deciding leaves statistics behind, or a recorded decision that is pending from then on. -/
theorem step_decide (s : Session) (w : Surroundings) (id : String) :
    (∃ stats, s.step (.decide w id) =
      { s with engine := { s.engine with store := { s.engine.store with fieldStats := stats } } }) ∨
    ∃ t d after, s.pending[id]? = none ∧ s.engine.registry[id]? = some t ∧
      s.engine.Judged w t d after ∧
      s.step (.decide w id) = { s with engine := after, pending := s.pending.insert id d } := by
  cases idle : s.pending[id]? with
  | some d =>
    refine .inl ⟨s.engine.store.fieldStats,?_⟩
    simp [step,Std.ExtTreeMap.contains_eq_isSome_getElem?,idle]
  | none =>
    rcases s.engine.decide_cases w id with ⟨err,stats,done⟩ | ⟨t,d,after,found,done,judged⟩
    · refine .inl ⟨stats,?_⟩
      simp [step,Std.ExtTreeMap.contains_eq_isSome_getElem?,idle,done]
    · refine .inr ⟨t,d,after,rfl,found,judged,?_⟩
      simp [step,Std.ExtTreeMap.contains_eq_isSome_getElem?,idle,done]

/-- Only a registered target without a pending decision can be dropped. -/
theorem step_deregister (s : Session) (id : String) :
    s.step (.deregister id) = s ∨
    ∃ t, s.pending[id]? = none ∧ s.engine.registry[id]? = some t ∧
      s.step (.deregister id) = { s with engine := (s.engine.deregister id).2, past := .dropped id :: s.past } := by
  cases idle : s.pending[id]? with
  | some d =>
    refine .inl ?_
    simp [step,Std.ExtTreeMap.contains_eq_isSome_getElem?,idle]
  | none =>
    cases found : s.engine.registry[id]? with
    | none =>
      refine .inl ?_
      simp [step,Std.ExtTreeMap.contains_eq_isSome_getElem?,idle,Engine.deregister_eq,found]
    | some t =>
      refine .inr ⟨t,rfl,rfl,?_⟩
      simp [step,Std.ExtTreeMap.contains_eq_isSome_getElem?,idle,Engine.deregister_eq,found]

/-- Only editing the catalog and replacing the traffic change what an engine decides by. -/
theorem step_alike (s : Session) (m : Move) :
    (∃ o, m = .edit o) ∨ (∃ t, m = .traffic t) ∨ s.engine.Alike (s.step m).engine := by
  have same : s.engine.Alike s.engine := ⟨rfl,rfl,rfl,rfl,rfl⟩
  cases m with
  | edit o => exact .inl ⟨o,rfl⟩
  | traffic t => exact .inr (.inl ⟨t,rfl⟩)
  | register t => exact .inr (.inr ⟨rfl,rfl,rfl,rfl,rfl⟩)
  | addHost h active => cases active <;> exact .inr (.inr ⟨rfl,rfl,rfl,rfl,rfl⟩)
  | deregister id =>
    rcases s.step_deregister id with equal | ⟨t,_,_,equal⟩
    · rw [equal]; exact .inr (.inr same)
    · rw [equal]; exact .inr (.inr (s.engine.deregister_alike id))
  | decide w id =>
    rcases s.step_decide w id with ⟨stats,equal⟩ | ⟨t,d,after,_,_,judged,equal⟩
    · rw [equal]; exact .inr (.inr ⟨rfl,rfl,rfl,rfl,rfl⟩)
    · rw [equal]; exact .inr (.inr judged.alike)
  | act w id =>
    cases found : s.pending[id]? with
    | none => exact .inr (.inr (by simpa [step,found] using same))
    | some d => rw [step_act found]; exact .inr (.inr (s.engine.act_alike w d))

theorem step_policy (s : Session) (m : Move) (same : s.engine.policy = policy) :
    (s.step m).engine.policy = policy := by
  rcases s.step_alike m with ⟨o,rfl⟩ | ⟨t,rfl⟩ | alike
  · exact same
  · exact same
  · exact alike.policy.trans same

theorem step_built (s : Session) (m : Move) (built : Catalog.Built s.engine.catalog) :
    Catalog.Built (s.step m).engine.catalog := by
  rcases s.step_alike m with ⟨o,rfl⟩ | ⟨t,rfl⟩ | alike
  · exact built.edit o
  · exact built
  · exact alike.catalog ▸ built

theorem run_built {s : Session} (built : Catalog.Built s.engine.catalog) (moves : List Move) :
    Catalog.Built (run moves s).engine.catalog :=
  run_invariant (fun s => Catalog.Built s.engine.catalog) step_built built moves

/-- A pending decision was made at an earlier point of the run for the target that stood under its
id at that point. -/
theorem pending_origin (moves : List Move) {e : Engine} {id : String} {d : Decided}
    (found : (run moves (start e)).pending[id]? = some d) :
    ∃ before w after t next, moves = before ++ .decide w id :: after ∧
      (run before (start e)).engine.registry[id]? = some t ∧
      (run before (start e)).engine.Judged w t d next := by
  induction moves using List.reverseRecOn with
  | nil => simp [start] at found
  | append_singleton moves m ih =>
    have earlier : (run moves (start e)).pending[id]? = some d →
        ∃ before w after t next, moves ++ [m] = before ++ .decide w id :: after ∧
          (run before (start e)).engine.registry[id]? = some t ∧
          (run before (start e)).engine.Judged w t d next := by
      intro found
      obtain ⟨before,w,after,t,next,same,known,judged⟩ := ih found
      exact ⟨before,w,after ++ [m],t,next,by simp [same],known,judged⟩
    simp only [run_append,run_cons,run_nil] at found
    cases m with
    | register t => exact earlier found
    | addHost h active => exact earlier found
    | edit o => exact earlier found
    | traffic t => exact earlier found
    | deregister other =>
      rcases step_deregister (run moves (start e)) other with same | ⟨t,_,_,same⟩
      · rw [same] at found; exact earlier found
      · rw [same] at found; exact earlier found
    | decide w other =>
      rcases step_decide (run moves (start e)) w other with ⟨stats,same⟩ | ⟨t,made,next,_,known,judged,same⟩
      · rw [same] at found; exact earlier found
      · rw [same] at found
        rcases getElem?_insert_eq_some found with ⟨rfl,rfl⟩ | ⟨_,present⟩
        · exact ⟨moves,w,[],t,next,rfl,known,judged⟩
        · exact earlier present
    | act w other =>
      cases known : (run moves (start e)).pending[other]? with
      | none => simp only [step,known] at found; exact earlier found
      | some made =>
        rw [step_act known] at found
        exact earlier (getElem?_erase_eq_some found).2

def completion (now : Nat) : Except EngineError Report → List Occurrence
  | .ok report => [.completed report now]
  | .error _ => []

/-- An evaluation without interruption is its two halves, one right after the other. -/
theorem run_evaluate (s : Session) (w : Surroundings) (id : String) (idle : s.pending[id]? = none) :
    run [.decide w id,.act w id] s =
      { s with
        engine := (s.engine.evaluate w id).2
        past := completion w.now (s.engine.evaluate w id).1 ++ s.past } := by
  rcases s.engine.decide_cases w id with ⟨err,stats,done⟩ | ⟨t,d,after,found,done,judged⟩
  · simp [run,step,Std.ExtTreeMap.contains_eq_isSome_getElem?,idle,done,Engine.evaluate,completion]
  · have restored : (s.pending.insert id d).erase id = s.pending := by
      apply Std.ExtTreeMap.ext_getElem?
      intro other
      by_cases same : other = id
      · subst same; simp [idle]
      · rw [getElem?_erase_ne (Ne.symm same),getElem?_insert_ne (Ne.symm same)]
    simp [run,step,Std.ExtTreeMap.contains_eq_isSome_getElem?,idle,done,Engine.evaluate,completion,
      restored,judged.now]

theorem run_addHosts (hosts : List Config.HostEntry) (s : Session) :
    run (hosts.map fun h => .addHost h.host !h.standby) s =
      { s with engine := hosts.foldl (fun e h => e.addHost h.host !h.standby) s.engine } := by
  induction hosts generalizing s with
  | nil => rfl
  | cons h hosts ih => rw [List.map_cons,run_cons,ih]; rfl

theorem addContainers_reached {containers : List Config.ContainerEntry} {e final : Engine}
    (done : containers.foldlM Engine.addContainer e = .ok final) (s : Session) (current : s.engine = e) :
    ∃ moves, run moves s = { s with engine := final } := by
  induction containers generalizing e s with
  | nil => cases done; exact ⟨[],by rw [← current]; rfl⟩
  | cons c containers ih =>
    rw [List.foldlM_cons] at done
    obtain ⟨next,added,rest⟩ := bind_eq_ok.mp done
    unfold Engine.addContainer at added
    split at added
    · cases added
    · rename_i h known
      cases added
      obtain ⟨moves,same⟩ := ih rest { s with engine := e.register (.ofContainer c.id c.service c.app h) } rfl
      refine ⟨.register (.ofContainer c.id c.service c.app h) :: moves,?_⟩
      rw [run_cons]
      simpa [step,current] using same

/-- An engine built from a configuration is reached from an engine without targets and hosts. -/
theorem ofConfig_reached {c : Config} (built : Engine.ofConfig c store = .ok e) :
    ∃ catalog settings admission moves, Catalog.load c = .ok catalog ∧
      run moves (start (.new catalog settings c.policy admission store)) = start e := by
  obtain ⟨catalog,loaded,rest⟩ := bind_eq_ok.mp built
  obtain ⟨settings,_,rest⟩ := bind_eq_ok.mp rest
  obtain ⟨withTargets,added,same⟩ := bind_eq_ok.mp rest
  cases same
  have loaded : Catalog.load c = .ok catalog := mapError_eq_ok.mp loaded
  refine ⟨catalog,settings,.ofConfig c.placement settings.fetchTimeout,?_⟩
  obtain ⟨moves,same⟩ := addContainers_reached added
    { start (.new catalog settings c.policy (.ofConfig c.placement settings.fetchTimeout) store) with
      engine := c.hosts.foldl (fun e h => e.addHost h.host !h.standby)
        (.new catalog settings c.policy (.ofConfig c.placement settings.fetchTimeout) store) } rfl
  refine ⟨(c.hosts.map fun h => .addHost h.host !h.standby) ++ moves ++ [.traffic
    (c.locations.foldl (fun t l => t.registerLocation l.key l.coordinate) withTargets.traffic)],loaded,?_⟩
  rw [run_append,run_append,run_addHosts]
  simp only [start] at same ⊢
  rw [same]
  rfl

theorem ofConfig_built {c : Config} (built : Engine.ofConfig c store = .ok e) : Catalog.Built e.catalog := by
  obtain ⟨catalog,settings,admission,moves,loaded,reached⟩ := ofConfig_reached built
  have known := run_built (s := start (.new catalog settings c.policy admission store))
    (Catalog.load_built loaded) moves
  rw [reached] at known
  exact known

section Sample

/-! A small fleet to try things on: a host that runs, a host that stands by, and a container that a
rule moves to another host while it is hot. -/

def runningHost : Host := ⟨none, "10.0.0.1", none, some ⟨"frankfurt", 50.1, 8.7⟩, .europe⟩

def standbyHost : Host := ⟨none, "10.0.0.2", none, some ⟨"berlin", 52.5, 13.4⟩, .europe⟩

def sampleMoves : List Move := [
  .edit (.addField ⟨"cpu-%", none⟩),
  .edit (.addCondition ⟨"cpu-over-80", "cpu-%", .greater, 80.0, .effective⟩),
  .edit (.addRule ⟨"move-when-hot", .container, 1, .migrate, true, ["cpu-over-80"]⟩),
  .addHost runningHost true,
  .addHost standbyHost false,
  .register (.ofContainer "web-1" "web" none runningHost)]

/-- The sample fleet, with the number of passes in a row that it takes to move a container. -/
def sample (migrateAfter : Nat) : Session :=
  run sampleMoves (start (.new .empty .default { Config.Policy.default with migrateAfter }
    ⟨"total", "available", 90.0, ⟨5000⟩⟩ .empty))

def hot : Surroundings where
  source := ⟨fun _ query =>
    if query = "cpu-%" then some 95.0 else if query = "total" then some 8.0e9 else some 6.0e9,
    fun _ => none⟩
  now := 1000
  carryOut _ := .ok ()

end Sample

end Session

end GeoFleet
