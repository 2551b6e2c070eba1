import GeoFleet.Proofs.Engine.Pool

/-! The bounds of the fleet under any interleaving. A host action is checked against the bounds long
before the registry changes, but the lock is held from the check on, and nobody without the lock adds
or removes a host. So what the check found still holds when the action is followed. -/
namespace GeoFleet

namespace Phase

def target? : Phase → Option Target
  | .called _ | .returned _ => none
  | .found t => some t
  | .decided d | .entered d | .cleared d | .placed d _ | .carriedOut d _ | .settled d _
  | .answered d _ => some d.target

def decided? : Phase → Option Decided
  | .called _ | .found _ | .returned _ => none
  | .decided d | .entered d | .cleared d | .placed d _ | .carriedOut d _ | .settled d _
  | .answered d _ => some d

/-- The decision of a call that is past the lock and has not given it back. -/
def inside? : Phase → Option Decided
  | .called _ | .found _ | .decided _ | .returned _ => none
  | .entered d | .cleared d | .placed d _ | .carriedOut d _ | .settled d _ | .answered d _ => some d

def cleared? : Phase → Option Decided
  | .cleared d | .placed d _ | .carriedOut d _ | .settled d _ => some d
  | _ => none

def landing? : Phase → Option Host
  | .placed _ landing | .carriedOut _ landing | .settled _ landing => landing
  | _ => none

theorem inside_of_cleared {phase : Phase} (cleared : phase.cleared? = some d) : phase.inside? = some d := by
  cases phase <;> first | exact cleared | cases cleared

/-- What a call relies on: its target and its landing host are still told apart by the inventory, and
the bounds still allow what was cleared. -/
structure Sound (bounds : Config.Policy) (e : Engine) (phase : Phase) : Prop where
  target : ∀ t, phase.target? = some t → t.kind ≠ .host → e.inventory[t.id]? = none
  decision : ∀ d, phase.decided? = some d → d.target.kind = .host →
    d.decision = .none ∨ d.decision = .start ∨ d.decision = .stop
  landing : ∀ h, phase.landing? = some h → e.inventory[h.publicAddress]? = some h
  margin : ∀ d, phase.cleared? = some d → d.guarded = true →
    bounds.blocks d.target.kind d.decision e.fleetSize = false

theorem Sound.of_eq {phase : Phase} {e next : Engine} (sound : phase.Sound bounds e)
    (inventory : next.inventory = e.inventory) (fleet : next.fleetSize = e.fleetSize) :
    phase.Sound bounds next := by
  constructor
  · rw [inventory]; exact sound.target
  · exact sound.decision
  · rw [inventory]; exact sound.landing
  · rw [fleet]; exact sound.margin

theorem sound_called (bounds : Config.Policy) (e : Engine) (id : String) : (called id).Sound bounds e := by
  constructor <;> intro _ same <;> cases same

theorem sound_returned (bounds : Config.Policy) (e : Engine) (result : Except EngineError Report) :
    (returned result).Sound bounds e := by
  constructor <;> intro _ same <;> cases same

theorem Sound.answered {phase : Phase} {e : Engine} (sound : phase.Sound bounds e)
    (same : phase.decided? = some d) (report : Report) : (answered d report).Sound bounds e := by
  have target : phase.target? = some d.target := by
    cases phase <;> first | (cases same; rfl) | cases same
  constructor
  · intro t equal; cases equal; exact sound.target d.target target
  · intro other equal; cases equal; exact sound.decision d same
  · intro h absent; cases absent
  · intro other absent; cases absent

end Phase

namespace Pool

structure Safe (bounds : Config.Policy) (first : Nat) (p : Pool) : Prop where
  tidy : p.engine.Tidy
  built : Catalog.Built p.engine.catalog
  policy : p.engine.policy = bounds
  sound : ∀ k, (p.phase k).Sound bounds p.engine
  /-- A host action past the lock has the lock. -/
  locked : ∀ k d, (p.phase k).inside? = some d → d.guarded = true → p.holder = some k
  lower : min first bounds.minHosts ≤ p.engine.fleetSize
  upper : 0 < bounds.maxHosts → p.engine.fleetSize ≤ max first bounds.maxHosts

structure Still (e next : Engine) : Prop where
  registry : next.registry = e.registry
  inventory : next.inventory = e.inventory
  catalog : next.catalog = e.catalog
  policy : next.policy = e.policy

theorem Still.refl (e : Engine) : Still e e := ⟨rfl,rfl,rfl,rfl⟩

theorem Still.fleetSize {e next : Engine} (still : Still e next) : next.fleetSize = e.fleetSize := by
  rw [Engine.fleetSize_eq,Engine.fleetSize_eq,Engine.crew,still.registry,← Engine.crew]

/-- A step that leaves the fleet alone is safe if the phase it leads to is, and the lock changes hands
through its owner only. -/
theorem Safe.enter {p : Pool} (valid : Safe bounds first p) {e : Engine} (still : Still p.engine e)
    {holder : Option Nat} {phase : Phase} (sound : phase.Sound bounds p.engine)
    (own : ∀ d, phase.inside? = some d → d.guarded = true → holder = some k)
    (others : ∀ other, other ≠ k → p.holder = some other → holder = some other) :
    Safe bounds first (((p.withEngine e).withHolder holder).enter k phase) := by
  constructor
  · exact valid.tidy.of_eq still.registry still.inventory
  · exact still.catalog ▸ valid.built
  · exact still.policy.trans valid.policy
  · intro other
    by_cases same : other = k
    · subst same
      rw [enter_same]
      exact sound.of_eq still.inventory still.fleetSize
    · rw [enter_other _ _ _ same]
      exact (valid.sound other).of_eq still.inventory still.fleetSize
  · intro other d inside guarded
    by_cases same : other = k
    · subst same
      rw [enter_same] at inside
      exact own d inside guarded
    · rw [enter_other _ _ _ same] at inside
      exact others other same (valid.locked other d inside guarded)
  · change _ ≤ e.fleetSize
    rw [still.fleetSize]; exact valid.lower
  · change _ → e.fleetSize ≤ _
    rw [still.fleetSize]; exact valid.upper

/-- Entering a phase while the lock stays where it is. -/
theorem Safe.enter_within {p : Pool} (valid : Safe bounds first p) {e : Engine} (still : Still p.engine e)
    {phase : Phase} (sound : phase.Sound bounds p.engine)
    (inside : ∀ d, phase.inside? = some d → d.guarded = true → (p.phase k).inside? = some d) :
    Safe bounds first ((p.withEngine e).enter k phase) := by
  have kept := valid.enter (k := k) (e := e) still sound
    (fun d past guarded => valid.locked k d (inside d past guarded) guarded) (fun _ _ same => same)
  simpa using kept

/-- Following an action keeps the number of hosts where the bounds want it. -/
theorem follow_bounds {e : Engine} (tidy : e.Tidy) (followable : e.Followable t d landing)
    (first : Nat) (bounds : Config.Policy)
    (margin : t.kind = .host → d = .start ∨ d = .stop → bounds.blocks t.kind d e.fleetSize = false)
    (lower : min first bounds.minHosts ≤ e.fleetSize)
    (upper : 0 < bounds.maxHosts → e.fleetSize ≤ max first bounds.maxHosts) :
    min first bounds.minHosts ≤ (e.follow t d landing).fleetSize ∧
      (0 < bounds.maxHosts → (e.follow t d landing).fleetSize ≤ max first bounds.maxHosts) := by
  rw [Engine.fleetSize_eq] at margin lower upper ⊢
  rcases Engine.follow_crew tidy followable with
    ⟨host,stop,changed⟩ | ⟨h,host,start,_,changed⟩ | ⟨_,changed⟩
  all_goals rw [changed]
  · have room := margin host (.inr stop)
    rw [host,stop,Config.Policy.blocks_stop] at room
    have few : e.crew.size ≤ (e.crew.erase t.id).size + 1 := Std.ExtTreeMap.size_le_size_erase
    have less : (e.crew.erase t.id).size ≤ e.crew.size := Std.ExtTreeMap.size_erase_le
    exact ⟨by omega,fun bounded => Nat.le_trans less (upper bounded)⟩
  · have room := margin host (.inl start)
    rw [host,start,Config.Policy.blocks_start] at room
    have more : e.crew.size ≤ (e.crew.insert h.publicAddress (.ofHost h)).size :=
      Std.ExtTreeMap.size_le_size_insert
    have one : (e.crew.insert h.publicAddress (.ofHost h)).size ≤ e.crew.size + 1 :=
      Std.ExtTreeMap.size_insert_le
    exact ⟨Nat.le_trans lower more,fun bounded => by omega⟩
  · exact ⟨lower,upper⟩

theorem guarded_iff (d : Decided) :
    d.guarded = true ↔ d.target.kind = .host ∧ (d.decision = .start ∨ d.decision = .stop) := by
  simp [Decided.guarded,Kind.isHost]

/-- The number of hosts stays the same unless the action is guarded. -/
theorem follow_unguarded {e : Engine} {d : Decided} (tidy : e.Tidy)
    (followable : e.Followable d.target d.decision landing) (free : d.guarded = false) :
    (e.follow d.target d.decision landing).fleetSize = e.fleetSize := by
  have never : ¬(d.target.kind = .host ∧ (d.decision = .start ∨ d.decision = .stop)) := by
    rw [← guarded_iff,free]
    simp
  rw [Engine.fleetSize_eq,Engine.fleetSize_eq]
  rcases Engine.follow_crew tidy followable with ⟨host,stop,_⟩ | ⟨h,host,start,_,_⟩ | ⟨_,same⟩
  · exact absurd ⟨host,.inr stop⟩ never
  · exact absurd ⟨host,.inl start⟩ never
  · rw [same]

/-- Following an action: a guarded one is alone past the lock, so no other call relies on the number
of hosts; any other leaves the number alone. -/
theorem Safe.follow {p : Pool} (valid : Safe bounds first p) (w : Surroundings)
    (reached : p.phase k = .settled d landing) : Safe bounds first (advance w k p) := by
  have sound := valid.sound k
  rw [reached] at sound
  have followable : p.engine.Followable d.target d.decision landing :=
    ⟨sound.target d.target rfl,sound.decision d rfl,fun h same => sound.landing h same⟩
  have inventory := p.engine.follow_inventory d.target d.decision followable.landing
  have bounded := follow_bounds valid.tidy followable first bounds
    (fun host action => sound.margin d rfl ((guarded_iff d).mpr ⟨host,action⟩)) valid.lower valid.upper
  obtain ⟨catalog,_,policy,_,_⟩ := p.engine.follow_alike d.target d.decision landing
  simp only [advance,reached]
  constructor
  · exact valid.tidy.follow followable
  · change Catalog.Built (p.engine.follow d.target d.decision landing).catalog
    rw [catalog]; exact valid.built
  · exact policy.trans valid.policy
  · intro other
    by_cases same : other = k
    · subst same
      rw [enter_same]
      have answer := sound.answered rfl
        (d.report (.applied (landing.map fun h => h.publicAddress)) (some (d.action landing)))
      refine ⟨inventory ▸ answer.target,answer.decision,?_,?_⟩
      · intro h absent; cases absent
      · intro made absent; cases absent
    · rw [enter_other _ _ _ same]
      have before := valid.sound other
      refine ⟨inventory ▸ before.target,before.decision,inventory ▸ before.landing,?_⟩
      intro made cleared guarded
      cases free : d.guarded with
      | false =>
        change bounds.blocks _ _ (p.engine.follow d.target d.decision landing).fleetSize = false
        rw [follow_unguarded valid.tidy followable free]
        exact before.margin made cleared guarded
      | true =>
        have mine := valid.locked k d (by rw [reached]; rfl) free
        have theirs := valid.locked other made (Phase.inside_of_cleared cleared) guarded
        rw [mine] at theirs
        exact absurd (Option.some.inj theirs).symm same
  · intro other made inside guarded
    by_cases same : other = k
    · subst same
      rw [enter_same] at inside
      cases inside
      exact valid.locked other d (by rw [reached]; rfl) guarded
    · rw [enter_other _ _ _ same] at inside
      exact valid.locked other made inside guarded
  · exact bounded.1
  · exact bounded.2

theorem Safe.judge {p : Pool} (valid : Safe bounds first p) (w : Surroundings)
    (reached : p.phase k = .found t) : Safe bounds first (advance w k p) := by
  have sound := valid.sound k
  rw [reached] at sound
  rcases p.engine.judge_cases w t with ⟨err,stats,failed⟩ | ⟨d,after,done,judged⟩
  · simp only [advance,reached,failed]
    have still : Still p.engine
        { p.engine with store := { p.engine.store with fieldStats := stats } } := ⟨rfl,rfl,rfl,rfl⟩
    apply valid.enter_within still (Phase.sound_returned _ _ _)
    intro d absent
    cases absent
  · simp only [advance,reached,done]
    obtain ⟨stats,same⟩ := judged.recorded
    have still : Still p.engine after := by rw [same]; exact ⟨rfl,rfl,rfl,rfl⟩
    apply valid.enter_within still
    · constructor
      · intro target equal; cases equal; rw [judged.target]; exact sound.target t rfl
      · intro made equal host
        cases equal
        rw [judged.target] at host
        exact judged.host_decision valid.built host
      · intro h absent; cases absent
      · intro made absent; cases absent
    · intro d absent
      cases absent

theorem Safe.answer {p : Pool} (valid : Safe bounds first p) (decided : (p.phase k).decided? = some d)
    (inside : (p.phase k).inside? = some d) (report : Report) :
    Safe bounds first (p.enter k (.answered d report)) := by
  have kept := valid.enter_within (k := k) (Still.refl p.engine)
    ((valid.sound k).answered decided report) (fun made past _ => inside.trans past)
  simpa using kept

theorem Safe.lookup {p : Pool} (valid : Safe bounds first p) (w : Surroundings) {id : String}
    (reached : p.phase k = .called id) : Safe bounds first (advance w k p) := by
  cases registered : p.engine.registry[id]? with
  | none =>
    simp only [advance,reached,registered]
    apply valid.enter_within (Still.refl _) (Phase.sound_returned _ _ _)
    intro d absent; cases absent
  | some t =>
    simp only [advance,reached,registered]
    apply valid.enter_within (Still.refl _)
    · constructor
      · intro target equal workload
        cases equal
        rw [valid.tidy.keyed id t registered]
        exact valid.tidy.workloads id t registered workload
      all_goals intro _ absent; cases absent
    · intro d absent; cases absent

/-- A host action goes on only while nobody has the lock. -/
theorem Safe.lock {p : Pool} (valid : Safe bounds first p) (w : Surroundings)
    (reached : p.phase k = .decided d) : Safe bounds first (advance w k p) := by
  have sound := valid.sound k
  rw [reached] at sound
  have entered : (Phase.entered d).Sound bounds p.engine :=
    ⟨sound.target,sound.decision,sound.landing,sound.margin⟩
  cases guarded : d.guarded with
  | false =>
    simp only [advance,reached,guarded]
    apply valid.enter_within (Still.refl _) entered
    intro made equal free
    cases equal
    rw [guarded] at free
    cases free
  | true =>
    cases holder : p.holder with
    | some other => simpa [advance,reached,guarded,holder] using valid
    | none =>
      simp only [advance,reached,guarded,holder,if_true]
      apply valid.enter (Still.refl p.engine) entered
      · intro _ _ _; rfl
      · intro other _ taken
        rw [holder] at taken
        cases taken

/-- A decision that the policy clears keeps the fleet in its bounds, as far as the fleet stays as it
is. -/
theorem Safe.check {p : Pool} (valid : Safe bounds first p) (w : Surroundings)
    (reached : p.phase k = .entered d) : Safe bounds first (advance w k p) := by
  by_cases checked : p.engine.policy.check d.target.kind d.decision d.count p.engine.fleetSize = .act
  · have sound := valid.sound k
    rw [reached] at sound
    obtain ⟨_,_,_,free⟩ := (Config.Policy.check_eq_act_iff ..).mp checked
    rw [valid.policy] at free
    simp only [advance,reached,checked]
    apply valid.enter_within (Still.refl _)
    · refine ⟨sound.target,sound.decision,?_,?_⟩
      · intro h absent; cases absent
      · intro made equal _; cases equal; exact free
    · intro made same _
      rw [reached]; exact same
  · rw [advance_refused reached checked w]
    exact valid.answer (by rw [reached]; rfl) (by rw [reached]; rfl) _

theorem Safe.place {p : Pool} (valid : Safe bounds first p) (w : Surroundings)
    (reached : p.phase k = .cleared d) : Safe bounds first (advance w k p) := by
  cases placed : p.engine.place w.source d.target d.decision with
  | error err =>
    simp only [advance,reached,placed]
    exact valid.answer (by rw [reached]; rfl) (by rw [reached]; rfl) _
  | ok landing =>
    have sound := valid.sound k
    rw [reached] at sound
    simp only [advance,reached,placed]
    apply valid.enter_within (Still.refl _)
    · exact ⟨sound.target,sound.decision,Engine.place_known valid.tidy.known placed,sound.margin⟩
    · intro made same _
      rw [reached]; exact same

theorem Safe.carryOut {p : Pool} (valid : Safe bounds first p) (w : Surroundings)
    (reached : p.phase k = .placed d landing) : Safe bounds first (advance w k p) := by
  cases carried : w.carryOut (d.action landing) with
  | error message =>
    simp only [advance,reached,carried]
    exact valid.answer (by rw [reached]; rfl) (by rw [reached]; rfl) _
  | ok done =>
    have sound := valid.sound k
    rw [reached] at sound
    simp only [advance,reached,carried]
    apply valid.enter_within (Still.refl _)
    · exact ⟨sound.target,sound.decision,sound.landing,sound.margin⟩
    · intro made same _
      rw [reached]; exact same

theorem Safe.settle {p : Pool} (valid : Safe bounds first p) (w : Surroundings)
    (reached : p.phase k = .carriedOut d landing) : Safe bounds first (advance w k p) := by
  have sound := valid.sound k
  rw [reached] at sound
  have still : Still p.engine (p.engine.settle (d.action landing) d.now) := ⟨rfl,rfl,rfl,rfl⟩
  simp only [advance,reached]
  apply valid.enter_within still
  · exact ⟨sound.target,sound.decision,sound.landing,sound.margin⟩
  · intro made same _
    rw [reached]; exact same

/-- The lock is given back by the call that has it. -/
theorem Safe.release {p : Pool} (valid : Safe bounds first p) (w : Surroundings)
    (reached : p.phase k = .answered d report) : Safe bounds first (advance w k p) := by
  simp only [advance,reached]
  apply valid.enter (Still.refl p.engine) (Phase.sound_returned _ _ _)
  · intro made absent; cases absent
  · intro other apart taken
    cases guarded : d.guarded with
    | false => simpa using taken
    | true =>
      have mine := valid.locked k d (by rw [reached]; rfl) guarded
      rw [mine] at taken
      exact absurd (Option.some.inj taken).symm apart

theorem advance_safe {p : Pool} (valid : Safe bounds first p) (w : Surroundings) (k : Nat) :
    Safe bounds first (advance w k p) := by
  cases reached : p.phase k with
  | called id => exact valid.lookup w reached
  | found t => exact valid.judge w reached
  | decided d => exact valid.lock w reached
  | entered d => exact valid.check w reached
  | cleared d => exact valid.place w reached
  | placed d landing => exact valid.carryOut w reached
  | carriedOut d landing => exact valid.settle w reached
  | settled d landing => exact valid.follow w reached
  | answered d report => exact valid.release w reached
  | returned result => simpa [advance,reached] using valid

theorem execute_safe {p : Pool} (valid : Safe bounds first p) (steps : List (Surroundings × Nat)) :
    Safe bounds first (execute steps p) := by
  induction steps generalizing p with
  | nil => exact valid
  | cons step steps ih =>
    obtain ⟨w,k⟩ := step
    exact ih (advance_safe valid w k)

theorem start_safe {c : Config} {store : Store} {e : Engine} (built : Engine.ofConfig c store = .ok e)
    (distinct : ∀ entry ∈ c.containers, ∀ h ∈ c.hosts, entry.id ≠ h.publicAddress)
    (calls : Nat → String) : Safe c.policy e.fleetSize (start e calls) := by
  obtain ⟨catalog,settings,admission,moves,_,reached⟩ := Session.ofConfig_reached built
  have engine : (Session.run moves (.start (.new catalog settings c.policy admission store))).engine = e := by
    rw [reached]; rfl
  constructor
  · exact Engine.ofConfig_tidy built distinct
  · exact Session.ofConfig_built built
  · have constant := Session.run_invariant (fun s => s.engine.policy = c.policy) Session.step_policy
      (s := .start (.new catalog settings c.policy admission store)) rfl moves
    rw [engine] at constant
    exact constant
  · intro k; exact Phase.sound_called _ _ _
  · intro k d absent _; cases absent
  · exact Nat.min_le_left _ _
  · intro _; exact Nat.le_max_left _ _

def inTurn (turns : List (Surroundings × String)) (e : Engine) : Engine :=
  turns.foldl (fun e turn => (e.evaluate turn.1 turn.2).2) e

def oneByOne : Nat → List (Surroundings × String) → List (Surroundings × Nat)
  | _, [] => []
  | k, turn :: turns => List.replicate enough (turn.1,k) ++ oneByOne (k + 1) turns

/-- Evaluations one after another are one of the interleavings. -/
theorem execute_oneByOne (turns : List (Surroundings × String)) (k : Nat) {p : Pool}
    (called : ∀ i turn, turns[i]? = some turn → p.phase (k + i) = .called turn.2)
    (free : p.holder = none) : (execute (oneByOne k turns) p).engine = inTurn turns p.engine := by
  induction turns generalizing k p with
  | nil => rfl
  | cons turn turns ih =>
    have next : p.phase k = .called turn.2 := called 0 turn rfl
    rw [oneByOne,execute_append,execute_alone turn.1 next free]
    apply ih (k + 1)
    · intro i later found
      have apart : k + 1 + i ≠ k := by omega
      rw [enter_other _ _ _ apart,withEngine_phase]
      have same : k + 1 + i = k + (i + 1) := by omega
      rw [same]
      exact called (i + 1) later found
    · exact free

/-- Start with an engine built from a configuration in which no container goes by the address of a
host. However the steps of any number of evaluations interleave, the fleet does not shrink below its
lower bound or grow beyond its upper bound, other than where it started outside of them. One after
another, an evaluation that starts a host adds one that was not running, one that stops a host removes
that host, and all others leave the hosts as they are. -/
theorem fleet_bounds {c : Config} {store : Store} {e : Engine} (built : Engine.ofConfig c store = .ok e)
    (distinct : ∀ entry ∈ c.containers, ∀ h ∈ c.hosts, entry.id ≠ h.publicAddress) :
    (∀ (calls : Nat → String) (steps : List (Surroundings × Nat)),
      min e.fleetSize c.policy.minHosts ≤ (execute steps (start e calls)).engine.fleetSize ∧
      (0 < c.policy.maxHosts →
        (execute steps (start e calls)).engine.fleetSize ≤ max e.fleetSize c.policy.maxHosts)) ∧
    (∀ (turns : List (Surroundings × String)) (w : Surroundings) (id : String),
      (inTurn turns e).CrewFollows w id) := by
  constructor
  · intro calls steps
    have safe := execute_safe (start_safe built distinct calls) steps
    exact ⟨safe.lower,safe.upper⟩
  · intro turns w id
    have safe := execute_safe (start_safe built distinct fun k => (turns[k]?.map (·.2)).getD "")
      (oneByOne 0 turns)
    have engine : (execute (oneByOne 0 turns)
        (start e fun k => (turns[k]?.map (·.2)).getD "")).engine = inTurn turns e := by
      apply execute_oneByOne
      · intro i turn found; simp [start,found]
      · rfl
    have tidy := safe.tidy
    have known := safe.built
    rw [engine] at tidy known
    exact Engine.crew_follows tidy known w id

/-- Two hosts run and two stand by, in two regions. A host that is hot has another one started, and an idle
one is stopped. -/
def fourHosts : Config :=
  { Config.empty with
    policy := { Config.Policy.default with startAfter := 1, stopAfter := 1, minHosts := 1, maxHosts := 3 }
    fields := [⟨"cpu-%", none⟩]
    conditions := [⟨"cpu-over-80", "cpu-%", ">", 80.0, none⟩, ⟨"cpu-under-20", "cpu-%", "<", 20.0, none⟩]
    rules := [
      ⟨"start-when-hot", .host, 1, .start, true, ["cpu-over-80"], []⟩,
      ⟨"stop-when-idle", .host, 2, .stop, true, ["cpu-under-20"], []⟩]
    hosts := [
      ⟨none, "10.0.0.1", none, .europe, some 50.1, some 8.7, none, false⟩,
      ⟨none, "10.0.0.2", none, .asia, some 35.7, some 139.7, none, false⟩,
      ⟨none, "10.0.0.3", none, .europe, some 52.5, some 13.4, none, true⟩,
      ⟨none, "10.0.0.4", none, .asia, some 37.6, some 127.0, none, true⟩]
    containers := [⟨"web-1", "web", none, "10.0.0.1"⟩] }

def atLoad (load : Float) : Surroundings where
  source := ⟨fun _ query =>
    if query = "cpu-%" then some load
    else if query = Config.Placement.default.totalMemoryQuery then some 8.0e9 else some 6.0e9,
    fun _ => none⟩
  now := 1000
  carryOut _ := .ok ()

/-- Two calls that take steps by turns: both have decided before one of them takes the lock. -/
def byTurns (w : Surroundings) : List (Surroundings × Nat) := (List.replicate 16 [(w,0),(w,1)]).flatten

def bothHosts (k : Nat) : String := if k = 0 then "10.0.0.1" else "10.0.0.2"

/-- The fleet of two stays within its bounds, whatever happens at once. When both hosts are idle, each of two
calls by turns decides to stop its own, and one host is left; when both are hot, each decides to start another,
and there are three. -/
theorem fleet_stays_bounded : ∃ e, Engine.ofConfig fourHosts .empty = .ok e ∧ e.fleetSize = 2 ∧
    (∀ (calls : Nat → String) (steps : List (Surroundings × Nat)),
      1 ≤ (execute steps (start e calls)).engine.fleetSize ∧
        (execute steps (start e calls)).engine.fleetSize ≤ 3) ∧
    (execute (byTurns (atLoad 5.0)) (start e bothHosts)).engine.fleetSize = 1 ∧
    (execute (byTurns (atLoad 95.0)) (start e bothHosts)).engine.fleetSize = 3 := by
  have answer : (Engine.ofConfig fourHosts .empty).map (fun e => (e.fleetSize,
      (execute (byTurns (atLoad 5.0)) (start e bothHosts)).engine.fleetSize,
      (execute (byTurns (atLoad 95.0)) (start e bothHosts)).engine.fleetSize)) = .ok (2,1,3) := by
    decide +kernel
  cases built : Engine.ofConfig fourHosts .empty with
  | error err => rw [built] at answer; cases answer
  | ok e =>
    rw [built] at answer
    obtain ⟨two,rest⟩ := Prod.mk.inj (Except.ok.inj answer)
    obtain ⟨idle,hot⟩ := Prod.mk.inj rest
    refine ⟨e,rfl,two,?_,idle,hot⟩
    intro calls steps
    obtain ⟨lower,upper⟩ := (fleet_bounds built (by decide)).1 calls steps
    have upper := upper (by decide)
    rw [two] at lower upper
    exact ⟨lower,upper⟩

end Pool

end GeoFleet
