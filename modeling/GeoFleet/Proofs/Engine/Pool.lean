import GeoFleet.Proofs.Engine.Crew

/-! Evaluations that run at once. Every call takes one step at a time, and the steps of all calls
interleave in any order. A call that is about to start or stop a host waits for the lock, and gives it
back once it has an answer; all others go on without it. A call that runs alone is an evaluation. -/
namespace GeoFleet

inductive Phase where
  | called (id : String)
  /-- The target was looked up. -/
  | found (t : Target)
  /-- The decision was recorded; the lock is still to be taken. -/
  | decided (d : Decided)
  | entered (d : Decided)
  /-- The policy cleared the decision. -/
  | cleared (d : Decided)
  | placed (d : Decided) (landing : Option Host)
  | carriedOut (d : Decided) (landing : Option Host)
  /-- The count was restarted and the action logged. -/
  | settled (d : Decided) (landing : Option Host)
  /-- The registry is in line with the action; the lock is still to be given back. -/
  | answered (d : Decided) (report : Report)
  | returned (result : Except EngineError Report)

def Decided.guarded (d : Decided) : Bool :=
  d.target.kind.isHost && (d.decision = .start || d.decision = .stop)

structure Pool where
  engine : Engine
  phase : Nat → Phase
  /-- The call that has the lock. -/
  holder : Option Nat

namespace Pool

def start (e : Engine) (calls : Nat → String) : Pool := ⟨e, fun k => .called (calls k), none⟩

def enter (p : Pool) (k : Nat) (phase : Phase) : Pool :=
  { p with phase := fun other => if other = k then phase else p.phase other }

def withEngine (p : Pool) (e : Engine) : Pool := { p with engine := e }

def withHolder (p : Pool) (holder : Option Nat) : Pool := { p with holder := holder }

/-- One step of one call. A call that waits for the lock, or has returned, stays where it is. -/
def advance (w : Surroundings) (k : Nat) (p : Pool) : Pool :=
  match p.phase k with
  | .called id =>
    match p.engine.registry[id]? with
    | none => p.enter k (.returned (.error (.unknownTarget id)))
    | some t => p.enter k (.found t)
  | .found t =>
    match p.engine.judge w t with
    | (.error err, e) => (p.withEngine e).enter k (.returned (.error err))
    | (.ok d, e) => (p.withEngine e).enter k (.decided d)
  | .decided d =>
    if d.guarded then
      match p.holder with
      | none => (p.withHolder (some k)).enter k (.entered d)
      | some _ => p
    else p.enter k (.entered d)
  | .entered d =>
    match p.engine.policy.check d.target.kind d.decision d.count p.engine.fleetSize with
    | .idle => p.enter k (.answered d (d.report .idle none))
    | .waiting count threshold => p.enter k (.answered d (d.report (.waiting count threshold) none))
    | .fleetBound fleet => p.enter k (.answered d (d.report (.fleetBound fleet) none))
    | .act => p.enter k (.cleared d)
  | .cleared d =>
    match p.engine.place w.source d.target d.decision with
    | .error err => p.enter k (.answered d (d.report (.noPlacement err.region) none))
    | .ok landing => p.enter k (.placed d landing)
  | .placed d landing =>
    match w.carryOut (d.action landing) with
    | .error message =>
      p.enter k (.answered d (d.report (.applyFailed message) (some (d.action landing))))
    | .ok () => p.enter k (.carriedOut d landing)
  | .carriedOut d landing =>
    (p.withEngine (p.engine.settle (d.action landing) d.now)).enter k (.settled d landing)
  | .settled d landing =>
    (p.withEngine (p.engine.follow d.target d.decision landing)).enter k
      (.answered d
        (d.report (.applied (landing.map fun h => h.publicAddress)) (some (d.action landing))))
  | .answered d report =>
    (p.withHolder (if d.guarded then none else p.holder)).enter k (.returned (.ok report))
  | .returned _ => p

def execute : List (Surroundings × Nat) → Pool → Pool
  | [], p => p
  | (w, k) :: steps, p => execute steps (advance w k p)

section Setters

variable (p : Pool) (k : Nat) (phase : Phase) (e : Engine) (holder : Option Nat)

@[simp] theorem enter_same : (p.enter k phase).phase k = phase := by simp [enter]

@[simp] theorem enter_other {other : Nat} (h : other ≠ k) :
    (p.enter k phase).phase other = p.phase other := by
  simp [enter,h]

@[simp] theorem enter_engine : (p.enter k phase).engine = p.engine := rfl
@[simp] theorem enter_holder : (p.enter k phase).holder = p.holder := rfl
@[simp] theorem withEngine_engine : (p.withEngine e).engine = e := rfl
@[simp] theorem withEngine_phase : (p.withEngine e).phase = p.phase := rfl
@[simp] theorem withEngine_holder : (p.withEngine e).holder = p.holder := rfl
@[simp] theorem withHolder_engine : (p.withHolder holder).engine = p.engine := rfl

@[simp] theorem enter_enter (earlier : Phase) : (p.enter k earlier).enter k phase = p.enter k phase := by
  simp only [enter,Pool.mk.injEq,true_and,and_true]
  funext other
  split <;> rfl

@[simp] theorem enter_withEngine : (p.enter k phase).withEngine e = (p.withEngine e).enter k phase := rfl

@[simp] theorem enter_withHolder :
    (p.enter k phase).withHolder holder = (p.withHolder holder).enter k phase := rfl

@[simp] theorem withHolder_withEngine :
    (p.withHolder holder).withEngine e = (p.withEngine e).withHolder holder := rfl

@[simp] theorem withEngine_withEngine (earlier : Engine) :
    (p.withEngine earlier).withEngine e = p.withEngine e := rfl

@[simp] theorem withHolder_withHolder (earlier : Option Nat) :
    (p.withHolder earlier).withHolder holder = p.withHolder holder := rfl

@[simp] theorem withEngine_self : p.withEngine p.engine = p := rfl
@[simp] theorem withEngine_withHolder_self : (p.withEngine e).withHolder p.holder = p.withEngine e := rfl

end Setters

theorem execute_append (before after : List (Surroundings × Nat)) (p : Pool) :
    execute (before ++ after) p = execute after (execute before p) := by
  induction before generalizing p with
  | nil => rfl
  | cons step before ih => exact ih _

theorem execute_returned (w : Surroundings) (n : Nat) {p : Pool} (done : p.phase k = .returned result) :
    execute (List.replicate n (w,k)) p = p := by
  induction n with
  | zero => rfl
  | succ n ih =>
    have stays : advance w k p = p := by simp [advance,done]
    rw [List.replicate_succ,execute,stays,ih]

/-- The lock is given back with the answer, so what follows an answer is the end of the call. -/
theorem execute_answered (w : Surroundings) (n : Nat) {p : Pool} (reached : p.phase k = .answered d report) :
    execute (List.replicate (n + 1) (w,k)) p =
      (p.withHolder (if d.guarded then none else p.holder)).enter k (.returned (.ok report)) := by
  rw [List.replicate_succ,execute]
  have last : advance w k p =
      (p.withHolder (if d.guarded then none else p.holder)).enter k (.returned (.ok report)) := by
    simp [advance,reached]
  rw [last]
  exact execute_returned w n (enter_same _ _ _)

/-- A decision that the policy holds back is answered at once. -/
theorem advance_refused {p : Pool} (reached : p.phase k = .entered d)
    (refused : p.engine.policy.check d.target.kind d.decision d.count p.engine.fleetSize ≠ .act)
    (w : Surroundings) : advance w k p = p.enter k (.answered d (p.engine.act w d).1) := by
  cases checked : p.engine.policy.check d.target.kind d.decision d.count p.engine.fleetSize with
  | act => exact absurd checked refused
  | _ => simp [advance,reached,Engine.act,checked]

/-- The steps of the second half, once the lock is taken where it is needed. -/
theorem execute_entered (w : Surroundings) {p : Pool} (reached : p.phase k = .entered d) :
    execute (List.replicate 6 (w,k)) p =
      ((p.withEngine (p.engine.act w d).2).withHolder (if d.guarded then none else p.holder)).enter k
        (.returned (.ok (p.engine.act w d).1)) := by
  rw [List.replicate_succ,execute]
  by_cases checked :
      p.engine.policy.check d.target.kind d.decision d.count p.engine.fleetSize = .act
  · have step : advance w k p = p.enter k (.cleared d) := by simp [advance,reached,checked]
    rw [step,List.replicate_succ,execute]
    cases placed : p.engine.place w.source d.target d.decision with
    | error err =>
      have step : advance w k (p.enter k (.cleared d)) =
          p.enter k (.answered d (d.report (.noPlacement err.region) none)) := by
        simp [advance,placed]
      rw [step,execute_answered w 3 (enter_same _ _ _)]
      simp [Engine.act,checked,placed]
    | ok landing =>
      have step : advance w k (p.enter k (.cleared d)) = p.enter k (.placed d landing) := by
        simp [advance,placed]
      rw [step,List.replicate_succ,execute]
      cases carried : w.carryOut (d.action landing) with
      | error message =>
        have step : advance w k (p.enter k (.placed d landing)) =
            p.enter k (.answered d (d.report (.applyFailed message) (some (d.action landing)))) := by
          simp [advance,carried]
        rw [step,execute_answered w 2 (enter_same _ _ _)]
        simp [Engine.act,checked,placed,carried]
      | ok done =>
        have step : advance w k (p.enter k (.placed d landing)) = p.enter k (.carriedOut d landing) := by
          simp [advance,carried]
        rw [step,List.replicate_succ,execute]
        have step : advance w k (p.enter k (.carriedOut d landing)) =
            (p.withEngine (p.engine.settle (d.action landing) d.now)).enter k (.settled d landing) := by
          simp [advance]
        rw [step,List.replicate_succ,execute]
        have step : advance w k
            ((p.withEngine (p.engine.settle (d.action landing) d.now)).enter k (.settled d landing)) =
            (p.withEngine (p.engine.complete (d.action landing) d.now)).enter k (.answered d
              (d.report (.applied (landing.map fun h => h.publicAddress)) (some (d.action landing)))) := by
          simp [advance,Engine.complete,Decided.action]
        rw [step,execute_answered w 0 (enter_same _ _ _)]
        simp [Engine.act,checked,placed,carried]
  · obtain ⟨outcome,_,same⟩ := Engine.act_refused checked w
    rw [advance_refused reached checked w,execute_answered w 4 (enter_same _ _ _)]
    simp [same]

def enough : Nat := 9

/-- A call that runs alone is an evaluation. -/
theorem execute_alone (w : Surroundings) {p : Pool} {id : String} (called : p.phase k = .called id)
    (free : p.holder = none) :
    execute (List.replicate enough (w,k)) p =
      (p.withEngine (p.engine.evaluate w id).2).enter k (.returned (p.engine.evaluate w id).1) := by
  rw [enough,List.replicate_succ,execute]
  cases registered : p.engine.registry[id]? with
  | none =>
    have step : advance w k p = p.enter k (.returned (.error (.unknownTarget id))) := by
      simp [advance,called,registered]
    rw [step,execute_returned w 8 (enter_same _ _ _)]
    simp [Engine.evaluate,Engine.decide,registered]
  | some t =>
    have step : advance w k p = p.enter k (.found t) := by simp [advance,called,registered]
    rw [step,List.replicate_succ,execute]
    cases judged : p.engine.judge w t with
    | mk result e =>
      cases result with
      | error err =>
        have step : advance w k (p.enter k (.found t)) =
            (p.withEngine e).enter k (.returned (.error err)) := by
          simp [advance,judged]
        rw [step,execute_returned w 7 (enter_same _ _ _)]
        simp [Engine.evaluate,Engine.decide,registered,judged]
      | ok d =>
        have step : advance w k (p.enter k (.found t)) = (p.withEngine e).enter k (.decided d) := by
          simp [advance,judged]
        rw [step,List.replicate_succ,execute]
        cases guarded : d.guarded with
        | false =>
          have step : advance w k ((p.withEngine e).enter k (.decided d)) =
              (p.withEngine e).enter k (.entered d) := by
            simp [advance,guarded]
          rw [step,execute_entered w (enter_same _ _ _)]
          simp [Engine.evaluate,Engine.decide,registered,judged,guarded]
        | true =>
          have step : advance w k ((p.withEngine e).enter k (.decided d)) =
              ((p.withEngine e).withHolder (some k)).enter k (.entered d) := by
            simp [advance,guarded,free]
          rw [step,execute_entered w (enter_same _ _ _)]
          simp [Engine.evaluate,Engine.decide,registered,judged,guarded,← free]

end Pool

end GeoFleet
