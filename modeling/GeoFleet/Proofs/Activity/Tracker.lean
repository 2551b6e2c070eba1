import GeoFleet.Proofs.Activity.Calls

/-! Calls on activities that run at once. Every call takes one step at a time, and the steps of all
calls interleave in any order. A call first takes a handle of the lock of its target, then waits for
that lock; a forget throws the lock out of the map once it has given it back, but whoever waits goes
on with the handle that it has. A call that runs alone is a call as the store performs it. -/
namespace GeoFleet

namespace Activity.Call

/-- The write of a call, given what it loaded. Forgetting writes whatever was there. -/
def conclude (c : Call) (loaded : Option Activity) (s : Store) : Answer × Store :=
  match c with
  | .record target kind d now =>
    let current : Activity := ⟨target, kind, d, nextCount loaded d, now⟩
    (.recorded ⟨loaded, current⟩, s.putActivity current)
  | .restart _ now =>
    match loaded with
    | none => (.restarted none, s)
    | some a => (.restarted (some (a.restarted now)), s.putActivity (a.restarted now))
  | .forget target =>
    let (existed, after) := s.deleteActivity target
    (.forgotten existed, after)

/-- A call that writes what it just loaded is performed. -/
theorem conclude_current (c : Call) (s : Store) :
    c.conclude s.activities[c.target]? s = c.perform s := by
  cases c with
  | record target kind d now => rfl
  | restart t now =>
    cases found : s.activities[t]? <;> simp [conclude,target,perform,Store.restartCount,found]
  | forget target => rfl

end Activity.Call

/-- Where a call stands; a handle is the number of a lock. -/
inductive Stage where
  | called
  /-- The call has a handle; the lock is still to be taken. -/
  | waiting (handle : Nat)
  | entered (handle : Nat)
  | loaded (handle : Nat) (record : Option Activity)
  | written (handle : Nat) (answer : Activity.Answer)
  /-- The lock was given back; a forget has its entry in the map still to throw out. -/
  | released (answer : Activity.Answer)
  | returned (answer : Activity.Answer)

namespace Stage

def handle? : Stage → Option Nat
  | .waiting h | .entered h | .loaded h _ | .written h _ => some h
  | .called | .released _ | .returned _ => none

def held? : Stage → Option Nat
  | .entered h | .loaded h _ | .written h _ => some h
  | .called | .waiting _ | .released _ | .returned _ => none

def answer? : Stage → Option Activity.Answer
  | .written _ answer | .released answer | .returned answer => some answer
  | .called | .waiting _ | .entered _ | .loaded _ _ => none

def isInside : Stage → Bool
  | .loaded _ _ => true
  | .called | .waiting _ | .entered _ | .written _ _ | .released _ | .returned _ => false

def isReturned : Stage → Bool
  | .returned _ => true
  | .called | .waiting _ | .entered _ | .loaded _ _ | .written _ _ | .released _ => false

end Stage

structure Tracker where
  store : Store
  /-- The lock of each target that has one, by its handle. -/
  locks : Std.ExtTreeMap String Nat
  /-- How many handles were given out. -/
  handles : Nat
  /-- The call that has a lock. -/
  holder : Nat → Option Nat
  stage : Nat → Stage

namespace Tracker

open Activity (Call Answer)

def start (s : Store) : Tracker := ⟨s, ∅, 0, fun _ => none, fun _ => .called⟩

def enter (p : Tracker) (k : Nat) (stage : Stage) : Tracker :=
  { p with stage := fun other => if other = k then stage else p.stage other }

def withStore (p : Tracker) (s : Store) : Tracker := { p with store := s }

def withHolder (p : Tracker) (h : Nat) (holder : Option Nat) : Tracker :=
  { p with holder := fun other => if other = h then holder else p.holder other }

def handleOf (p : Tracker) (target : String) : Nat := p.locks[target]?.getD p.handles

def reserve (p : Tracker) (target : String) : Tracker :=
  match p.locks[target]? with
  | some _ => p
  | none => { p with locks := p.locks.insert target p.handles, handles := p.handles + 1 }

def dismiss (p : Tracker) (c : Call) : Tracker :=
  if c.isForget then { p with locks := p.locks.erase c.target } else p

/-- One step of one call. A call that waits for a lock that is taken, or has returned, stays where it
is. -/
def advance (calls : Nat → Call) (k : Nat) (p : Tracker) : Tracker :=
  match p.stage k with
  | .called => (p.reserve (calls k).target).enter k (.waiting (p.handleOf (calls k).target))
  | .waiting h =>
    match p.holder h with
    | none => (p.withHolder h (some k)).enter k (.entered h)
    | some _ => p
  | .entered h => p.enter k (.loaded h p.store.activities[(calls k).target]?)
  | .loaded h record =>
    let (answer, after) := (calls k).conclude record p.store
    (p.withStore after).enter k (.written h answer)
  | .written h answer => (p.withHolder h none).enter k (.released answer)
  | .released answer => (p.dismiss (calls k)).enter k (.returned answer)
  | .returned _ => p

def execute (calls : Nat → Call) (steps : List Nat) (p : Tracker) : Tracker :=
  steps.foldl (fun p k => advance calls k p) p

section Setters

variable (p : Tracker) (k h : Nat) (stage : Stage) (s : Store) (holder : Option Nat) (target : String)
  (c : Call)

@[simp] theorem enter_same : (p.enter k stage).stage k = stage := by simp [enter]

@[simp] theorem enter_other {other : Nat} (apart : other ≠ k) :
    (p.enter k stage).stage other = p.stage other := by
  simp [enter,apart]

@[simp] theorem enter_store : (p.enter k stage).store = p.store := rfl
@[simp] theorem enter_locks : (p.enter k stage).locks = p.locks := rfl
@[simp] theorem enter_handles : (p.enter k stage).handles = p.handles := rfl
@[simp] theorem enter_holder : (p.enter k stage).holder = p.holder := rfl
@[simp] theorem withStore_store : (p.withStore s).store = s := rfl
@[simp] theorem withStore_handles : (p.withStore s).handles = p.handles := rfl
@[simp] theorem withStore_holder : (p.withStore s).holder = p.holder := rfl
@[simp] theorem withStore_stage : (p.withStore s).stage = p.stage := rfl
@[simp] theorem withHolder_store : (p.withHolder h holder).store = p.store := rfl
@[simp] theorem withHolder_stage : (p.withHolder h holder).stage = p.stage := rfl
@[simp] theorem withHolder_same : (p.withHolder h holder).holder h = holder := by simp [withHolder]

@[simp] theorem withHolder_other {other : Nat} (apart : other ≠ h) :
    (p.withHolder h holder).holder other = p.holder other := by
  simp [withHolder,apart]

@[simp] theorem reserve_store : (p.reserve target).store = p.store := by unfold reserve; split <;> rfl
@[simp] theorem reserve_holder : (p.reserve target).holder = p.holder := by unfold reserve; split <;> rfl
@[simp] theorem reserve_stage : (p.reserve target).stage = p.stage := by unfold reserve; split <;> rfl

/-- From then on the target has the handle; all others keep what they had. -/
theorem reserve_locks (other : String) :
    (p.reserve target).locks[other]? =
      if other = target then some (p.handleOf target) else p.locks[other]? := by
  unfold reserve handleOf
  cases found : p.locks[target]? with
  | some h => split <;> simp_all
  | none =>
    by_cases same : other = target
    · subst same; simp
    · rw [if_neg same]
      exact getElem?_insert_ne (Ne.symm same)

@[simp] theorem dismiss_store : (p.dismiss c).store = p.store := by unfold dismiss; split <;> rfl
@[simp] theorem dismiss_handles : (p.dismiss c).handles = p.handles := by unfold dismiss; split <;> rfl
@[simp] theorem dismiss_holder : (p.dismiss c).holder = p.holder := by unfold dismiss; split <;> rfl
@[simp] theorem dismiss_stage : (p.dismiss c).stage = p.stage := by unfold dismiss; split <;> rfl

theorem dismiss_locks (other : String) :
    (p.dismiss c).locks[other]? =
      if c.isForget = true ∧ other = c.target then none else p.locks[other]? := by
  unfold dismiss
  by_cases throws : c.isForget = true
  · rw [if_pos throws]
    by_cases same : other = c.target
    · simp [throws,same]
    · simp only [same,and_false,if_false]
      exact getElem?_erase_ne (Ne.symm same)
  · simp [throws]

@[simp] theorem enter_enter (earlier : Stage) : (p.enter k earlier).enter k stage = p.enter k stage := by
  simp only [enter,Tracker.mk.injEq,true_and]
  funext other
  split <;> rfl

@[simp] theorem enter_withHolder :
    (p.enter k stage).withHolder h holder = (p.withHolder h holder).enter k stage := rfl

@[simp] theorem enter_withStore : (p.enter k stage).withStore s = (p.withStore s).enter k stage := rfl

@[simp] theorem withHolder_withStore :
    (p.withHolder h holder).withStore s = (p.withStore s).withHolder h holder := rfl

@[simp] theorem enter_dismiss : (p.enter k stage).dismiss c = (p.dismiss c).enter k stage := by
  unfold dismiss; split <;> rfl

/-- A lock that is taken and given back is free as before. -/
theorem withHolder_restored (free : p.holder h = none) :
    (p.withHolder h holder).withHolder h none = p := by
  obtain ⟨store,locks,handles,holders,stages⟩ := p
  simp only [withHolder,Tracker.mk.injEq,true_and,and_true]
  funext other
  by_cases same : other = h
  · subst same; simpa using free.symm
  · simp [same]

end Setters

theorem reserve_known {p : Tracker} {target : String} (known : p.locks[target]? = some h) :
    p.reserve target = p := by
  simp [reserve,known]

theorem execute_append (calls : Nat → Call) (before after : List Nat) (p : Tracker) :
    execute calls (before ++ after) p = execute calls after (execute calls before p) :=
  List.foldl_append

@[simp] theorem execute_cons (calls : Nat → Call) (k : Nat) (steps : List Nat) (p : Tracker) :
    execute calls (k :: steps) p = execute calls steps (advance calls k p) := rfl

@[simp] theorem execute_nil (calls : Nat → Call) (p : Tracker) : execute calls [] p = p := rfl

/-- A call takes steps of its own only. -/
theorem advance_other (calls : Nat → Call) {k other : Nat} (apart : other ≠ k) (p : Tracker) :
    (advance calls k p).stage other = p.stage other := by
  unfold advance
  split <;> try split
  all_goals simp [apart]

theorem execute_other (calls : Nat → Call) {steps : List Nat} (absent : k ∉ steps) (p : Tracker) :
    (execute calls steps p).stage k = p.stage k := by
  induction steps generalizing p with
  | nil => rfl
  | cons first steps ih =>
    obtain ⟨apart,later⟩ := not_or.mp (mt List.mem_cons.mpr absent)
    rw [execute_cons,ih later,advance_other calls apart]

theorem advance_called (calls : Nat → Call) {p : Tracker} (called : p.stage k = .called) :
    advance calls k p =
      (p.reserve (calls k).target).enter k (.waiting (p.handleOf (calls k).target)) := by
  simp [advance,called]

/-- A call that nobody keeps from its lock loads what is there. -/
theorem execute_inside (calls : Nat → Call) {p : Tracker} (waits : p.stage k = .waiting h)
    (free : p.holder h = none) :
    execute calls [k,k] p =
      (p.withHolder h (some k)).enter k (.loaded h p.store.activities[(calls k).target]?) := by
  have lock : advance calls k p = (p.withHolder h (some k)).enter k (.entered h) := by
    simp [advance,waits,free]
  rw [execute_cons,lock]
  simp [advance]

/-- A call that runs alone is performed, and a forget throws the lock out of the map. -/
theorem execute_alone (calls : Nat → Call) {p : Tracker} (called : p.stage k = .called)
    (free : p.holder (p.handleOf (calls k).target) = none) :
    execute calls (List.replicate 6 k) p =
      (((p.reserve (calls k).target).withStore ((calls k).perform p.store).2).dismiss (calls k)).enter k
        (.returned ((calls k).perform p.store).1) := by
  have stages : List.replicate 6 k = k :: ([k,k] ++ [k,k,k]) := rfl
  rw [stages,execute_cons,advance_called calls called,execute_append,
    execute_inside calls (enter_same _ _ _) (by simpa using free)]
  have write := (calls k).conclude_current p.store
  simp [advance,write,withHolder_restored,free]

end Tracker

end GeoFleet
