import GeoFleet.Proofs.Magnitude
import GeoFleet.Proofs.Rule.Repeats

/-! What it takes for a rule to fire. Each of its conditions reads one key of the snapshot and compares what
stands there with its threshold; all of them have to hold, and there has to be one. Nothing else in the
snapshot plays a part, and each rule of a list fires or not by itself. -/
namespace GeoFleet

namespace Operator

def Admits : Operator → Ordering → Prop
  | .greater, standing => standing = .gt
  | .less, standing => standing = .lt
  | .greaterOrEqual, standing => standing = .gt ∨ standing = .eq
  | .lessOrEqual, standing => standing = .lt ∨ standing = .eq
  | .equal, standing => standing = .eq

theorem holds_iff {op : Operator} {sample threshold : Float} : op.holds sample threshold = true ↔
    ∃ standing, Magnitude.standing? sample threshold = some standing ∧ op.Admits standing := by
  have swapped := Magnitude.standing?_swap sample threshold
  cases op with
  | greater =>
    simp only [holds,decide_eq_true_eq,Magnitude.lt_iff_standing,swapped,Admits]
    cases Magnitude.standing? sample threshold with
    | none => simp
    | some standing => cases standing <;> simp
  | less =>
    simp only [holds,decide_eq_true_eq,Magnitude.lt_iff_standing,Admits,exists_eq_right]
  | greaterOrEqual =>
    simp only [holds,decide_eq_true_eq,Magnitude.le_iff_standing,swapped,Admits]
    cases Magnitude.standing? sample threshold with
    | none => simp
    | some standing => cases standing <;> simp
  | lessOrEqual =>
    simp only [holds,decide_eq_true_eq,Magnitude.le_iff_standing,Admits,and_or_left,exists_or,exists_eq_right]
  | equal =>
    simp only [holds,Magnitude.beq_iff_standing,Admits,exists_eq_right]

end Operator

def Condition.HoldsIn (d : Condition) (s : Snapshot) : Prop :=
  ∃ sample standing, s[d.key]? = some sample ∧ Magnitude.standing? sample d.value = some standing ∧
    d.operator.Admits standing

theorem Condition.matched?_isSome_iff {d : Condition} {s : Snapshot} :
    (d.matched? s).isSome = true ↔ d.HoldsIn s := by
  simp only [Option.isSome_iff_exists,matched?_eq_some_iff,Operator.holds_iff,HoldsIn,exists_and_left]

theorem Match.foldlM_add?_congr {s s' : Snapshot} {ds : List Condition} {m : Match}
    (same : ∀ d ∈ ds, s'[d.key]? = s[d.key]?) : ds.foldlM (add? s') m = ds.foldlM (add? s) m := by
  induction ds generalizing m with
  | nil => rfl
  | cons d ds ih =>
    have first : add? s' m d = add? s m d := by
      rw [add?,add?,Condition.matched?,Condition.matched?,same d List.mem_cons_self]
    rw [List.foldlM_cons,List.foldlM_cons,first]
    exact congrArg (add? s m d).bind (funext fun _ => ih fun e later => same e (List.mem_cons_of_mem _ later))

namespace ResolvedRule

variable {r : ResolvedRule} {target : String} {s s' : Snapshot}

structure Fires (r : ResolvedRule) (s : Snapshot) : Prop where
  conditioned : r.conditions ≠ []
  holds : ∀ d ∈ r.conditions, d.HoldsIn s

theorem fires_iff : (r.fire? target s).isSome = true ↔ r.Fires s := by
  rw [fire?_isSome_iff]
  simp only [Condition.matched?_isSome_iff]
  exact ⟨fun ⟨conditioned,holds⟩ => ⟨conditioned,holds⟩,fun fires => ⟨fires.conditioned,fires.holds⟩⟩

instance : Decidable (r.Fires s) := decidable_of_iff ((r.fire? "" s).isSome = true) fires_iff

theorem fire?_congr (same : ∀ d ∈ r.conditions, s'[d.key]? = s[d.key]?) : r.fire? target s' = r.fire? target s := by
  rw [fire?,fire?,Match.foldlM_add?_congr same]

structure Proposes (r : ResolvedRule) (target : String) (s : Snapshot) (x : Candidate) : Prop where
  target : x.target = target
  rule : x.rule = r.name
  decision : x.decision = r.decision
  priority : x.priority = r.priority
  keys : ∀ key, key ∈ x.values ↔ ∃ d ∈ r.conditions, d.key = key
  read : ∀ (key : String) (v : Float), x.values[key]? = some v → s[key]? = some v

theorem proposes_of_fire? {x : Candidate} (fired : r.fire? target s = some x) : r.Proposes target s x := by
  obtain ⟨m,adds,rfl⟩ := fire?_eq_some fired
  refine ⟨rfl,rfl,rfl,rfl,?_,adds.read (Match.empty_readFrom s)⟩
  intro key
  simp [adds.keys,Match.empty]

/-- With more conditions a rule fires less often. -/
theorem Fires.of_subset {more : List Condition} (conditioned : r.conditions ≠ []) (kept : r.conditions ⊆ more)
    (fires : Fires { r with conditions := more } s) : r.Fires s :=
  ⟨conditioned,fun d member => fires.holds d (kept member)⟩

/-- The candidates are those of the rules that fire, one after another. -/
theorem fireAll_related (rules : List ResolvedRule) (target : String) (s : Snapshot) :
    List.Forall₂ (fun r x => r.fire? target s = some x) (rules.filter fun r => r.Fires s)
      (fireAll rules target s) := by
  induction rules with
  | nil => exact .nil
  | cons r rules ih =>
    cases fired : r.fire? target s with
    | none =>
      have idle : ¬r.Fires s := by rw [← fires_iff,fired]; exact Bool.false_ne_true
      have skipped : fireAll (r :: rules) target s = fireAll rules target s := by simp [fireAll,fired]
      rw [skipped,List.filter_cons_of_neg (by simpa using idle)]
      exact ih
    | some x =>
      have fires : r.Fires s := by rw [← fires_iff,fired]; rfl
      have first : fireAll (r :: rules) target s = x :: fireAll rules target s := by simp [fireAll,fired]
      rw [first,List.filter_cons_of_pos (by simpa using fires)]
      exact .cons fired ih

/-- A rule fires exactly when it has conditions and each of them holds of the sample under its own key; a key
without a number is enough to stop it. It proposes what it read, and nothing else in the snapshot changes
that. So a rule that gets more conditions never fires where it did not before. The rules of a list that fire
propose one candidate each, in their order. -/
theorem fires_when_all_hold (r : ResolvedRule) (target : String) (s : Snapshot) :
    ((r.fire? target s).isSome = true ↔ r.Fires s) ∧
    (∀ d ∈ r.conditions, (∀ sample, s[d.key]? = some sample → sample.isNaN = true) →
      r.fire? target s = none) ∧
    (∀ x, r.fire? target s = some x → r.Proposes target s x) ∧
    (∀ s', (∀ d ∈ r.conditions, s'[d.key]? = s[d.key]?) → r.fire? target s' = r.fire? target s) ∧
    (∀ more, r.conditions ≠ [] → r.conditions ⊆ more →
      (fire? { r with conditions := more } target s).isSome = true → (r.fire? target s).isSome = true) ∧
    ∀ rules, List.Forall₂ (fun r x => r.fire? target s = some x) (rules.filter fun r => r.Fires s)
      (fireAll rules target s) := by
  refine ⟨fires_iff,?_,fun x fired => proposes_of_fire? fired,fun s' same => fire?_congr same,?_,
    fun rules => fireAll_related rules target s⟩
  · intro d member numberless
    by_contra fired
    have fires : r.Fires s := fires_iff.mp (Option.isSome_iff_ne_none.mpr fired)
    obtain ⟨sample,standing,read,stands,_⟩ := fires.holds d member
    have number := Magnitude.isNumber_of_standing? stands
    rw [Magnitude.IsNumber,numberless sample read] at number
    cases number
  · intro more conditioned kept fired
    exact fires_iff.mpr (.of_subset conditioned kept (fires_iff.mp fired))

end ResolvedRule

end GeoFleet
