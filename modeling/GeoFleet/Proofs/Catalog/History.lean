import Mathlib.Data.List.Induction
import GeoFleet.Proofs.Catalog.Integrity

/-! The past of a catalog. The checks of an operation decide whether it goes through, and nothing about
what it does, so a catalog is what the operations that went through have made of the empty one. -/
namespace GeoFleet.Catalog

def effect (c : Catalog) : Edit → Catalog
  | .addField f => { c with fields := c.fields.insert f.name f }
  | .addCondition d | .updateCondition d => { c with conditions := c.conditions.insert d.name d }
  | .setThreshold name value =>
    { c with conditions := c.conditions[name]?.elim c.conditions fun d =>
        c.conditions.insert name { d with value } }
  | .removeCondition name => { c with conditions := c.conditions.erase name }
  | .addRule r => { c with rules := c.rules.insert r.name r }
  | .removeRule name =>
    { c with
      rules := c.rules.erase name
      targetsOfRule := c.targetsOfRule.clear name
      rulesOfTarget := (c.targetsOfRule.names name).foldl (·.unlink · name) c.rulesOfTarget }
  | .associate rule target =>
    { c with
      targetsOfRule := c.targetsOfRule.link rule target
      rulesOfTarget := c.rulesOfTarget.link target rule }
  | .dissociate rule target =>
    { c with
      targetsOfRule := c.targetsOfRule.unlink rule target
      rulesOfTarget := c.rulesOfTarget.unlink target rule }
  | .forgetTarget target => c.forgetTarget target

theorem attempt_effect {c next : Catalog} {o : Edit} (done : c.attempt o = .ok next) :
    next = c.effect o := by
  cases o with
  | setThreshold name value =>
    simp only [Catalog.attempt,setThreshold] at done
    split at done
    · cases done
    · rename_i d found
      cases done
      rw [effect,found]
      rfl
  | forgetTarget target => cases done; rfl
  | _ =>
    simp only [Catalog.attempt,addField,addCondition,updateCondition,removeCondition,addRule,removeRule,
      associate,dissociate] at done
    repeat' split at done
    all_goals cases done
    rfl

def accepted (c : Catalog) : List Edit → List Edit
  | [] => []
  | o :: operations =>
    match c.attempt o with
    | .ok next => o :: next.accepted operations
    | .error _ => c.accepted operations

theorem history_eq_foldl (operations : List Edit) : history operations = operations.foldl edit empty := by
  simp only [history,perform_leaves]

theorem history_append (before after : List Edit) :
    history (before ++ after) = after.foldl edit (history before) := by
  rw [history_eq_foldl,history_eq_foldl,List.foldl_append]

theorem history_concat (operations : List Edit) (o : Edit) :
    history (operations ++ [o]) = (history operations).edit o := history_append operations [o]

theorem accepted_append (operations later : List Edit) (c : Catalog) :
    c.accepted (operations ++ later) = c.accepted operations ++ (operations.foldl edit c).accepted later := by
  induction operations generalizing c with
  | nil => rfl
  | cons o operations ih =>
    cases done : c.attempt o with
    | error err => simp [accepted,Catalog.edit,done,ih]
    | ok next => simp [accepted,Catalog.edit,done,ih]

theorem accepted_concat {operations : List Edit} {o : Edit} {next : Catalog}
    (done : (history operations).attempt o = .ok next) :
    history (operations ++ [o]) = next ∧
      empty.accepted (operations ++ [o]) = empty.accepted operations ++ [o] := by
  constructor
  · rw [history_concat,Catalog.edit,done]
  · rw [accepted_append,← history_eq_foldl]
    simp [accepted,done]

theorem refused_concat {operations : List Edit} {o : Edit}
    (refused : (history operations).attempt o = .error err) :
    history (operations ++ [o]) = history operations ∧
      empty.accepted (operations ++ [o]) = empty.accepted operations := by
  constructor
  · rw [history_concat,Catalog.edit,refused]
  · rw [accepted_append,← history_eq_foldl]
    simp [accepted,refused]

/-- What every operation keeps as it goes through holds of every catalog and its past. -/
theorem history_induction {motive : Catalog → List Edit → Prop} (initial : motive empty [])
    (kept : ∀ c past o next, c.Whole → motive c past → c.attempt o = .ok next →
      motive next (past ++ [o]))
    (operations : List Edit) : motive (history operations) (empty.accepted operations) := by
  induction operations using List.reverseRecOn with
  | nil => exact initial
  | append_singleton operations o ih =>
    cases done : (history operations).attempt o with
    | error err =>
      obtain ⟨same,past⟩ := refused_concat done
      rw [same,past]
      exact ih
    | ok next =>
      obtain ⟨same,past⟩ := accepted_concat done
      rw [same,past]
      exact kept _ _ o next (history_built operations).whole ih done

end GeoFleet.Catalog
