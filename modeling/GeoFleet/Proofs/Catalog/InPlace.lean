import GeoFleet.Proofs.Catalog.Edits

/-! The operations of a catalog as they change one catalog in place, check by check and write by
write. An error ends an operation, and what was written before it stays written. Still all of them
leave what the operations on values give, and after an error they leave the catalog as it was. -/
namespace GeoFleet.Catalog

/-- Checks and writes on a catalog that is there also after an error. -/
abbrev Writing := ExceptT DefinitionError (StateM Catalog)

namespace Writing

def on (x : Writing α) (c : Catalog) : Except DefinitionError α × Catalog := (x.run.run c).run

def refuse (refused : Bool) (e : DefinitionError) : Writing PUnit :=
  if refused then throw e else pure ⟨⟩

def orRefuse (x : Option α) (e : DefinitionError) : Writing α :=
  match x with
  | some a => pure a
  | none => throw e

@[simp] theorem on_get (c : Catalog) : (get : Writing Catalog).on c = (.ok c,c) := rfl

@[simp] theorem on_modify (f : Catalog → Catalog) (c : Catalog) :
    (modify f : Writing PUnit).on c = (.ok ⟨⟩,f c) := rfl

@[simp] theorem on_refuse (refused : Bool) (e : DefinitionError) (c : Catalog) :
    (refuse refused e).on c = if refused then (.error e,c) else (.ok ⟨⟩,c) := by
  cases refused <;> rfl

@[simp] theorem on_orRefuse (x : Option α) (e : DefinitionError) (c : Catalog) :
    (orRefuse x e).on c = match x with
      | some a => (.ok a, c)
      | none => (.error e, c) := by
  cases x <;> rfl

@[simp] theorem on_bind (x : Writing α) (f : α → Writing β) (c : Catalog) :
    (x >>= f).on c = match x.on c with
      | (.ok a, c) => (f a).on c
      | (.error e, c) => (.error e, c) := by
  simp only [on,ExceptT.run_bind,StateT.run_bind]
  rcases x.run.run c with ⟨_ | _,_⟩ <;> rfl

@[simp] theorem on_forM_modify (f : β → Catalog → Catalog) (l : List β) (c : Catalog) :
    (forM l fun b => (modify (f b) : Writing PUnit)).on c = (.ok ⟨⟩,l.foldl (fun c b => f b c) c) := by
  induction l generalizing c with
  | nil => rfl
  | cons b l ih => simp [ih]

/-- An operation in place. Removing takes an entry out before it is asked whether there was one, and
associations are written on one side first. -/
def perform : Edit → Writing PUnit
  | .addField f => do
    refuse ((← get).fields.contains f.name) (.duplicate .field f.name)
    modify fun c => { c with fields := c.fields.insert f.name f }
  | .addCondition d => do
    refuse (!(← get).fields.contains d.field) (.unknownField d.field)
    refuse ((← get).conditions.contains d.name) (.duplicate .condition d.name)
    modify fun c => { c with conditions := c.conditions.insert d.name d }
  | .updateCondition d => do
    let current ← orRefuse (← get).conditions[d.name]? (.unknownCondition d.name)
    let redefined := current.field ≠ d.field ∨ current.operator ≠ d.operator ∨ current.mode ≠ d.mode
    refuse (redefined ∧ (← get).rulesUsing d.name ≠ []) (.conditionRedefinition d.name)
    refuse (redefined ∧ !(← get).fields.contains d.field) (.unknownField d.field)
    modify fun c => { c with conditions := c.conditions.insert d.name d }
  | .setThreshold name value => do
    let d ← orRefuse (← get).conditions[name]? (.unknownCondition name)
    modify fun c => { c with conditions := c.conditions.insert name { d with value } }
  | .removeCondition name => do
    let users := (← get).rulesUsing name
    refuse (users ≠ []) (.conditionInUse name users)
    let removed := (← get).conditions[name]?
    modify fun c => { c with conditions := c.conditions.erase name }
    refuse removed.isNone (.unknownCondition name)
  | .addRule r => do
    refuse ((← get).rules.contains r.name) (.duplicate .rule r.name)
    refuse (r.conditions = []) (.emptyRule r.name)
    refuse (!r.decision.isValidFor r.kind) (.invalidDecision r.name r.decision r.kind)
    match r.conditions.find? (!(← get).conditions.contains ·) with
    | some missing => refuse true (.unknownCondition missing)
    | none => modify fun c => { c with rules := c.rules.insert r.name r }
  | .removeRule name => do
    let removed := (← get).rules[name]?
    modify fun c => { c with rules := c.rules.erase name }
    refuse removed.isNone (.unknownRule name)
    let targets := (← get).targetsOfRule.names name
    modify fun c => { c with targetsOfRule := c.targetsOfRule.clear name }
    forM targets fun target =>
      modify fun c => { c with rulesOfTarget := c.rulesOfTarget.unlink target name }
  | .associate rule target => do
    refuse (!(← get).rules.contains rule) (.unknownRule rule)
    modify fun c => { c with targetsOfRule := c.targetsOfRule.link rule target }
    modify fun c => { c with rulesOfTarget := c.rulesOfTarget.link target rule }
  | .dissociate rule target => do
    refuse (!(← get).rules.contains rule) (.unknownRule rule)
    modify fun c => { c with targetsOfRule := c.targetsOfRule.unlink rule target }
    modify fun c => { c with rulesOfTarget := c.rulesOfTarget.unlink target rule }
  | .forgetTarget target => do
    let rules := (← get).rulesOfTarget.names target
    modify fun c => { c with rulesOfTarget := c.rulesOfTarget.clear target }
    forM rules fun rule =>
      modify fun c => { c with targetsOfRule := c.targetsOfRule.unlink rule target }

theorem foldl_rulesOfTarget (f : Links → β → Links) (l : List β) (c : Catalog) :
    l.foldl (fun c b => { c with rulesOfTarget := f c.rulesOfTarget b }) c =
      { c with rulesOfTarget := l.foldl f c.rulesOfTarget } := by
  induction l generalizing c with
  | nil => rfl
  | cons b l ih => simp [ih]

theorem foldl_targetsOfRule (f : Links → β → Links) (l : List β) (c : Catalog) :
    l.foldl (fun c b => { c with targetsOfRule := f c.targetsOfRule b }) c =
      { c with targetsOfRule := l.foldl f c.targetsOfRule } := by
  induction l generalizing c with
  | nil => rfl
  | cons b l ih => simp [ih]

end Writing

/-- An operation in place leaves what the operation on values gives, and the catalog as it was where
that is refused. -/
theorem perform_on (o : Edit) (c : Catalog) :
    (Writing.perform o).on c = match c.attempt o with
      | .ok next => (.ok ⟨⟩, next)
      | .error e => (.error e, c) := by
  cases o with
  | addField f =>
    cases taken : c.fields.contains f.name
    all_goals simp [Writing.perform,Catalog.attempt,addField,-Std.ExtTreeMap.contains_iff_mem,taken]
  | addCondition d =>
    cases known : c.fields.contains d.field
    all_goals cases taken : c.conditions.contains d.name
    all_goals simp [Writing.perform,Catalog.attempt,addCondition,-Std.ExtTreeMap.contains_iff_mem,known,taken]
  | updateCondition d =>
    cases found : c.conditions[d.name]? with
    | none => simp [Writing.perform,Catalog.attempt,updateCondition,found]
    | some current =>
      by_cases redefined : current.field ≠ d.field ∨ current.operator ≠ d.operator ∨ current.mode ≠ d.mode
      all_goals by_cases used : c.rulesUsing d.name = []
      all_goals cases known : c.fields.contains d.field
      all_goals simp [Writing.perform,Catalog.attempt,updateCondition,found,redefined,used,known]
  | setThreshold name value =>
    cases found : c.conditions[name]?
    all_goals simp [Writing.perform,Catalog.attempt,setThreshold,found]
  | removeCondition name =>
    by_cases used : c.rulesUsing name = []
    all_goals cases found : c.conditions[name]?
    all_goals simp [Writing.perform,Catalog.attempt,removeCondition,found,used,Except.map,erase_of_none]
  | addRule r =>
    cases taken : c.rules.contains r.name
    all_goals by_cases empty : r.conditions = []
    all_goals cases valid : r.decision.isValidFor r.kind
    all_goals cases missing : r.conditions.find? (!c.conditions.contains ·)
    all_goals simp [Writing.perform,Catalog.attempt,addRule,-Std.ExtTreeMap.contains_iff_mem,taken,empty,valid,missing]
  | removeRule name =>
    cases found : c.rules[name]? with
    | none => simp [Writing.perform,Catalog.attempt,removeRule,found,Except.map,erase_of_none]
    | some r =>
      simpa [Writing.perform,Catalog.attempt,removeRule,found,Except.map] using
        Writing.foldl_rulesOfTarget (·.unlink · name) _ _
  | associate rule target =>
    cases known : c.rules.contains rule
    all_goals simp [Writing.perform,Catalog.attempt,associate,known,Except.map]
  | dissociate rule target =>
    cases known : c.rules.contains rule
    all_goals simp [Writing.perform,Catalog.attempt,dissociate,known,Except.map]
  | forgetTarget target =>
    simpa [Writing.perform,Catalog.attempt,forgetTarget] using
      Writing.foldl_targetsOfRule (·.unlink · target) _ _

theorem perform_leaves (o : Edit) (c : Catalog) : ((Writing.perform o).on c).2 = c.edit o := by
  rw [perform_on,Catalog.edit]
  cases c.attempt o <;> rfl

end GeoFleet.Catalog
