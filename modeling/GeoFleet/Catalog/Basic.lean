import GeoFleet.Catalog.Links
import GeoFleet.Rule.Basic
import GeoFleet.Target

/-! The catalog of fields, conditions and rules that targets are evaluated against. Every definition
is kept under its name. Rules are associated with target names; the association is kept on both
sides, so that it can be followed from a rule and from a target. -/
namespace GeoFleet

structure Catalog where
  fields : Std.ExtTreeMap String Field
  conditions : Std.ExtTreeMap String Condition
  rules : Std.ExtTreeMap String Rule
  targetsOfRule : Links
  rulesOfTarget : Links

namespace Catalog

def empty : Catalog := ⟨∅, ∅, ∅, ∅, ∅⟩

def addField (c : Catalog) (f : Field) : Except DefinitionError Catalog :=
  if c.fields.contains f.name then .error (.duplicate .field f.name)
  else .ok { c with fields := c.fields.insert f.name f }

/-- Conditions read fields that are defined. -/
def addCondition (c : Catalog) (d : Condition) : Except DefinitionError Catalog :=
  if !c.fields.contains d.field then .error (.unknownField d.field)
  else if c.conditions.contains d.name then .error (.duplicate .condition d.name)
  else .ok { c with conditions := c.conditions.insert d.name d }

def rulesUsing (c : Catalog) (condition : String) : List String :=
  (c.rules.values.filter (·.conditions.contains condition)).map (·.name)

/-- Replaces a condition. While a rule refers to it only the threshold may change. -/
def updateCondition (c : Catalog) (d : Condition) : Except DefinitionError Catalog :=
  match c.conditions[d.name]? with
  | none => .error (.unknownCondition d.name)
  | some current =>
    let redefined := current.field ≠ d.field ∨ current.operator ≠ d.operator ∨ current.mode ≠ d.mode
    if redefined ∧ c.rulesUsing d.name ≠ [] then .error (.conditionRedefinition d.name)
    else if redefined ∧ !c.fields.contains d.field then .error (.unknownField d.field)
    else .ok { c with conditions := c.conditions.insert d.name d }

def setThreshold (c : Catalog) (name : String) (value : Float) : Except DefinitionError Catalog :=
  match c.conditions[name]? with
  | none => .error (.unknownCondition name)
  | some d => .ok { c with conditions := c.conditions.insert name { d with value } }

/-- Removes a condition that no rule refers to. -/
def removeCondition (c : Catalog) (name : String) : Except DefinitionError (Condition × Catalog) :=
  let users := c.rulesUsing name
  if users ≠ [] then .error (.conditionInUse name users)
  else match c.conditions[name]? with
    | none => .error (.unknownCondition name)
    | some d => .ok (d, { c with conditions := c.conditions.erase name })

/-- Rules have conditions, all of them defined, and a decision that their kind allows. -/
def addRule (c : Catalog) (r : Rule) : Except DefinitionError Catalog :=
  if c.rules.contains r.name then .error (.duplicate .rule r.name)
  else if r.conditions = [] then .error (.emptyRule r.name)
  else if !r.decision.isValidFor r.kind then .error (.invalidDecision r.name r.decision r.kind)
  else match r.conditions.find? (!c.conditions.contains ·) with
    | some missing => .error (.unknownCondition missing)
    | none => .ok { c with rules := c.rules.insert r.name r }

/-- Removes a rule with all its associations. -/
def removeRule (c : Catalog) (name : String) : Except DefinitionError (Rule × Catalog) :=
  match c.rules[name]? with
  | none => .error (.unknownRule name)
  | some r => .ok (r,
    { c with
      rules := c.rules.erase name
      targetsOfRule := c.targetsOfRule.clear name
      rulesOfTarget := (c.targetsOfRule.names name).foldl (·.unlink · name) c.rulesOfTarget })

def resolve (c : Catalog) (name : String) : Except DefinitionError ResolvedRule :=
  match c.rules[name]? with
  | none => .error (.unknownRule name)
  | some r => do
    let conditions ← r.conditions.mapM fun d =>
      match c.conditions[d]? with
      | some d => Except.ok d
      | none => .error (.unknownCondition d)
    return ⟨r.name, r.kind, r.priority, r.decision, conditions⟩

/-- Associates a rule with a target name; the answer says whether that is new. -/
def associate (c : Catalog) (rule target : String) : Except DefinitionError (Bool × Catalog) :=
  if !c.rules.contains rule then .error (.unknownRule rule)
  else .ok (!c.targetsOfRule.contains rule target,
    { c with
      targetsOfRule := c.targetsOfRule.link rule target
      rulesOfTarget := c.rulesOfTarget.link target rule })

/-- Takes an association back; the answer says whether there was one. -/
def dissociate (c : Catalog) (rule target : String) : Except DefinitionError (Bool × Catalog) :=
  if !c.rules.contains rule then .error (.unknownRule rule)
  else .ok (c.targetsOfRule.contains rule target,
    { c with
      targetsOfRule := c.targetsOfRule.unlink rule target
      rulesOfTarget := c.rulesOfTarget.unlink target rule })

def forgetTarget (c : Catalog) (target : String) : Catalog :=
  { c with
    targetsOfRule := (c.rulesOfTarget.names target).foldl (·.unlink · target) c.targetsOfRule
    rulesOfTarget := c.rulesOfTarget.clear target }

def targetsOf (c : Catalog) (rule : String) : List String := c.targetsOfRule.names rule

def rulesOf (c : Catalog) (target : String) : List String := c.rulesOfTarget.names target

/-- The name under which a target is associated with rules of a kind. Hosts answer to their public
address and only to host rules; workloads answer to their id, service and app, each for rules of
that kind, and to no host rule. -/
def associationKey (t : Target) (k : Kind) : Option (Option String) :=
  match t.kind.isHost, k with
  | true, .host => some (some t.host.publicAddress)
  | true, _ => none
  | false, .host => none
  | false, .container => some (some t.id)
  | false, .service => some t.service
  | false, .app => some t.app

def applies (c : Catalog) (t : Target) (r : Rule) : Bool :=
  match associationKey t r.kind with
  | none => false
  | some key => r.generic || key.any fun k => c.rulesOfTarget.contains k r.name

def rulesFor (c : Catalog) (t : Target) : Except DefinitionError (List ResolvedRule) :=
  (c.rules.values.filter (c.applies t)).mapM fun r => c.resolve r.name

end Catalog

end GeoFleet
