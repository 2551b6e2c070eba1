import GeoFleet.Catalog.Basic
import GeoFleet.Config.Basic

/-! Building a catalog from a configuration: fields first, then conditions, then rules, each rule
followed by its associations. The first definition that is wrong rejects the whole catalog. -/
namespace GeoFleet.Catalog

def readCondition (e : Config.ConditionEntry) : Except DefinitionError Condition := do
  let operator ← Operator.parse e.operator
  let mode ← match e.valueMode with
    | some text => ValueMode.parse text
    | none => .ok .effective
  return ⟨e.name, e.field, operator, e.value, mode⟩

def loadCondition (c : Catalog) (e : Config.ConditionEntry) : Except DefinitionError Catalog := do
  c.addCondition (← readCondition e)

def ruleOf (e : Config.RuleEntry) : Rule :=
  ⟨e.name, e.kind, e.priority, e.decision, e.generic, e.conditions⟩

def loadRule (c : Catalog) (e : Config.RuleEntry) : Except DefinitionError Catalog := do
  let c ← c.addRule (ruleOf e)
  e.targets.foldlM (fun c target => (·.2) <$> c.associate e.name target) c

def load (config : Config) : Except DefinitionError Catalog := do
  let c ← config.fields.foldlM addField empty
  let c ← config.conditions.foldlM loadCondition c
  config.rules.foldlM loadRule c

end GeoFleet.Catalog
