import GeoFleet.Kind
import GeoFleet.Text.Quoted

/-! What can be wrong with a definition of a field, a condition or a rule, and how it is told. -/
namespace GeoFleet

inductive Entity where
  | field | condition | rule
  deriving DecidableEq, Repr

def Entity.name : Entity → String
  | .field => "field"
  | .condition => "condition"
  | .rule => "rule"

inductive DefinitionError where
  | unknownOperator (text : String)
  | unknownValueMode (text : String)
  | unknownField (name : String)
  | unknownCondition (name : String)
  | unknownRule (name : String)
  | emptyRule (rule : String)
  | invalidDecision (rule : String) (decision : Decision) (kind : Kind)
  | duplicate (entity : Entity) (name : String)
  | conditionInUse (condition : String) (rules : List String)
  | conditionRedefinition (condition : String)
  deriving DecidableEq, Repr

def DefinitionError.message : DefinitionError → String
  | .unknownOperator text => "unknown operator: " ++ Text.quoted text
  | .unknownValueMode text => "unknown value mode: " ++ Text.quoted text
  | .unknownField name => "unknown field: " ++ name
  | .unknownCondition name => "unknown condition: " ++ name
  | .unknownRule name => "unknown rule: " ++ name
  | .emptyRule rule => "rule " ++ rule ++ " has no conditions"
  | .invalidDecision rule decision kind =>
    "rule " ++ rule ++ ": decision " ++ decision.name ++ " is not valid for " ++ kind.name ++ " rules"
  | .duplicate entity name => entity.name ++ " " ++ name ++ " already exists"
  | .conditionInUse condition rules =>
    "condition " ++ condition ++ " is used by rules " ++ Text.quotedList rules
  | .conditionRedefinition condition =>
    "condition " ++ condition ++ " is referenced by a rule; only its value may change"

end GeoFleet
