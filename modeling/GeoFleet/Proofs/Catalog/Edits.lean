import GeoFleet.Catalog.Loading
import GeoFleet.Proofs.Collections

/-! Catalogs that come about by the operations of a catalog alone. An operation that is refused
leaves no trace. A catalog loaded from a configuration is one of these; rules that are listed for a
target can be told from their definitions once the catalog is `Consistent`. -/
namespace GeoFleet.Catalog

inductive Edit where
  | addField (f : Field)
  | addCondition (d : Condition)
  | updateCondition (d : Condition)
  | setThreshold (name : String) (value : Float)
  | removeCondition (name : String)
  | addRule (r : Rule)
  | removeRule (name : String)
  | associate (rule target : String)
  | dissociate (rule target : String)
  | forgetTarget (target : String)

def attempt (c : Catalog) : Edit → Except DefinitionError Catalog
  | .addField f => c.addField f
  | .addCondition d => c.addCondition d
  | .updateCondition d => c.updateCondition d
  | .setThreshold name value => c.setThreshold name value
  | .removeCondition name => (c.removeCondition name).map (·.2)
  | .addRule r => c.addRule r
  | .removeRule name => (c.removeRule name).map (·.2)
  | .associate rule target => (c.associate rule target).map (·.2)
  | .dissociate rule target => (c.dissociate rule target).map (·.2)
  | .forgetTarget target => .ok (c.forgetTarget target)

def edit (c : Catalog) (o : Edit) : Catalog :=
  match c.attempt o with
  | .ok next => next
  | .error _ => c

inductive Built : Catalog → Prop where
  | empty : Built empty
  | edit (o : Edit) : Built c → Built (c.edit o)

theorem Built.attempt (built : Built c) (o : Edit) (done : c.attempt o = .ok next) : Built next := by
  have same : c.edit o = next := by simp [Catalog.edit,done]
  exact same ▸ built.edit o

structure Consistent (c : Catalog) : Prop where
  named : ∀ (name : String) (r : Rule), c.rules[name]? = some r → r.name = name
  permitted : ∀ (name : String) (r : Rule), c.rules[name]? = some r →
    r.decision.isValidFor r.kind = true

private theorem loadCondition_built (built : Built c) (done : loadCondition c e = .ok next) :
    Built next := by
  obtain ⟨d,_,added⟩ := bind_eq_ok.mp done
  exact built.attempt (.addCondition d) added

private theorem associate_built (built : Built c)
    (done : (·.2) <$> c.associate rule target = .ok next) : Built next := by
  apply built.attempt (.associate rule target)
  cases answer : c.associate rule target with
  | error err => rw [answer] at done; cases done
  | ok pair => rw [answer] at done; cases done; simp [Catalog.attempt,answer,Except.map]

private theorem loadRule_built (built : Built c) (done : loadRule c e = .ok next) :
    Built next := by
  obtain ⟨added,step,rest⟩ := bind_eq_ok.mp done
  apply foldlM_invariant Built _ (built.attempt (.addRule (ruleOf e)) step) rest
  intro c target _ next built done
  exact associate_built built done

/-- Loading uses the operations of the catalog and nothing else. -/
theorem load_built {config : Config} (done : load config = .ok c) : Built c := by
  obtain ⟨withFields,fields,rest⟩ := bind_eq_ok.mp done
  obtain ⟨withConditions,conditions,rules⟩ := bind_eq_ok.mp rest
  have first : Built withFields :=
    foldlM_invariant Built (fun c f _ next built done => built.attempt (.addField f) done) .empty fields
  have second : Built withConditions :=
    foldlM_invariant Built (fun c e _ next built done => loadCondition_built built done) first conditions
  exact foldlM_invariant Built (fun c e _ next built done => loadRule_built built done) second rules

theorem resolve_ok {c : Catalog} (done : c.resolve name = .ok resolved) :
    ∃ r : Rule, c.rules[name]? = some r ∧ resolved.name = r.name ∧ resolved.kind = r.kind ∧
      resolved.decision = r.decision ∧
      List.Forall₂ (fun (d : String) (definition : Condition) => c.conditions[d]? = some definition)
        r.conditions resolved.conditions := by
  unfold resolve at done
  split at done
  · cases done
  · rename_i r found
    obtain ⟨definitions,traversed,same⟩ := bind_eq_ok.mp done
    cases same
    refine ⟨r,found,rfl,rfl,rfl,?_⟩
    apply (forall₂_of_mapM_ok traversed).imp
    intro d definition known
    split at known
    · cases known; assumption
    · cases known

theorem rulesFor_sound {c : Catalog} {listed : List ResolvedRule} {resolved : ResolvedRule}
    (valid : Consistent c) (done : c.rulesFor t = .ok listed) (member : resolved ∈ listed) :
    ∃ r : Rule, c.rules[resolved.name]? = some r ∧ c.applies t r = true ∧ resolved.kind = r.kind ∧
      resolved.decision = r.decision ∧
      List.Forall₂ (fun (d : String) (definition : Condition) => c.conditions[d]? = some definition)
        r.conditions resolved.conditions := by
  obtain ⟨r,selected,resolves⟩ := exists_left_of_forall₂ (forall₂_of_mapM_ok done) member
  obtain ⟨present,applies⟩ := List.mem_filter.mp selected
  obtain ⟨name,found⟩ := mem_values_iff.mp present
  obtain ⟨source,known,named,kind,decision,conditions⟩ := resolve_ok resolves
  have same : source = r := by
    rw [valid.named name r found] at known
    exact Option.some.inj (known.symm.trans found)
  subst same
  have own := valid.named name source found
  exact ⟨source,by rw [named,own]; exact found,applies,kind,decision,conditions⟩

end GeoFleet.Catalog
