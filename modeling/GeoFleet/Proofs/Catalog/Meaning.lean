import GeoFleet.Proofs.Catalog.History
import GeoFleet.Proofs.Text.ByteOrder

/-! What a rule means. A rule names its conditions, and whoever resolves it gets their definitions of
that moment. While the rule is there none of them can be removed or redefined, so only thresholds
change; the threshold of a condition is the one it was given last, in whatever rule it is read. -/
namespace GeoFleet

structure Condition.Retuned (d e : Condition) : Prop where
  name : e.name = d.name
  field : e.field = d.field
  operator : e.operator = d.operator
  mode : e.mode = d.mode

theorem Condition.Retuned.refl (d : Condition) : d.Retuned d := ⟨rfl,rfl,rfl,rfl⟩

theorem Condition.Retuned.trans {d e f : Condition} (first : d.Retuned e) (second : e.Retuned f) :
    d.Retuned f :=
  ⟨second.name.trans first.name,second.field.trans first.field,second.operator.trans first.operator,
    second.mode.trans first.mode⟩

namespace ResolvedRule

/-- Two resolutions of a rule that differ in the thresholds of its conditions at most. -/
structure Retuned (first later : ResolvedRule) : Prop where
  name : later.name = first.name
  kind : later.kind = first.kind
  priority : later.priority = first.priority
  decision : later.decision = first.decision
  conditions : List.Forall₂ Condition.Retuned first.conditions later.conditions

structure Of (r : Rule) (resolved : ResolvedRule) : Prop where
  name : resolved.name = r.name
  kind : resolved.kind = r.kind
  priority : resolved.priority = r.priority
  decision : resolved.decision = r.decision
  conditions : resolved.conditions.map (·.name) = r.conditions

theorem Of.retuned {r : Rule} {first later : ResolvedRule} (means : Of r first)
    (retuned : first.Retuned later) : Of r later := by
  have names : List.Forall₂ Eq (first.conditions.map (·.name)) (later.conditions.map (·.name)) := by
    rw [List.forall₂_map_left_iff,List.forall₂_map_right_iff]
    exact retuned.conditions.imp fun d e change => change.name.symm
  rw [List.forall₂_eq_eq_eq] at names
  exact ⟨retuned.name.trans means.name,retuned.kind.trans means.kind,
    retuned.priority.trans means.priority,retuned.decision.trans means.decision,
    names.symm.trans means.conditions⟩

end ResolvedRule

namespace Catalog

theorem resolve_conditions {c : Catalog} {name : String} (found : c.rules[name]? = some r)
    (done : c.resolve name = .ok resolved) :
    List.Forall₂ (fun (condition : String) (d : Condition) => c.conditions[condition]? = some d)
      r.conditions resolved.conditions := by
  obtain ⟨other,known,_,_,_,definitions⟩ := resolve_ok done
  rw [found] at known
  cases known
  exact definitions

theorem Whole.resolve_of {c : Catalog} (whole : c.Whole) {name : String} (found : c.rules[name]? = some r)
    (done : c.resolve name = .ok resolved) : ResolvedRule.Of r resolved := by
  have definitions := resolve_conditions found done
  have names : List.Forall₂ (fun condition (d : Condition) => condition = d.name) r.conditions
      resolved.conditions :=
    definitions.imp fun condition d stands => (whole.conditionNamed condition d stands).symm
  simp only [resolve,found] at done
  obtain ⟨_,_,same⟩ := bind_eq_ok.mp done
  cases same
  refine ⟨rfl,rfl,rfl,rfl,?_⟩
  rw [← List.forall₂_map_right_iff (f := Condition.name) (R := Eq),List.forall₂_eq_eq_eq] at names
  exact names.symm

def Refers (c : Catalog) (rule condition : String) : Prop :=
  ∃ r, c.rules[rule]? = some r ∧ condition ∈ r.conditions

theorem Whole.mem_rulesUsing_iff {c : Catalog} (whole : c.Whole) {rule condition : String} :
    rule ∈ c.rulesUsing condition ↔ c.Refers rule condition := by
  constructor
  · intro user
    obtain ⟨r,chosen,rfl⟩ := List.mem_map.mp user
    obtain ⟨listed,used⟩ := List.mem_filter.mp chosen
    obtain ⟨name,found⟩ := mem_values_iff.mp listed
    obtain rfl := whole.named name r found
    exact ⟨r,found,List.contains_iff_mem.mp used⟩
  · rintro ⟨r,found,used⟩
    obtain rfl := whole.named rule r found
    exact mem_rulesUsing found used

/-- Whichever rules are picked from a catalog, they are in the order of their names. -/
theorem Whole.names_ordered {c : Catalog} (whole : c.Whole) (p : Rule → Bool) :
    ((c.rules.values.filter p).map (·.name)).Pairwise fun a b => Text.bytes a < Text.bytes b := by
  rw [List.pairwise_map,values_eq_map_toList]
  apply List.Pairwise.filter
  rw [List.pairwise_map]
  refine Std.ExtTreeMap.ordered_keys_toList.imp_of_mem ?_
  intro a b left right less
  have own : ∀ row ∈ c.rules.toList, row.2.name = row.1 := fun row member =>
    whole.named row.1 row.2 (Std.ExtTreeMap.mem_toList_iff_getElem?_eq_some.mp member)
  rw [own a left,own b right]
  exact Text.bytes_lt_of_compare less

theorem Whole.rulesUsing_ordered {c : Catalog} (whole : c.Whole) (condition : String) :
    (c.rulesUsing condition).Pairwise fun a b => Text.bytes a < Text.bytes b :=
  whole.names_ordered _

theorem Whole.removeCondition_ok_iff {c : Catalog} (whole : c.Whole) (name : String) :
    (∃ d next, c.removeCondition name = .ok (d,next)) ↔
      c.conditions.contains name = true ∧ ∀ rule, ¬c.Refers rule name := by
  have unused : c.rulesUsing name = [] ↔ ∀ rule, ¬c.Refers rule name := by
    simp only [List.eq_nil_iff_forall_not_mem,whole.mem_rulesUsing_iff]
  rw [← unused,Std.ExtTreeMap.contains_eq_isSome_getElem?]
  by_cases free : c.rulesUsing name = []
  · cases stands : c.conditions[name]? with
    | none => simp [removeCondition,free,stands]
    | some d => simp [removeCondition,free,stands]
  · simp [removeCondition,free]

theorem removeCondition_users {c : Catalog} {name condition : String} {users : List String}
    (refused : c.removeCondition name = .error (.conditionInUse condition users)) :
    condition = name ∧ users = c.rulesUsing name := by
  simp only [removeCondition] at refused
  split at refused
  · cases refused; exact ⟨rfl,rfl⟩
  · split at refused <;> cases refused

/-- A rule that an operation leaves in the catalog keeps its conditions but for their thresholds. -/
theorem Change.keeps {c next : Catalog} (change : Change c next) {name : String}
    (found : c.rules[name]? = some r) (stays : next.rules.contains name = true) :
    next.rules[name]? = some r ∧ ∀ condition ∈ r.conditions, ∀ d, c.conditions[condition]? = some d →
      ∃ e, next.conditions[condition]? = some e ∧ d.Retuned e := by
  have still : ∀ (m : Std.ExtTreeMap String Condition), (∀ condition ∈ r.conditions,
      m[condition]? = c.conditions[condition]?) → ∀ condition ∈ r.conditions, ∀ d,
      c.conditions[condition]? = some d → ∃ e, m[condition]? = some e ∧ d.Retuned e := by
    intro m same condition used d stands
    exact ⟨d,(same condition used).trans stands,.refl d⟩
  have busy : ∀ condition ∈ r.conditions, c.rulesUsing condition ≠ [] := fun condition used =>
    List.ne_nil_of_mem (mem_rulesUsing found used)
  cases change with
  | linked byRule byTarget => exact ⟨found,still _ fun _ _ => rfl⟩
  | fieldAdded f fresh => exact ⟨found,still _ fun _ _ => rfl⟩
  | conditionAdded new fresh known =>
    refine ⟨found,?_⟩
    intro condition used d stands
    have apart : new.name ≠ condition := by
      rintro rfl
      rw [Std.ExtTreeMap.contains_eq_isSome_getElem?,stands] at fresh
      cases fresh
    exact ⟨d,(getElem?_insert_ne apart).trans stands,.refl d⟩
  | conditionRedefined new current unused known =>
    refine ⟨found,still _ fun condition used => getElem?_insert_ne ?_⟩
    rintro rfl
    exact busy _ used unused
  | conditionTuned tuned value current =>
    refine ⟨found,?_⟩
    intro condition used d stands
    by_cases same : tuned.name = condition
    · subst same
      rw [current] at stands
      cases stands
      exact ⟨{ tuned with value },Std.ExtTreeMap.getElem?_insert_self,rfl,rfl,rfl,rfl⟩
    · exact ⟨d,(getElem?_insert_ne same).trans stands,.refl d⟩
  | conditionRemoved gone current unused =>
    refine ⟨found,still _ fun condition used => getElem?_erase_ne ?_⟩
    rintro rfl
    exact busy _ used unused
  | ruleAdded new fresh conditioned permitted defined =>
    have apart : new.name ≠ name := by
      rintro rfl
      rw [Std.ExtTreeMap.contains_eq_isSome_getElem?,found] at fresh
      cases fresh
    exact ⟨(getElem?_insert_ne apart).trans found,still _ fun _ _ => rfl⟩
  | ruleRemoved gone byRule byTarget current =>
    have apart : gone ≠ name := by
      rintro rfl
      simp at stays
    exact ⟨(getElem?_erase_ne apart).trans found,still _ fun _ _ => rfl⟩

/-- Only removing a rule takes it out of the catalog. -/
theorem effect_stays (c : Catalog) {o : Edit} {name : String} (kept : o ≠ .removeRule name)
    (present : c.rules.contains name = true) : (c.effect o).rules.contains name = true := by
  cases o with
  | addRule r => exact contains_of_insert present r.name r
  | removeRule gone =>
    have apart : gone ≠ name := fun same => kept (same ▸ rfl)
    rw [Std.ExtTreeMap.contains_eq_isSome_getElem?] at present ⊢
    exact (congrArg Option.isSome (getElem?_erase_ne apart)).trans present
  | _ => exact present

theorem Whole.edit_keeps {c : Catalog} (whole : c.Whole) {o : Edit} {name : String}
    (found : c.rules[name]? = some r) (kept : o ≠ .removeRule name) :
    (c.edit o).rules[name]? = some r ∧ ∀ condition ∈ r.conditions, ∀ d,
      c.conditions[condition]? = some d → ∃ e, (c.edit o).conditions[condition]? = some e ∧ d.Retuned e := by
  cases done : c.attempt o with
  | error err =>
    simp only [Catalog.edit,done]
    exact ⟨found,fun condition _ d stands => ⟨d,stands,.refl d⟩⟩
  | ok next =>
    simp only [Catalog.edit,done]
    apply (attempt_change whole o done).keeps found
    rw [attempt_effect done]
    apply effect_stays c kept
    rw [Std.ExtTreeMap.contains_eq_isSome_getElem?,found]
    rfl

/-- Over a run without its removal, a rule keeps its conditions but for their thresholds. -/
theorem Whole.edits_keep {c : Catalog} (whole : c.Whole) {name : String} (found : c.rules[name]? = some r)
    {operations : List Edit} (kept : ∀ o ∈ operations, o ≠ .removeRule name) :
    (operations.foldl Catalog.edit c).rules[name]? = some r ∧ ∀ condition ∈ r.conditions, ∀ d,
      c.conditions[condition]? = some d →
      ∃ e, (operations.foldl Catalog.edit c).conditions[condition]? = some e ∧ d.Retuned e := by
  induction operations generalizing c with
  | nil => exact ⟨found,fun condition _ d stands => ⟨d,stands,.refl d⟩⟩
  | cons o operations ih =>
    obtain ⟨stays,first⟩ := whole.edit_keeps found (kept o List.mem_cons_self)
    obtain ⟨last,later⟩ := ih (whole.edit o) stays fun o member => kept o (List.mem_cons_of_mem _ member)
    refine ⟨last,?_⟩
    intro condition used d stands
    obtain ⟨e,between,retuned⟩ := first condition used d stands
    obtain ⟨f,final,again⟩ := later condition used e between
    exact ⟨f,final,retuned.trans again⟩

theorem Whole.edits {c : Catalog} (whole : c.Whole) (operations : List Edit) :
    (operations.foldl Catalog.edit c).Whole :=
  List.foldlRecOn operations _ whole fun _ whole o _ => whole.edit o

/-- Before and after a run without its removal, a rule resolves to the same but for thresholds. -/
theorem Whole.resolves_retuned {c : Catalog} (whole : c.Whole) {name : String}
    (found : c.rules[name]? = some r) {operations : List Edit}
    (kept : ∀ o ∈ operations, o ≠ .removeRule name) :
    ∃ first now, c.resolve name = .ok first ∧ (operations.foldl Catalog.edit c).resolve name = .ok now ∧
      ResolvedRule.Of r first ∧ first.Retuned now := by
  obtain ⟨stays,retuned⟩ := whole.edits_keep found kept
  obtain ⟨first,resolved⟩ := whole.resolves found
  obtain ⟨now,later⟩ := (whole.edits operations).resolves stays
  have before := whole.resolve_of found resolved
  have after := (whole.edits operations).resolve_of stays later
  refine ⟨first,now,resolved,later,before,?_⟩
  refine ⟨after.name.trans before.name.symm,after.kind.trans before.kind.symm,
    after.priority.trans before.priority.symm,after.decision.trans before.decision.symm,?_⟩
  apply forall₂_join (resolve_conditions found resolved) (resolve_conditions stays later)
  intro condition used d e stood stands
  obtain ⟨f,same,change⟩ := retuned condition used d stood
  rw [stands] at same
  cases same
  exact change

def Edit.threshold? (name : String) : Edit → Option Float
  | .addCondition d | .updateCondition d => if d.name = name then some d.value else none
  | .setThreshold other value => if other = name then some value else none
  | _ => none

/-- The threshold that a condition was given last: by tuning or replacing it, or else on its creation. -/
def lastThreshold? (past : List Edit) (name : String) : Option Float :=
  (past.filterMap (·.threshold? name)).getLast?

theorem lastThreshold?_concat (past : List Edit) (o : Edit) (name : String) :
    lastThreshold? (past ++ [o]) name = (o.threshold? name).or (lastThreshold? past name) := by
  cases given : o.threshold? name with
  | none => simp [lastThreshold?,given]
  | some value => simp [lastThreshold?,given]

/-- What stands under a name has the threshold that the operation gives, or stood there before. -/
theorem effect_threshold {c : Catalog} {o : Edit} {name : String} {d : Condition}
    (found : (c.effect o).conditions[name]? = some d) :
    o.threshold? name = some d.value ∨ o.threshold? name = none ∧ c.conditions[name]? = some d := by
  have put : ∀ new : Condition, (c.conditions.insert new.name new)[name]? = some d →
      (if new.name = name then some new.value else none) = some d.value ∨
      (if new.name = name then some new.value else none) = none ∧ c.conditions[name]? = some d := by
    intro new found
    rcases getElem?_insert_eq_some found with ⟨same,rfl⟩ | ⟨apart,before⟩
    · exact .inl (if_pos same)
    · exact .inr ⟨if_neg apart,before⟩
  cases o with
  | addCondition new => exact put new found
  | updateCondition new => exact put new found
  | setThreshold other value =>
    cases stands : c.conditions[other]? with
    | none =>
      have before : c.conditions[name]? = some d := by simpa [effect,stands] using found
      have apart : other ≠ name := by
        rintro rfl
        rw [stands] at before
        cases before
      exact .inr ⟨if_neg apart,before⟩
    | some current =>
      simp only [effect,stands,Option.elim_some] at found
      rcases getElem?_insert_eq_some found with ⟨same,rfl⟩ | ⟨apart,before⟩
      · exact .inl (if_pos same)
      · exact .inr ⟨if_neg apart,before⟩
  | removeCondition gone => exact .inr ⟨rfl,(getElem?_erase_eq_some found).2⟩
  | _ => exact .inr ⟨rfl,found⟩

/-- Every condition has the threshold that it was given last. -/
theorem history_threshold (operations : List Edit) {name : String} {d : Condition}
    (found : (history operations).conditions[name]? = some d) :
    lastThreshold? (empty.accepted operations) name = some d.value := by
  revert name d
  apply history_induction (motive := fun c past => ∀ {name : String} {d : Condition},
    c.conditions[name]? = some d → lastThreshold? past name = some d.value)
  · intro name d absent
    simp [empty] at absent
  · intro c past o next _ known done name d found
    rw [attempt_effect done] at found
    rw [lastThreshold?_concat]
    rcases effect_threshold found with given | ⟨none_given,before⟩
    · rw [given]; rfl
    · rw [none_given,known before]; rfl

theorem mem_resolve {c : Catalog} (done : c.resolve name = .ok resolved) (member : d ∈ resolved.conditions) :
    ∃ condition : String, c.conditions[condition]? = some d := by
  obtain ⟨_,_,_,_,_,definitions⟩ := resolve_ok done
  obtain ⟨condition,_,stands⟩ := exists_left_of_forall₂ definitions member
  exact ⟨condition,stands⟩

/-- While a rule is there, what it means stays as it was when it was added but for the thresholds of
its conditions. Each of these is the last one given, the same for all rules that share the condition.
And a condition can be removed exactly when no rule refers to it; the refusal names those that do. -/
theorem rule_meaning_frozen (operations : List Edit) :
    let c := history operations
    (∀ before r after added, operations = before ++ .addRule r :: after →
      (history before).addRule r = .ok added → (∀ o ∈ after, o ≠ .removeRule r.name) →
      ∃ first now, added.resolve r.name = .ok first ∧ c.resolve r.name = .ok now ∧
        ResolvedRule.Of r first ∧ first.Retuned now) ∧
    (∀ rule resolved, c.resolve rule = .ok resolved → ∀ d ∈ resolved.conditions,
      lastThreshold? (empty.accepted operations) d.name = some d.value ∧
      ∀ other shared, c.resolve other = .ok shared → ∀ e ∈ shared.conditions, e.name = d.name → e = d) ∧
    ∀ name,
      ((∃ d next, c.removeCondition name = .ok (d,next)) ↔
        c.conditions.contains name = true ∧ ∀ rule, ¬c.Refers rule name) ∧
      ∀ condition users, c.removeCondition name = .error (.conditionInUse condition users) →
        condition = name ∧ (∀ rule, rule ∈ users ↔ c.Refers rule name) ∧
        users.Pairwise fun a b => Text.bytes a < Text.bytes b := by
  intro c
  have whole : c.Whole := (history_built operations).whole
  refine ⟨?_,?_,?_⟩
  · intro before r after added split done kept
    have went : (history before).attempt (.addRule r) = .ok added := done
    have reached := (accepted_concat went).1
    have whole : added.Whole := reached ▸ (history_built (before ++ [.addRule r])).whole
    have found : added.rules[r.name]? = some r := by
      rw [attempt_effect went]; exact Std.ExtTreeMap.getElem?_insert_self
    have later : c = after.foldl Catalog.edit added := by
      change history operations = _
      rw [split,List.append_cons,history_append,reached]
    rw [later]
    exact whole.resolves_retuned found kept
  · intro rule resolved done d member
    obtain ⟨condition,stands⟩ := mem_resolve done member
    have own : c.conditions[d.name]? = some d := by
      rw [whole.conditionNamed condition d stands]; exact stands
    refine ⟨history_threshold operations own,?_⟩
    intro other shared resolves e carried named
    obtain ⟨place,stands⟩ := mem_resolve resolves carried
    rw [← whole.conditionNamed place e stands,named,own] at stands
    exact (Option.some.inj stands).symm
  · intro name
    refine ⟨whole.removeCondition_ok_iff name,?_⟩
    intro condition users refused
    obtain ⟨same,rfl⟩ := removeCondition_users refused
    exact ⟨same,fun rule => whole.mem_rulesUsing_iff,whole.rulesUsing_ordered name⟩

def tuning : List Edit := [
  .addField ⟨"cpu", none⟩,
  .addCondition ⟨"hot", "cpu", .greater, 80.0, .effective⟩,
  .addRule ⟨"move", .container, 1, .migrate, true, ["hot"]⟩,
  .addRule ⟨"copy", .container, 2, .replicate, true, ["hot"]⟩,
  .setThreshold "hot" 90.0,
  .removeCondition "hot"]

/-- The rule that was added first reads its condition with the new threshold, and is otherwise as it
was. -/
theorem tuned_rule_is_the_same : ∃ (added : Catalog) (first now : ResolvedRule),
    added.resolve "move" = .ok first ∧ (history tuning).resolve "move" = .ok now ∧ first.Retuned now ∧
    now.conditions.map (·.name) = ["hot"] ∧ ∀ d ∈ now.conditions, d.value = 90.0 := by
  obtain ⟨frozen,thresholds,_⟩ := rule_meaning_frozen tuning
  have went : ((history (tuning.take 2)).addRule ⟨"move",.container,1,.migrate,true,["hot"]⟩).toOption.isSome =
      true := by decide +kernel
  have kept : ∀ o ∈ tuning.drop 3, o ≠ .removeRule "move" := by simp [tuning]
  obtain ⟨added,done⟩ := toOption_isSome_iff.mp went
  obtain ⟨first,now,resolved,later,means,retuned⟩ :=
    frozen (tuning.take 2) _ (tuning.drop 3) added rfl done kept
  have names : now.conditions.map (·.name) = ["hot"] := (means.retuned retuned).conditions
  have last : lastThreshold? (empty.accepted tuning) "hot" = some 90.0 := by decide +kernel
  refine ⟨added,first,now,resolved,later,retuned,names,?_⟩
  intro d member
  have named : d.name = "hot" := by
    have listed := List.mem_map_of_mem (f := Condition.name) member
    rw [names] at listed
    exact List.mem_singleton.mp listed
  have value := (thresholds "move" now later d member).1
  rw [named,last] at value
  exact (Option.some.inj value).symm

end Catalog

end GeoFleet
