import GeoFleet.Proofs.Catalog.InPlace

/-! Catalogs hold together. Whatever is done to a catalog from the empty one on, its definitions stand
under their own names, and what they refer to is there. So every rule can be resolved, and the rules
of every target can be listed. -/
namespace GeoFleet.Catalog

/-- Definitions stand under their own names and refer to definitions of the same catalog. -/
structure Whole (c : Catalog) : Prop extends Consistent c where
  fieldNamed : ∀ (name : String) (f : Field), c.fields[name]? = some f → f.name = name
  conditionNamed : ∀ (name : String) (d : Condition), c.conditions[name]? = some d → d.name = name
  sampled : ∀ (name : String) (d : Condition), c.conditions[name]? = some d →
    c.fields.contains d.field = true
  conditioned : ∀ (name : String) (r : Rule), c.rules[name]? = some r → r.conditions ≠ []
  defined : ∀ (name : String) (r : Rule), c.rules[name]? = some r →
    ∀ condition ∈ r.conditions, c.conditions.contains condition = true

theorem mem_rulesUsing {c : Catalog} {name condition : String} (found : c.rules[name]? = some r)
    (used : condition ∈ r.conditions) : r.name ∈ c.rulesUsing condition := by
  apply List.mem_map.mpr
  refine ⟨r,List.mem_filter.mpr ⟨mem_values_iff.mpr ⟨name,found⟩,?_⟩,rfl⟩
  exact List.contains_iff_mem.mpr used

/-- What an operation that goes through does to the definitions, and what it has checked. -/
inductive Change (c : Catalog) : Catalog → Prop where
  | linked (byRule byTarget : Links) :
      Change c { c with targetsOfRule := byRule, rulesOfTarget := byTarget }
  | fieldAdded (f : Field) (fresh : c.fields.contains f.name = false) :
      Change c { c with fields := c.fields.insert f.name f }
  | conditionAdded (d : Condition) (fresh : c.conditions.contains d.name = false)
      (known : c.fields.contains d.field = true) :
      Change c { c with conditions := c.conditions.insert d.name d }
  | conditionRedefined (d : Condition) (current : c.conditions.contains d.name = true)
      (unused : c.rulesUsing d.name = []) (known : c.fields.contains d.field = true) :
      Change c { c with conditions := c.conditions.insert d.name d }
  | conditionTuned (d : Condition) (value : Float) (current : c.conditions[d.name]? = some d) :
      Change c { c with conditions := c.conditions.insert d.name { d with value } }
  | conditionRemoved (name : String) (current : c.conditions.contains name = true)
      (unused : c.rulesUsing name = []) :
      Change c { c with conditions := c.conditions.erase name }
  | ruleAdded (r : Rule) (fresh : c.rules.contains r.name = false) (conditioned : r.conditions ≠ [])
      (permitted : r.decision.isValidFor r.kind = true)
      (defined : ∀ condition ∈ r.conditions, c.conditions.contains condition = true) :
      Change c { c with rules := c.rules.insert r.name r }
  | ruleRemoved (name : String) (byRule byTarget : Links) (current : c.rules.contains name = true) :
      Change c { c with rules := c.rules.erase name, targetsOfRule := byRule, rulesOfTarget := byTarget }

theorem updateCondition_change {c next : Catalog} (whole : c.Whole) {d : Condition}
    (done : c.updateCondition d = .ok next) : Change c next := by
  simp only [updateCondition] at done
  split at done
  · cases done
  · rename_i current found
    split at done
    · cases done
    rename_i free
    split at done
    · cases done
    rename_i sampled
    cases done
    by_cases redefined : current.field ≠ d.field ∨ current.operator ≠ d.operator ∨ current.mode ≠ d.mode
    · apply Change.conditionRedefined
      · simp [Std.ExtTreeMap.contains_eq_isSome_getElem?,found]
      · simpa [redefined] using free
      · simpa [redefined] using sampled
    · -- Nothing but the threshold differs from the current definition, which has the same name.
      have named := whole.conditionNamed d.name current found
      have same : { current with value := d.value } = d := by
        simp only [ne_eq,not_or,not_not] at redefined
        obtain ⟨field,operator,mode⟩ := redefined
        cases d; cases current; simp_all
      have tuned := Change.conditionTuned current d.value (by rw [named]; exact found)
      rwa [same,named] at tuned

/-- The operations of a catalog do one of eight things to its definitions. -/
theorem attempt_change {c next : Catalog} (whole : c.Whole) (o : Edit) (done : c.attempt o = .ok next) :
    Change c next := by
  cases o with
  | addField f =>
    simp only [Catalog.attempt,addField] at done
    split at done
    · cases done
    · rename_i fresh
      cases done
      exact .fieldAdded f (eq_false_of_ne_true fresh)
  | addCondition d =>
    simp only [Catalog.attempt,addCondition] at done
    split at done
    · cases done
    rename_i known
    split at done
    · cases done
    rename_i fresh
    cases done
    exact .conditionAdded d (eq_false_of_ne_true fresh) (by simpa using known)
  | updateCondition d => exact updateCondition_change whole done
  | setThreshold name value =>
    simp only [Catalog.attempt,setThreshold] at done
    split at done
    · cases done
    · rename_i d found
      cases done
      obtain rfl := whole.conditionNamed name d found
      exact .conditionTuned d value found
  | removeCondition name =>
    simp only [Catalog.attempt,removeCondition] at done
    split at done
    · cases done
    rename_i unused
    split at done
    · cases done
    rename_i d found
    cases done
    exact .conditionRemoved name (by simp [Std.ExtTreeMap.contains_eq_isSome_getElem?,found])
      (by simpa using unused)
  | addRule r =>
    simp only [Catalog.attempt,addRule] at done
    split at done
    · cases done
    rename_i fresh
    split at done
    · cases done
    rename_i conditioned
    split at done
    · cases done
    rename_i permitted
    split at done
    · cases done
    rename_i defined
    cases done
    exact .ruleAdded r (eq_false_of_ne_true fresh) conditioned (by simpa using permitted)
      (by simpa using defined)
  | removeRule name =>
    simp only [Catalog.attempt,removeRule] at done
    split at done
    · cases done
    · rename_i r found
      cases done
      exact .ruleRemoved name _ _ (by simp [Std.ExtTreeMap.contains_eq_isSome_getElem?,found])
  | associate rule target =>
    simp only [Catalog.attempt,associate] at done
    split at done <;> cases done
    exact .linked _ _
  | dissociate rule target =>
    simp only [Catalog.attempt,dissociate] at done
    split at done <;> cases done
    exact .linked _ _
  | forgetTarget target => cases done; exact .linked _ _

theorem contains_of_insert {m : Std.ExtTreeMap String α} {name : String} (known : m.contains name = true)
    (other : String) (a : α) : (m.insert other a).contains name = true := by
  rw [Std.ExtTreeMap.contains_insert,known,Bool.or_true]

theorem Change.whole {c next : Catalog} (change : Change c next) (whole : c.Whole) : next.Whole := by
  have kept : ∀ (d : Condition) (name : String) (r : Rule), c.rules[name]? = some r →
      ∀ condition ∈ r.conditions, (c.conditions.insert d.name d).contains condition = true := by
    intro d name r found condition used
    exact contains_of_insert (whole.defined name r found condition used) d.name d
  cases change with
  | linked byRule byTarget => exact { whole with }
  | fieldAdded f fresh =>
    exact { whole with
      fieldNamed := forall_insert whole.fieldNamed rfl
      sampled := fun name d found => contains_of_insert (whole.sampled name d found) f.name f }
  | conditionAdded d fresh known =>
    exact { whole with
      conditionNamed := forall_insert whole.conditionNamed rfl
      sampled := forall_insert whole.sampled known
      defined := kept d }
  | conditionRedefined d current unused known =>
    exact { whole with
      conditionNamed := forall_insert whole.conditionNamed rfl
      sampled := forall_insert whole.sampled known
      defined := kept d }
  | conditionTuned d value current =>
    exact { whole with
      conditionNamed := forall_insert whole.conditionNamed rfl
      sampled := forall_insert whole.sampled (whole.sampled d.name d current)
      defined := kept { d with value } }
  | conditionRemoved gone current unused =>
    have other : ∀ (name : String) (r : Rule), c.rules[name]? = some r → gone ∉ r.conditions := by
      intro name r found used
      have user := mem_rulesUsing found used
      rw [unused] at user
      cases user
    exact { whole with
      conditionNamed := forall_erase whole.conditionNamed
      sampled := forall_erase whole.sampled
      defined := by
        intro name r found condition used
        have apart : gone ≠ condition := fun same => other name r found (same ▸ used)
        have known := whole.defined name r found condition used
        rw [Std.ExtTreeMap.contains_eq_isSome_getElem?] at known ⊢
        rw [getElem?_erase_ne apart]
        exact known }
  | ruleAdded r fresh conditioned permitted defined =>
    exact { whole with
      named := forall_insert whole.named rfl
      conditioned := forall_insert whole.conditioned conditioned
      defined := forall_insert whole.defined defined
      permitted := forall_insert whole.permitted permitted }
  | ruleRemoved name byRule byTarget current =>
    exact { whole with
      named := forall_erase whole.named
      conditioned := forall_erase whole.conditioned
      defined := forall_erase whole.defined
      permitted := forall_erase whole.permitted }

theorem whole_empty : empty.Whole := by
  refine ⟨⟨?_,?_⟩,?_,?_,?_,?_,?_⟩
  all_goals intro name a found; simp [empty] at found

theorem Whole.edit {c : Catalog} (whole : c.Whole) (o : Edit) : (c.edit o).Whole := by
  cases done : c.attempt o with
  | error err => simpa [Catalog.edit,done] using whole
  | ok next => simpa [Catalog.edit,done] using (attempt_change whole o done).whole whole

theorem Built.whole (built : Built c) : c.Whole := by
  induction built with
  | empty => exact whole_empty
  | edit o _ ih => exact ih.edit o

theorem Built.consistent (built : Built c) : Consistent c := built.whole.toConsistent

/-- The conditions that a rule refers to are there, so it can be resolved. -/
theorem Whole.resolves {c : Catalog} (whole : c.Whole) {name : String} (found : c.rules[name]? = some r) :
    ∃ resolved, c.resolve name = .ok resolved := by
  have present : ∀ condition ∈ r.conditions, ∃ d, c.conditions[condition]? = some d := by
    intro condition used
    have known := whole.defined name r found condition used
    rw [Std.ExtTreeMap.contains_eq_isSome_getElem?] at known
    exact Option.isSome_iff_exists.mp known
  simp only [resolve,found]
  refine exists_bind_ok (exists_mapM_ok fun condition used => ?_) fun definitions => ⟨_,rfl⟩
  obtain ⟨d,stands⟩ := present condition used
  exact ⟨d,by rw [stands]⟩

theorem Whole.lists {c : Catalog} (whole : c.Whole) (t : Target) : ∃ listed, c.rulesFor t = .ok listed := by
  apply exists_mapM_ok
  intro r selected
  obtain ⟨name,found⟩ := mem_values_iff.mp (List.mem_filter.mp selected).1
  obtain rfl := whole.named name r found
  exact whole.resolves found

def history (operations : List Edit) : Catalog :=
  operations.foldl (fun c o => ((Writing.perform o).on c).2) empty

theorem history_built (operations : List Edit) : Built (history operations) := by
  refine List.foldlRecOn (motive := Built) operations _ .empty ?_
  intro c built o _
  rw [perform_leaves]
  exact built.edit o

/-- After any sequence of operations the catalog holds together: every rule can be resolved, the
rules of every target can be listed, and an operation that is refused leaves everything as it was. -/
theorem referential_integrity (operations : List Edit) :
    let c := history operations
    c.Whole ∧
    (∀ (name : String) (r : Rule), c.rules[name]? = some r → ∃ resolved, c.resolve name = .ok resolved) ∧
    (∀ t, ∃ listed, c.rulesFor t = .ok listed) ∧
    ∀ o e after, (Writing.perform o).on c = (.error e,after) → after = c := by
  intro c
  have whole := (history_built operations).whole
  refine ⟨whole,fun name r found => whole.resolves found,whole.lists,?_⟩
  intro o e after refused
  rw [perform_on] at refused
  split at refused
  · cases refused
  · cases refused; rfl

end GeoFleet.Catalog
