import GeoFleet.Proofs.Catalog.Relation
import GeoFleet.Proofs.Faults
import GeoFleet.Proofs.Text.Trim

/-! A catalog is loaded from each well-formed configuration and from no other. It holds what is listed
and nothing else. Of a configuration that is not well-formed, loading tells what is wrong with the first
field that is, or else with the first condition, or else with the first rule. -/
namespace GeoFleet

namespace Config

/-- What a condition is written down for. Its operator and its mode are spelled; without a mode it reads
the raw sample. -/
structure ConditionEntry.Reads (e : ConditionEntry) (d : Condition) : Prop where
  name : d.name = e.name
  field : d.field = e.field
  value : d.value = e.value
  operator : Text.Spells e.operator d.operator.symbol
  mode : e.valueMode.elim (d.mode = .effective) (Text.Spells · d.mode.name)

inductive FieldFault (earlier : List Field) (f : Field) : DefinitionError → Prop where
  | duplicate (repeated : ∃ other ∈ earlier, other.name = f.name) :
      FieldFault earlier f (.duplicate .field f.name)

inductive ConditionEntry.Unreadable (e : ConditionEntry) : DefinitionError → Prop where
  | operator (unknown : ∀ op : Operator, ¬Text.Spells e.operator op.symbol) :
      e.Unreadable (.unknownOperator (Text.trimmed e.operator))
  | mode (text : String) (known : ∃ op : Operator, Text.Spells e.operator op.symbol)
      (given : e.valueMode = some text) (unknown : ∀ mode : ValueMode, ¬Text.Spells text mode.name) :
      e.Unreadable (.unknownValueMode (Text.trimmed text))

inductive ConditionFault (fields : List Field) (earlier : List ConditionEntry) (e : ConditionEntry) :
    DefinitionError → Prop where
  | unreadable (found : e.Unreadable err) : ConditionFault fields earlier e err
  | field (readable : ∀ err, ¬e.Unreadable err) (unlisted : ∀ f ∈ fields, f.name ≠ e.field) :
      ConditionFault fields earlier e (.unknownField e.field)
  | duplicate (readable : ∀ err, ¬e.Unreadable err) (listed : ∃ f ∈ fields, f.name = e.field)
      (repeated : ∃ other ∈ earlier, other.name = e.name) :
      ConditionFault fields earlier e (.duplicate .condition e.name)

def UnlistedFault (conditions : List ConditionEntry) (_ : List String) (name : String)
    (err : DefinitionError) : Prop :=
  (∀ d ∈ conditions, d.name ≠ name) ∧ err = .unknownCondition name

/-- A rule repeats a name, has no condition, decides what its kind does not allow, or names a condition
that is not listed. -/
inductive RuleFault (conditions : List ConditionEntry) (earlier : List RuleEntry) (e : RuleEntry) :
    DefinitionError → Prop where
  | duplicate (repeated : ∃ other ∈ earlier, other.name = e.name) :
      RuleFault conditions earlier e (.duplicate .rule e.name)
  | empty (fresh : ∀ other ∈ earlier, other.name ≠ e.name) (nothing : e.conditions = []) :
      RuleFault conditions earlier e (.emptyRule e.name)
  | decision (fresh : ∀ other ∈ earlier, other.name ≠ e.name) (something : e.conditions ≠ [])
      (forbidden : e.decision.isValidFor e.kind = false) :
      RuleFault conditions earlier e (.invalidDecision e.name e.decision e.kind)
  | condition (fresh : ∀ other ∈ earlier, other.name ≠ e.name)
      (permitted : e.decision.isValidFor e.kind = true)
      (first : FirstFault (UnlistedFault conditions) e.conditions err) : RuleFault conditions earlier e err

/-- What is wrong with the first definition that is wrong: fields are read first, then conditions, then
rules. -/
inductive Fault (c : Config) : DefinitionError → Prop where
  | field (first : FirstFault FieldFault c.fields err) : c.Fault err
  | condition (fields : Faultless FieldFault c.fields)
      (first : FirstFault (ConditionFault c.fields) c.conditions err) : c.Fault err
  | rule (fields : Faultless FieldFault c.fields)
      (conditions : Faultless (ConditionFault c.fields) c.conditions)
      (first : FirstFault (RuleFault c.conditions) c.rules err) : c.Fault err

/-- Names are not repeated, what is referred to is listed, words are known and decisions are allowed. -/
structure WellFormed (c : Config) : Prop where
  fields : (c.fields.map (·.name)).Nodup
  conditions : (c.conditions.map (·.name)).Nodup
  operators : ∀ e ∈ c.conditions, ∃ op : Operator, Text.Spells e.operator op.symbol
  modes : ∀ e ∈ c.conditions, ∀ text, e.valueMode = some text →
    ∃ mode : ValueMode, Text.Spells text mode.name
  sampled : ∀ e ∈ c.conditions, ∃ f ∈ c.fields, f.name = e.field
  rules : (c.rules.map (·.name)).Nodup
  conditioned : ∀ e ∈ c.rules, e.conditions ≠ []
  defined : ∀ e ∈ c.rules, ∀ name ∈ e.conditions, ∃ d ∈ c.conditions, d.name = name
  permitted : ∀ e ∈ c.rules, e.decision.isValidFor e.kind = true

theorem ConditionEntry.unreadable_iff (e : ConditionEntry) : (∀ err, ¬e.Unreadable err) ↔
    (∃ op : Operator, Text.Spells e.operator op.symbol) ∧
    ∀ text, e.valueMode = some text → ∃ mode : ValueMode, Text.Spells text mode.name := by
  constructor
  · intro readable
    have known : ∃ op : Operator, Text.Spells e.operator op.symbol := by
      by_contra unknown
      exact readable _ (.operator (not_exists.mp unknown))
    refine ⟨known,?_⟩
    intro text given
    by_contra unknown
    exact readable _ (.mode text known given (not_exists.mp unknown))
  · rintro ⟨⟨op,spelled⟩,modes⟩ err (unknown | ⟨text,_,given,unknown⟩)
    · exact unknown op spelled
    · obtain ⟨mode,spelled⟩ := modes text given
      exact unknown mode spelled

theorem fieldFault_iff (earlier : List Field) (f : Field) :
    (∀ err, ¬FieldFault earlier f err) ↔ (∀ other ∈ earlier, other.name ≠ f.name) ∧ True := by
  constructor
  · intro clean
    refine ⟨?_,trivial⟩
    intro other member same
    exact clean _ (.duplicate ⟨other,member,same⟩)
  · rintro ⟨fresh,_⟩ err ⟨other,member,same⟩
    exact fresh other member same

theorem conditionFault_iff (fields : List Field) (earlier : List ConditionEntry) (e : ConditionEntry) :
    (∀ err, ¬ConditionFault fields earlier e err) ↔ (∀ other ∈ earlier, other.name ≠ e.name) ∧
      (∀ err, ¬e.Unreadable err) ∧ ∃ f ∈ fields, f.name = e.field := by
  constructor
  · intro clean
    have readable : ∀ err, ¬e.Unreadable err := fun err found => clean err (.unreadable found)
    have listed : ∃ f ∈ fields, f.name = e.field := by
      by_contra unlisted
      exact clean _ (.field readable fun f member same => unlisted ⟨f,member,same⟩)
    refine ⟨?_,readable,listed⟩
    intro other member same
    exact clean _ (.duplicate readable listed ⟨other,member,same⟩)
  · rintro ⟨fresh,readable,f,member,same⟩ err fault
    cases fault with
    | unreadable found => exact readable err found
    | field _ unlisted => exact unlisted f member same
    | duplicate _ _ repeated =>
      obtain ⟨other,before,same⟩ := repeated
      exact fresh other before same

theorem unlisted_iff (conditions : List ConditionEntry) (names : List String) :
    (∀ err, ¬FirstFault (UnlistedFault conditions) names err) ↔
      ∀ name ∈ names, ∃ d ∈ conditions, d.name = name := by
  rw [← faultless_iff]
  constructor
  · intro clean name member
    obtain ⟨before,after,split⟩ := List.append_of_mem member
    by_contra unlisted
    exact clean before name after split _ ⟨fun d listed same => unlisted ⟨d,listed,same⟩,rfl⟩
  · rintro listed before name after split err ⟨unlisted,_⟩
    obtain ⟨d,member,same⟩ := listed name (by simp [split])
    exact unlisted d member same

theorem ruleFault_iff (conditions : List ConditionEntry) (earlier : List RuleEntry) (e : RuleEntry) :
    (∀ err, ¬RuleFault conditions earlier e err) ↔ (∀ other ∈ earlier, other.name ≠ e.name) ∧
      e.conditions ≠ [] ∧ e.decision.isValidFor e.kind = true ∧
      ∀ name ∈ e.conditions, ∃ d ∈ conditions, d.name = name := by
  constructor
  · intro clean
    have fresh : ∀ other ∈ earlier, other.name ≠ e.name :=
      fun other member same => clean _ (.duplicate ⟨other,member,same⟩)
    have something : e.conditions ≠ [] := fun nothing => clean _ (.empty fresh nothing)
    have permitted : e.decision.isValidFor e.kind = true := by
      by_contra forbidden
      exact clean _ (.decision fresh something (Bool.eq_false_of_not_eq_true forbidden))
    refine ⟨fresh,something,permitted,(unlisted_iff conditions e.conditions).mp ?_⟩
    intro err first
    exact clean err (.condition fresh permitted first)
  · rintro ⟨fresh,something,permitted,listed⟩ err fault
    cases fault with
    | duplicate repeated =>
      obtain ⟨other,before,same⟩ := repeated
      exact fresh other before same
    | empty _ nothing => exact something nothing
    | decision _ _ forbidden => rw [permitted] at forbidden; cases forbidden
    | condition _ _ first => exact (unlisted_iff conditions e.conditions).mpr listed err first

theorem not_fault_iff (c : Config) : (∀ err, ¬c.Fault err) ↔ Faultless FieldFault c.fields ∧
    Faultless (ConditionFault c.fields) c.conditions ∧ Faultless (RuleFault c.conditions) c.rules := by
  constructor
  · intro clean
    have fields : Faultless FieldFault c.fields :=
      faultless_iff.mpr fun err first => clean err (.field first)
    have conditions : Faultless (ConditionFault c.fields) c.conditions :=
      faultless_iff.mpr fun err first => clean err (.condition fields first)
    exact ⟨fields,conditions,faultless_iff.mpr fun err first => clean err (.rule fields conditions first)⟩
  · rintro ⟨fields,conditions,rules⟩ err fault
    cases fault with
    | field first => exact faultless_iff.mp fields err first
    | condition _ first => exact faultless_iff.mp conditions err first
    | rule _ _ first => exact faultless_iff.mp rules err first

/-- Nothing is wrong with a configuration exactly when it is well-formed. -/
theorem wellFormed_iff (c : Config) : c.WellFormed ↔ ∀ err, ¬c.Fault err := by
  rw [not_fault_iff,faultless_iff_nodup fieldFault_iff,
    faultless_iff_nodup (conditionFault_iff c.fields),faultless_iff_nodup (ruleFault_iff c.conditions)]
  simp only [ConditionEntry.unreadable_iff]
  constructor
  · intro good
    refine ⟨⟨good.fields,fun _ _ => trivial⟩,⟨good.conditions,?_⟩,good.rules,?_⟩
    · intro e listed
      exact ⟨⟨good.operators e listed,good.modes e listed⟩,good.sampled e listed⟩
    · intro e listed
      exact ⟨good.conditioned e listed,good.permitted e listed,good.defined e listed⟩
  · rintro ⟨⟨fields,_⟩,⟨conditions,each⟩,rules,fine⟩
    exact ⟨fields,conditions,fun e listed => (each e listed).1.1,fun e listed => (each e listed).1.2,
      fun e listed => (each e listed).2,rules,fun e listed => (fine e listed).1,
      fun e listed => (fine e listed).2.2,fun e listed => (fine e listed).2.1⟩

end Config

/-- A map holds what the entries of a list are read as, each under its name, and nothing else. -/
structure Indexes (m : Std.ExtTreeMap String β) (name : α → String) (reads : α → β → Prop) (l : List α) :
    Prop where
  found : ∀ (key : String) (b : β), m[key]? = some b ↔ ∃ a ∈ l, name a = key ∧ reads a b
  readable : ∀ a ∈ l, ∃ b, reads a b

namespace Indexes

variable {m : Std.ExtTreeMap String β} {name : α → String} {reads : α → β → Prop} {l : List α}

theorem empty : Indexes (∅ : Std.ExtTreeMap String β) name reads [] := by
  constructor
  · simp
  · simp

theorem contains_iff (indexes : Indexes m name reads l) (key : String) :
    m.contains key = true ↔ ∃ a ∈ l, name a = key := by
  rw [Std.ExtTreeMap.contains_eq_isSome_getElem?,Option.isSome_iff_exists]
  constructor
  · rintro ⟨b,found⟩
    obtain ⟨a,member,same,_⟩ := (indexes.found key b).mp found
    exact ⟨a,member,same⟩
  · rintro ⟨a,member,same⟩
    obtain ⟨b,read⟩ := indexes.readable a member
    exact ⟨b,(indexes.found key b).mpr ⟨a,member,same,read⟩⟩

theorem not_contains_iff (indexes : Indexes m name reads l) (key : String) :
    m.contains key = false ↔ ∀ a ∈ l, name a ≠ key := by
  rw [← Bool.not_eq_true,indexes.contains_iff]
  simp

/-- An entry of a new name joins the list when what it is read as joins the map. -/
theorem insert (indexes : Indexes m name reads l) (read : reads a b) (only : ∀ other, reads a other → other = b)
    (fresh : m.contains (name a) = false) : Indexes (m.insert (name a) b) name reads (l ++ [a]) := by
  constructor
  · intro key other
    by_cases same : name a = key
    · subst same
      simp only [Std.ExtTreeMap.getElem?_insert_self,Option.some.injEq]
      constructor
      · rintro rfl
        exact ⟨a,by simp,rfl,read⟩
      · rintro ⟨earlier,member,named,reads⟩
        rcases List.mem_append.mp member with before | last
        · exact absurd named ((indexes.not_contains_iff _).mp fresh earlier before)
        · cases List.mem_singleton.mp last
          exact (only other reads).symm
    · rw [getElem?_insert_ne same,indexes.found]
      simp [or_and_right,exists_or,same]
  · intro other member
    rcases List.mem_append.mp member with before | last
    · exact indexes.readable other before
    · cases List.mem_singleton.mp last
      exact ⟨b,read⟩

end Indexes

namespace Catalog

/-- A catalog holds the definitions of lists with all they say. A rule is associated with the targets it
is listed with, and with no other; either side tells the same. -/
structure Lists (c : Catalog) (fields : List Field) (conditions : List Config.ConditionEntry)
    (rules : List Config.RuleEntry) : Prop where
  field : Indexes c.fields (·.name) (fun entry f => f = entry) fields
  condition : Indexes c.conditions (·.name) Config.ConditionEntry.Reads conditions
  rule : Indexes c.rules (·.name) (fun entry r => r = ruleOf entry) rules
  targetsOf : ∀ name target, target ∈ c.targetsOf name ↔ ∃ e ∈ rules, e.name = name ∧ target ∈ e.targets
  rulesOf : ∀ name target, name ∈ c.rulesOf target ↔ ∃ e ∈ rules, e.name = name ∧ target ∈ e.targets

variable {c : Catalog} {fields : List Field} {conditions : List Config.ConditionEntry}
  {rules : List Config.RuleEntry}

theorem lists_empty : empty.Lists [] [] [] := by
  refine ⟨.empty,.empty,.empty,?_,?_⟩
  · simp [targetsOf,Links.names,Links.linked,empty]
  · simp [rulesOf,Links.names,Links.linked,empty]

theorem addField_checks (lists : c.Lists fields conditions rules) (f : Field) :
    Checks (c.addField f) (fun next => next.Lists (fields ++ [f]) conditions rules)
      (Config.FieldFault fields f) := by
  unfold addField
  refine Checks.congr (Checks.guard fun absent => Checks.ok ?_ fun _ => not_false) ?_
  · exact { lists with
      field := lists.field.insert rfl (fun _ same => same) (Bool.eq_false_of_not_eq_true absent) }
  · intro err
    rw [lists.field.contains_iff]
    constructor
    · rintro ⟨repeated⟩
      exact .inl ⟨repeated,rfl⟩
    · rintro (⟨repeated,rfl⟩ | ⟨_,impossible⟩)
      · exact .duplicate repeated
      · exact impossible.elim

/-- Known words leave no choice of what an entry is read as. -/
theorem reads_iff {e : Config.ConditionEntry} {op : Operator} {mode : ValueMode}
    (operator : ∀ other : Operator, Text.Spells e.operator other.symbol ↔ other = op)
    (chosen : ∀ other : ValueMode,
      e.valueMode.elim (other = .effective) (Text.Spells · other.name) ↔ other = mode) (d : Condition) :
    e.Reads d ↔ d = ⟨e.name,e.field,op,e.value,mode⟩ := by
  constructor
  · rintro ⟨name,field,value,spelled,moded⟩
    rw [operator] at spelled
    rw [chosen] at moded
    cases d
    simp_all
  · rintro rfl
    exact ⟨rfl,rfl,rfl,(operator op).mpr rfl,(chosen mode).mpr rfl⟩

theorem readCondition_checks (e : Config.ConditionEntry) :
    Checks (readCondition e) (fun d => ∀ other, e.Reads other ↔ other = d) e.Unreadable := by
  rcases Operator.parse_cases e.operator with ⟨op,parsed,operator⟩ | ⟨failed,unknown⟩
  · have known : ∃ op : Operator, Text.Spells e.operator op.symbol := ⟨op,(operator op).mpr rfl⟩
    cases given : e.valueMode with
    | none =>
      simp only [readCondition,parsed,given]
      refine .ok (reads_iff operator fun other => by simp [given]) ?_
      rintro _ (unknown | ⟨text,_,written,_⟩)
      · exact unknown op ((operator op).mpr rfl)
      · rw [given] at written; cases written
    | some text =>
      rcases ValueMode.parse_cases text with ⟨mode,read,spelled⟩ | ⟨failed,unknown⟩
      · simp only [readCondition,parsed,given,read]
        refine .ok (reads_iff operator fun other => by simpa [given] using spelled other) ?_
        rintro _ (unknown | ⟨other,_,written,unknown⟩)
        · exact unknown op ((operator op).mpr rfl)
        · cases given.symm.trans written
          exact unknown mode ((spelled mode).mpr rfl)
      · simp only [readCondition,parsed,given,failed]
        apply Checks.error (.mode text known given unknown)
        rintro _ (unknown | ⟨other,_,written,_⟩)
        · exact absurd ((operator op).mpr rfl) (unknown op)
        · cases given.symm.trans written
          rfl
  · simp only [readCondition,failed]
    apply Checks.error (.operator unknown)
    rintro _ (_ | ⟨text,⟨op,spelled⟩,_,_⟩)
    · rfl
    · exact absurd spelled (unknown op)

theorem addCondition_checks (lists : c.Lists fields conditions rules)
    {e : Config.ConditionEntry} (reads : ∀ other, e.Reads other ↔ other = d) :
    Checks (c.addCondition d) (fun next => next.Lists fields (conditions ++ [e]) rules) fun err =>
      ((∀ f ∈ fields, f.name ≠ e.field) ∧ err = .unknownField e.field) ∨
      ((∃ f ∈ fields, f.name = e.field) ∧ (∃ other ∈ conditions, other.name = e.name) ∧
        err = .duplicate .condition e.name) := by
  have read : e.Reads d := (reads d).mpr rfl
  unfold addCondition
  rw [read.field,read.name]
  refine Checks.congr (Checks.guard fun _ => Checks.guard fun absent => Checks.ok ?_ fun _ => not_false) ?_
  · exact { lists with
      condition := lists.condition.insert read (fun other => (reads other).mp)
        (Bool.eq_false_of_not_eq_true absent) }
  · intro err
    rw [lists.condition.contains_iff,Bool.not_eq_true',Bool.not_eq_false,lists.field.contains_iff,
      lists.field.not_contains_iff]
    simp

theorem loadCondition_checks (lists : c.Lists fields conditions rules) (e : Config.ConditionEntry) :
    Checks (loadCondition c e) (fun next => next.Lists fields (conditions ++ [e]) rules)
      (Config.ConditionFault fields conditions e) := by
  have both := (readCondition_checks e).bind fun d reads => addCondition_checks lists reads
  apply both.congr
  intro err
  constructor
  · intro fault
    cases fault with
    | unreadable found => exact .inl found
    | field readable unlisted => exact .inr ⟨readable,.inl ⟨unlisted,rfl⟩⟩
    | duplicate readable listed repeated => exact .inr ⟨readable,.inr ⟨listed,repeated,rfl⟩⟩
  · rintro (found | ⟨readable,⟨unlisted,rfl⟩ | ⟨listed,repeated,rfl⟩⟩)
    · exact .unreadable found
    · exact .field readable unlisted
    · exact .duplicate readable listed repeated

/-- Looking up the names of conditions stops at the first that is not listed. -/
theorem unlisted_checks {good : Catalog → Prop} (lists : c.Lists fields conditions rules)
    (names : List String) (holds : good next) :
    Checks (match names.find? (!c.conditions.contains ·) with
      | some missing => .error (.unknownCondition missing)
      | none => .ok next) good (FirstFault (Config.UnlistedFault conditions) names) := by
  have listed_iff : ∀ name, (!c.conditions.contains name) = false ↔ ∃ d ∈ conditions, d.name = name := by
    intro name
    rw [← lists.condition.contains_iff name,Bool.not_eq_false']
  have unlisted_iff : ∀ name, (!c.conditions.contains name) = true ↔ ∀ d ∈ conditions, d.name ≠ name := by
    intro name
    rw [← lists.condition.not_contains_iff name,Bool.not_eq_true']
  cases found : names.find? (!c.conditions.contains ·) with
  | none =>
    refine .ok holds ((Config.unlisted_iff conditions names).mpr ?_)
    intro name member
    exact (listed_iff name).mp (Bool.eq_false_of_not_eq_true (List.find?_eq_none.mp found name member))
  | some missing =>
    obtain ⟨absent,known,rest,split,listed⟩ := List.find?_eq_some_iff_append.mp found
    have clean : Faultless (Config.UnlistedFault conditions) known := by
      rw [faultless_iff,Config.unlisted_iff]
      intro name member
      exact (listed_iff name).mp (by simpa using listed name member)
    apply Checks.error ⟨known,missing,rest,split,clean,(unlisted_iff missing).mp absent,rfl⟩
    rintro err ⟨before,name,after,split,clean,unlisted,rfl⟩
    rw [faultless_iff,Config.unlisted_iff] at clean
    have first : names.find? (!c.conditions.contains ·) = some name := by
      refine List.find?_eq_some_iff_append.mpr ⟨(unlisted_iff name).mpr unlisted,before,after,split,?_⟩
      intro earlier member
      rw [(listed_iff earlier).mpr (clean earlier member)]
      rfl
    cases found.symm.trans first
    rfl

theorem addRule_checks (lists : c.Lists fields conditions rules) (e : Config.RuleEntry) :
    Checks (c.addRule (ruleOf e)) (fun next => next = { c with rules := c.rules.insert e.name (ruleOf e) } ∧
        Indexes next.rules (·.name) (fun entry r => r = ruleOf entry) (rules ++ [e]))
      (Config.RuleFault conditions rules e) := by
  unfold addRule
  refine Checks.congr (Checks.guard fun absent => Checks.guard fun _ => Checks.guard fun _ =>
    unlisted_checks lists e.conditions ⟨rfl,?_⟩) ?_
  · exact lists.rule.insert rfl (fun _ same => same) (Bool.eq_false_of_not_eq_true absent)
  · intro err
    -- The checks in the order in which they are made, each after the others have passed.
    change _ ↔ (c.rules.contains e.name = true ∧ _) ∨ (¬c.rules.contains e.name = true ∧
      ((e.conditions = [] ∧ _) ∨ (¬e.conditions = [] ∧
        (((!e.decision.isValidFor e.kind) = true ∧ _) ∨ (¬(!e.decision.isValidFor e.kind) = true ∧ _)))))
    have fresh_iff : (¬∃ other ∈ rules, other.name = e.name) ↔ ∀ other ∈ rules, other.name ≠ e.name := by
      simp
    rw [lists.rule.contains_iff,fresh_iff,Bool.not_eq_true',Bool.not_eq_false]
    constructor
    · intro fault
      cases fault with
      | duplicate repeated => exact .inl ⟨repeated,rfl⟩
      | empty fresh nothing => exact .inr ⟨fresh,.inl ⟨nothing,rfl⟩⟩
      | decision fresh something forbidden => exact .inr ⟨fresh,.inr ⟨something,.inl ⟨forbidden,rfl⟩⟩⟩
      | condition fresh permitted first =>
        have something : e.conditions ≠ [] := by
          obtain ⟨before,name,after,split,_⟩ := first
          simp [split]
        exact .inr ⟨fresh,.inr ⟨something,.inr ⟨permitted,first⟩⟩⟩
    · rintro (⟨repeated,rfl⟩ | ⟨fresh,⟨nothing,rfl⟩ | ⟨something,⟨forbidden,rfl⟩ | ⟨permitted,first⟩⟩⟩)
      · exact .duplicate repeated
      · exact .empty fresh nothing
      · exact .decision fresh something forbidden
      · exact .condition fresh permitted first

/-- Associating a rule that is there with targets, one after the other, goes through and adds these
pairs. -/
theorem associate_targets {name : String} (known : c.rules.contains name = true) (targets : List String) :
    ∃ next : Catalog, targets.foldlM (fun c target => (·.2) <$> c.associate name target) c = .ok next ∧
      next.fields = c.fields ∧ next.conditions = c.conditions ∧ next.rules = c.rules ∧
      (∀ rule target, target ∈ next.targetsOf rule ↔
        target ∈ c.targetsOf rule ∨ name = rule ∧ target ∈ targets) ∧
      ∀ rule target, rule ∈ next.rulesOf target ↔ rule ∈ c.rulesOf target ∨ name = rule ∧ target ∈ targets := by
  induction targets generalizing c with
  | nil => exact ⟨c,rfl,rfl,rfl,rfl,by simp,by simp⟩
  | cons first targets ih =>
    let linked : Catalog :=
      { c with
        targetsOfRule := c.targetsOfRule.link name first
        rulesOfTarget := c.rulesOfTarget.link first name }
    have step : (·.2) <$> c.associate name first = .ok linked := by
      simp only [associate,known]
      rfl
    obtain ⟨next,done,kept_fields,kept_conditions,kept_rules,targetsOf_iff,rulesOf_iff⟩ :=
      ih (c := linked) known
    refine ⟨next,?_,kept_fields,kept_conditions,kept_rules,?_,?_⟩
    · rw [List.foldlM_cons,step]
      exact done
    · intro rule target
      rw [targetsOf_iff,targetsOf,targetsOf,Links.mem_names_iff,Links.mem_names_iff,
        Links.contains_link_iff,List.mem_cons]
      grind
    · intro rule target
      rw [rulesOf_iff,rulesOf,rulesOf,Links.mem_names_iff,Links.mem_names_iff,
        Links.contains_link_iff,List.mem_cons]
      grind

theorem exists_listed_concat {e : Config.RuleEntry} {name target : String} :
    (∃ other ∈ rules, other.name = name ∧ target ∈ other.targets) ∨ e.name = name ∧ target ∈ e.targets ↔
      ∃ other ∈ rules ++ [e], other.name = name ∧ target ∈ other.targets := by
  simp [or_and_right,exists_or]

theorem loadRule_checks (lists : c.Lists fields conditions rules) (e : Config.RuleEntry) :
    Checks (loadRule c e) (fun next : Catalog => next.Lists fields conditions (rules ++ [e]))
      (Config.RuleFault conditions rules e) := by
  have associates : ∀ added : Catalog, (added = { c with rules := c.rules.insert e.name (ruleOf e) } ∧
      Indexes added.rules (·.name) (fun entry r => r = ruleOf entry) (rules ++ [e])) →
      Checks (e.targets.foldlM (fun c target => (·.2) <$> c.associate e.name target) added)
        (fun next : Catalog => next.Lists fields conditions (rules ++ [e])) fun _ => False := by
    rintro _ ⟨rfl,indexes⟩
    have known : (c.rules.insert e.name (ruleOf e)).contains e.name = true := by simp
    obtain ⟨next,done,kept_fields,kept_conditions,kept_rules,targetsOf_iff,rulesOf_iff⟩ :=
      associate_targets (c := { c with rules := c.rules.insert e.name (ruleOf e) }) known e.targets
    rw [done]
    refine .ok ⟨?_,?_,?_,?_,?_⟩ fun _ => not_false
    · rw [kept_fields]; exact lists.field
    · rw [kept_conditions]; exact lists.condition
    · rw [kept_rules]; exact indexes
    · intro name target
      rw [targetsOf_iff,← exists_listed_concat]
      exact or_congr_left (lists.targetsOf name target)
    · intro name target
      rw [rulesOf_iff,← exists_listed_concat]
      exact or_congr_left (lists.rulesOf name target)
  apply ((addRule_checks lists e).bind associates).congr
  simp

/-- Loading a configuration checks it. -/
theorem load_checks (config : Config) :
    Checks (load config) (fun c : Catalog => c.Lists config.fields config.conditions config.rules)
      config.Fault := by
  have fields := checks_foldlM (fun fields (c : Catalog) => c.Lists fields [] []) lists_empty
    (fun _ f _ lists => addField_checks lists f) config.fields
  have conditions : ∀ c : Catalog, c.Lists config.fields [] [] → Checks _ _ _ := fun c lists =>
    checks_foldlM (fun conditions (c : Catalog) => c.Lists config.fields conditions []) lists
      (fun _ e _ lists => loadCondition_checks lists e) config.conditions
  have rules : ∀ c : Catalog, c.Lists config.fields config.conditions [] → Checks _ _ _ := fun c lists =>
    checks_foldlM (fun rules (c : Catalog) => c.Lists config.fields config.conditions rules) lists
      (fun _ e _ lists => loadRule_checks lists e) config.rules
  apply (fields.bind fun c lists => (conditions c lists).bind rules).congr
  intro err
  simp only [← faultless_iff]
  constructor
  · intro fault
    cases fault with
    | field first => exact .inl first
    | condition clean first => exact .inr ⟨clean,.inl first⟩
    | rule clean fine first => exact .inr ⟨clean,.inr ⟨fine,first⟩⟩
  · rintro (first | ⟨clean,first | ⟨fine,first⟩⟩)
    · exact .field first
    · exact .condition clean first
    · exact .rule clean fine first

/-- A catalog is loaded exactly when the configuration is well-formed. It then holds the listed
definitions with all they say, and each rule is associated with the targets it is listed with and with
no others. Otherwise what is told is what is wrong with the first definition that is. -/
theorem load_exact (config : Config) :
    ((∃ c, load config = .ok c) ↔ config.WellFormed) ∧
    (∀ c, load config = .ok c → c.Lists config.fields config.conditions config.rules) ∧
    ∀ err, load config = .error err ↔ config.Fault err := by
  have checks := load_checks config
  exact ⟨checks.ok_iff.trans config.wellFormed_iff.symm,fun c done => checks.good_of_ok done,
    fun err => checks.error_iff⟩

end Catalog

end GeoFleet
