import GeoFleet.Proofs.Catalog.Meaning
import GeoFleet.Proofs.Rule.Arbitration

/-! Conditions that a rule lists more than once. Whether the rule fires, and which values it matched, is up
to the set of its conditions. The sum is not: a value counts once for each time that its condition is
listed. So a rule can lose to another one because it says something twice. -/
namespace GeoFleet

def Score.total (values : List Float) : Score := values.foldl Score.add (.sum 0.0)

def Verdict.outcome (v : Verdict) : Decision × Option String := (v.decision,v.winner.map (·.rule))

namespace Match

variable {s : Snapshot} {ds : List Condition} {m out : Match}

/-- What matching conditions one after another adds to what was matched before. -/
structure Adds (s : Snapshot) (m : Match) (ds : List Condition) (out : Match) : Prop where
  score : out.score = (ds.filterMap fun d => d.matched? s).foldl Score.add m.score
  keys : ∀ key, key ∈ out.values ↔ key ∈ m.values ∨ ∃ d ∈ ds, d.key = key
  read : m.ReadFrom s → out.ReadFrom s

theorem adds_of_foldlM (done : ds.foldlM (add? s) m = some out) : m.Adds s ds out := by
  induction ds generalizing m with
  | nil => cases done; exact ⟨rfl,by simp,id⟩
  | cons d ds ih =>
    rw [List.foldlM_cons] at done
    obtain ⟨next,added,rest⟩ := Option.bind_eq_some_iff.mp done
    have later := ih rest
    refine ⟨?_,?_,fun valid => later.read (add?_readFrom valid added)⟩
    all_goals obtain ⟨v,matched,rfl⟩ := Option.map_eq_some_iff.mp added
    · simp [later.score,matched]
    · simp [later.keys,or_left_comm,or_assoc]

theorem foldlM_add?_isSome_iff :
    (ds.foldlM (add? s) m).isSome = true ↔ ∀ d ∈ ds, (d.matched? s).isSome = true := by
  induction ds generalizing m with
  | nil => simp
  | cons d ds ih =>
    rw [List.foldlM_cons]
    cases matched : d.matched? s with
    | none => simp [add?,matched]
    | some v => simpa [add?,matched] using ih

/-- Values that were read from one snapshot under the same keys are the same. -/
theorem ReadFrom.values_eq {other : Match} (left : m.ReadFrom s) (right : other.ReadFrom s)
    (keys : ∀ key, key ∈ m.values ↔ key ∈ other.values) : m.values = other.values := by
  apply Std.ExtTreeMap.ext_getElem?
  intro key
  cases found : m.values[key]? with
  | none =>
    have absent : key ∉ other.values := by
      rw [← keys,Std.ExtTreeMap.mem_iff_isSome_getElem?,found]; simp
    rw [Std.ExtTreeMap.getElem?_eq_none absent]
  | some v =>
    have present : key ∈ other.values := by
      rw [← keys,Std.ExtTreeMap.mem_iff_isSome_getElem?,found]; rfl
    rw [Std.ExtTreeMap.mem_iff_isSome_getElem?] at present
    obtain ⟨w,again⟩ := Option.isSome_iff_exists.mp present
    rw [again,← left key v found,right key w again]

theorem empty_readFrom (s : Snapshot) : empty.ReadFrom s := by
  intro key v found
  simp [empty] at found

end Match

namespace ResolvedRule

variable {r : ResolvedRule} {again : List Condition} {target : String} {s : Snapshot}

/-- The values that the conditions of a rule match, each as often as it is listed. -/
def readings (r : ResolvedRule) (s : Snapshot) : List Float := r.conditions.filterMap fun d => d.matched? s

theorem fire?_isSome_iff : (r.fire? target s).isSome = true ↔
    r.conditions ≠ [] ∧ ∀ d ∈ r.conditions, (d.matched? s).isSome = true := by
  rw [fire?]
  split
  · rename_i empty; simp [empty]
  · rename_i some_listed
    rw [Option.isSome_map,Match.foldlM_add?_isSome_iff]
    simp [some_listed]

theorem fire?_eq_some {x : Candidate} (fired : r.fire? target s = some x) :
    ∃ m, Match.empty.Adds s r.conditions m ∧
      x = ⟨target,r.decision,r.name,m.values,r.priority,m.score⟩ := by
  rw [fire?] at fired
  split at fired
  · cases fired
  · obtain ⟨m,matched,rfl⟩ := Option.map_eq_some_iff.mp fired
    exact ⟨m,Match.adds_of_foldlM matched,rfl⟩

theorem score_of_fire? {x : Candidate} (fired : r.fire? target s = some x) :
    x.score = Score.total (r.readings s) := by
  obtain ⟨m,adds,rfl⟩ := fire?_eq_some fired
  exact adds.score

/-- A rule that lists the same conditions otherwise fires with the same values, and with the sum of all
values that it lists. -/
theorem fire?_relisted (same : ∀ d, d ∈ again ↔ d ∈ r.conditions) (target : String) (s : Snapshot) :
    fire? { r with conditions := again } target s = (r.fire? target s).map fun x =>
      { x with score := Score.total (readings { r with conditions := again } s) } := by
  have together : (fire? { r with conditions := again } target s).isSome = (r.fire? target s).isSome := by
    rw [Bool.eq_iff_iff,fire?_isSome_iff,fire?_isSome_iff]
    simp only [ne_eq,List.eq_nil_iff_forall_not_mem,same]
  cases fired : r.fire? target s with
  | none => simpa [fired] using together
  | some x =>
    rw [fired] at together
    obtain ⟨y,refired⟩ := Option.isSome_iff_exists.mp together
    rw [refired]
    have score := score_of_fire? refired
    obtain ⟨m,adds,rfl⟩ := fire?_eq_some fired
    obtain ⟨n,adds',rfl⟩ := fire?_eq_some refired
    have values : n.values = m.values := by
      refine (adds'.read (Match.empty_readFrom s)).values_eq (adds.read (Match.empty_readFrom s)) ?_
      intro key
      simp only [adds'.keys,adds.keys,same]
    rw [values]
    simp only [Option.map_some]
    rw [← score]

theorem fire?_renamed (name : String) :
    fire? { r with name } target s = (r.fire? target s).map fun x => { x with rule := name } := by
  simp only [fire?]
  split
  · rfl
  · rw [Option.map_map]; rfl

end ResolvedRule

theorem compare_append_self (n : String) {suffix : String} (more : suffix ≠ "") : compare n (n ++ suffix) = .lt := by
  refine compareOfLessAndEq_eq_lt.mpr (String.lt_iff.mpr ?_)
  obtain ⟨c,cs,same⟩ := List.exists_cons_of_ne_nil (mt String.toList_eq_nil_iff.mp more)
  have longer : n.toList ++ [] < n.toList ++ c :: cs := List.append_left_lt (List.nil_lt_cons c cs)
  rwa [List.append_nil,← same,← String.toList_append] at longer

namespace Candidate

variable {x : Candidate} {score : Score} {suffix : String}

theorem order_namesake (more : suffix ≠ "") : x.order { x with rule := x.rule ++ suffix } = .lt := by
  simp [order,compare_append_self x.rule more,Std.ReflCmp.compare_self]

/-- A candidate of a longer name comes after one that is like it, and before it once the sum grows. -/
theorem outcome_namesake (more : suffix ≠ "") (grown : x.score.rank < score.rank) :
    (arbitrate [x,{ x with rule := x.rule ++ suffix }]).outcome = (x.decision,some x.rule) ∧
      (arbitrate [{ x with score },{ x with rule := x.rule ++ suffix }]).outcome =
        (x.decision,some (x.rule ++ suffix)) := by
  have behind : ¬order { x with rule := x.rule ++ suffix } x = .lt :=
    isLE_order_iff.mp (by rw [order_namesake more]; rfl)
  have ahead : order { x with rule := x.rule ++ suffix } { x with score } = .lt := by
    have less : compare x.score.rank score.rank = .lt := Int.compare_eq_lt.mpr grown
    simp [order,less]
  constructor
  · simp [arbitrate,least?,better,behind,Verdict.outcome]
  · simp [arbitrate,least?,better,ahead,Verdict.outcome]

end Candidate

namespace ResolvedRule

variable {r r' : ResolvedRule} {again : List Condition} {target : String} {s : Snapshot}

/-- One rule in the place of another changes no outcome, whichever other rules there are. -/
def Interchangeable (r r' : ResolvedRule) (target : String) (s : Snapshot) : Prop :=
  ∀ first rest : List ResolvedRule, ((first ++ r :: rest).map (·.name)).Nodup →
    (arbitrate (fireAll (first ++ r' :: rest) target s)).outcome =
      (arbitrate (fireAll (first ++ r :: rest) target s)).outcome

theorem Interchangeable.symm (alike : Interchangeable r r' target s) (name : r'.name = r.name) :
    Interchangeable r' r target s := by
  intro first rest distinct
  exact (alike first rest (by simpa [name] using distinct)).symm

theorem Interchangeable.of_fire?_eq (same : r'.fire? target s = r.fire? target s) :
    Interchangeable r r' target s := by
  intro first rest _
  simp only [fireAll,List.filterMap_append,List.filterMap_cons,same]

/-- A rule whose sum grows loses to a namesake that it came before. -/
theorem Interchangeable.not_grown {x : Candidate} {score : Score} (alike : Interchangeable r r' target s)
    (fired : r.fire? target s = some x) (fired' : r'.fire? target s = some { x with score }) :
    ¬x.score.rank < score.rank := by
  intro grown
  have plus : "+" ≠ "" := by decide
  have name : x.rule = r.name := (fire?_sound fired).1
  have rival : fire? { r with name := x.rule ++ "+" } target s = some { x with rule := x.rule ++ "+" } := by
    rw [fire?_renamed,fired]; rfl
  have more : x.rule ≠ x.rule ++ "+" := by
    intro same
    have less := compare_append_self x.rule plus
    rw [← same] at less
    simp at less
  have outcomes := alike [] [{ r with name := x.rule ++ "+" }] (by simpa [name] using more)
  obtain ⟨wins,loses⟩ := Candidate.outcome_namesake plus grown
  simp only [fireAll,List.nil_append,List.filterMap_cons,List.filterMap_nil,fired,fired',rival] at outcomes
  rw [wins,loses] at outcomes
  exact more (Option.some.inj (congrArg Prod.snd outcomes)).symm

/-- Rules that list the same conditions are interchangeable as long as their values add up to the same. -/
theorem interchangeable_iff (same : ∀ d, d ∈ again ↔ d ∈ r.conditions) :
    Interchangeable r { r with conditions := again } target s ↔ ((r.fire? target s).isSome = true →
      Score.total (readings { r with conditions := again } s) = Score.total (r.readings s)) := by
  have relisted := fire?_relisted same target s
  constructor
  · intro alike holds
    obtain ⟨x,fired⟩ := Option.isSome_iff_exists.mp holds
    rw [fired,Option.map_some] at relisted
    rw [← score_of_fire? fired]
    generalize Score.total (readings { r with conditions := again } s) = score at relisted
    have lower := alike.not_grown fired relisted
    have upper : ¬score.rank < x.score.rank := (alike.symm rfl).not_grown relisted fired
    have level : score.rank = x.score.rank := by omega
    exact congrArg Score.mk (Magnitude.rankOfBits_injective level)
  · intro equal
    apply Interchangeable.of_fire?_eq
    rw [relisted]
    cases fired : r.fire? target s with
    | none => rfl
    | some x => simp [equal (by rw [fired]; rfl),← score_of_fire? fired]

end ResolvedRule

/-- Accepting a rule asks for conditions that are defined, not for different ones. -/
theorem Catalog.addRule_accepts_iff {c : Catalog} {r : Rule} : (∃ next, c.addRule r = .ok next) ↔
    c.rules.contains r.name = false ∧ r.conditions ≠ [] ∧ r.decision.isValidFor r.kind = true ∧
      ∀ condition ∈ r.conditions, c.conditions.contains condition = true := by
  unfold addRule
  split
  · rename_i taken
    simp only [taken,reduceCtorEq,exists_false,Bool.true_eq_false,false_and]
  · rename_i free
    split
    · rename_i empty
      simp [empty]
    · rename_i conditioned
      split
      · rename_i invalid
        simp only [Bool.not_eq_true'] at invalid
        simp [invalid]
      · rename_i valid
        simp only [Bool.not_eq_true',Bool.not_eq_false] at valid
        cases missing : r.conditions.find? (!c.conditions.contains ·) with
        | none =>
          rw [List.find?_eq_none] at missing
          simp [-Std.ExtTreeMap.contains_iff_mem] at free missing ⊢
          exact ⟨free,conditioned,valid,missing⟩
        | some d =>
          have listed := List.mem_of_find?_eq_some missing
          have absent := List.find?_some missing
          simp only [reduceCtorEq,exists_false,false_iff]
          rintro ⟨_,_,_,defined⟩
          simp [defined d listed] at absent

/-- A rule that lists its conditions otherwise, some of them once more for example, is accepted in the same
cases, fires in the same cases and matches the same values. Its sum is that of all the values that it lists,
and other rules notice nothing exactly when it stays the same. -/
theorem ResolvedRule.relisted_agrees_iff (r : ResolvedRule) (again : List Condition)
    (same : ∀ d, d ∈ again ↔ d ∈ r.conditions) (target : String) (s : Snapshot) :
    let r' := { r with conditions := again }
    r'.fire? target s = (r.fire? target s).map (fun x => { x with score := .total (r'.readings s) }) ∧
    (∀ x, r.fire? target s = some x → x.score = .total (r.readings s)) ∧
    (Interchangeable r r' target s ↔
      ((r.fire? target s).isSome = true → Score.total (r'.readings s) = Score.total (r.readings s))) ∧
    ∀ (c : Catalog) (rule : Rule) (names : List String), (∀ n, n ∈ names ↔ n ∈ rule.conditions) →
      ((∃ next, c.addRule { rule with conditions := names } = .ok next) ↔ ∃ next, c.addRule rule = .ok next) := by
  refine ⟨fire?_relisted same target s,fun x fired => score_of_fire? fired,interchangeable_iff same,?_⟩
  intro c rule names alike
  simp only [Catalog.addRule_accepts_iff,ne_eq,List.eq_nil_iff_forall_not_mem,alike]

/-- A condition that matches zero can be listed twice. -/
theorem ResolvedRule.idle_twice_agrees :
    let idle : Condition := ⟨"idle","load",.lessOrEqual,0.5,.effective⟩
    let r : ResolvedRule := ⟨"drain",.host,1,.stop,[idle]⟩
    (∀ d, d ∈ [idle,idle] ↔ d ∈ r.conditions) ∧
      Interchangeable r { r with conditions := [idle,idle] } "10.0.0.1" (Std.ExtTreeMap.empty.insert "load" 0.0) := by
  intro idle r
  have same : ∀ d, d ∈ [idle,idle] ↔ d ∈ r.conditions := by simp [r]
  obtain ⟨_,_,agrees,_⟩ := relisted_agrees_iff r [idle,idle] same "10.0.0.1" (Std.ExtTreeMap.empty.insert "load" 0.0)
  exact ⟨same,agrees.mpr fun _ => by decide +kernel⟩

def rulesBeside (conditions : List String) : Except DefinitionError (List ResolvedRule) := do
  let c ← Catalog.empty.addField ⟨"cpu",none⟩
  let c ← c.addField ⟨"memory",none⟩
  let c ← c.addCondition ⟨"hot","cpu",.greater,80.0,.effective⟩
  let c ← c.addCondition ⟨"full","memory",.greater,95.0,.effective⟩
  let c ← c.addRule ⟨"move",.container,1,.migrate,true,conditions⟩
  let c ← c.addRule ⟨"spread",.container,1,.replicate,true,["full"]⟩
  c.rulesFor (.ofContainer "web-1" "web" none ⟨none,"10.0.0.1",none,none,.europe⟩)

/-- A container that is hotter than it should be moves, and does not once its rule says so twice. -/
theorem hot_twice_is_outbid :
    let s : Snapshot := (Std.ExtTreeMap.empty.insert "cpu" 90.0).insert "memory" 100.0
    let outcome := fun rules => (arbitrate (fireAll rules "web-1" s)).outcome
    (rulesBeside ["hot"]).toOption.map outcome = some (.migrate,some "move") ∧
      (rulesBeside ["hot","hot"]).toOption.map outcome = some (.replicate,some "spread") := by
  decide +kernel

end GeoFleet
