import GeoFleet.Proofs.Catalog.Meaning
import GeoFleet.Proofs.Magnitude
import GeoFleet.Proofs.Rounding.Packing
import GeoFleet.Proofs.Rule.Arbitration

/-! What the rules say. A rule of the catalog that applies to a target bids for it when all its conditions
hold of a snapshot, and the least bid decides. Resolving rules, firing them and arbitrating among candidates
comes to that: no bid is lost on the way, and none is added. -/
namespace GeoFleet

open Magnitude (IsNumber isNumber_of_add isNumber_of_foldl_add)

namespace Score

theorem value_sum (x : Float) : (sum x).value = x := Rounding.ofBits_toBits x

theorem add_sum {x y : Float} (number : IsNumber (x + y)) : (sum x).add y = sum (x + y) := by
  have before : x.isNaN = false := isNumber_of_add number
  have after : (x + y).isNaN = false := number
  simp only [add,value_sum,before,after,Bool.false_eq_true,false_and,if_false]

/-- Values whose sum is a number are added up as doubles are. -/
theorem foldl_add_sum {values : List Float} {x : Float} (number : IsNumber (values.foldl (· + ·) x)) :
    values.foldl add (sum x) = sum (values.foldl (· + ·) x) := by
  induction values generalizing x with
  | nil => rfl
  | cons v values ih =>
    rw [List.foldl_cons,add_sum (isNumber_of_foldl_add number)]
    exact ih number

end Score

def Target.nameFor (t : Target) : Kind → Option String
  | .host => some t.host.publicAddress
  | .container => some t.id
  | .service => t.service
  | .app => t.app

structure Bid where
  rule : Rule
  score : Score

namespace Bid

def order (a b : Bid) : Ordering :=
  (compare a.rule.decision.tier b.rule.decision.tier)
    |>.then (compare a.rule.priority b.rule.priority)
    |>.then (compare a.score.rank b.score.rank)
    |>.then (compare a.rule.decision.ordinal b.rule.decision.ordinal)
    |>.then (compare a.rule.name b.rule.name)

theorem tier_le_of_order {a b : Bid} (less : a.order b = .lt) : a.rule.decision.tier ≤ b.rule.decision.tier := by
  by_contra above
  have greater : compare a.rule.decision.tier b.rule.decision.tier = .gt :=
    Nat.compare_eq_gt.mpr (Nat.lt_of_not_le above)
  simp [order,greater] at less

end Bid

namespace Catalog

variable {c : Catalog} {t : Target} {s : Snapshot}

/-- A rule of the catalog applies to the targets of its sort, to all of them or to those associated with it. -/
structure AppliesTo (c : Catalog) (r : Rule) (t : Target) : Prop where
  listed : c.rules[r.name]? = some r
  sort : r.kind = .host ↔ t.kind = .host
  meant : r.generic = true ∨
    ∃ name, t.nameFor r.kind = some name ∧ c.rulesOfTarget.contains name r.name = true

def Holds (c : Catalog) (s : Snapshot) (condition : String) (v : Float) : Prop :=
  ∃ d, c.conditions[condition]? = some d ∧ s[d.key]? = some v ∧ d.operator.holds v d.value = true

/-- All conditions of a rule that applies hold, of the values that add up to its score. -/
structure Fires (c : Catalog) (t : Target) (s : Snapshot) (b : Bid) : Prop where
  applies : c.AppliesTo b.rule t
  matched : ∃ values, List.Forall₂ (c.Holds s) b.rule.conditions values ∧
    b.score = values.foldl Score.add (.sum 0.0)

/-- A rule bids with the sum of the values that its conditions hold of. -/
theorem Fires.of_holds {r : Rule} {values : List Float} (applies : c.AppliesTo r t)
    (holds : List.Forall₂ (c.Holds s) r.conditions values) (number : IsNumber (values.foldl (· + ·) 0.0)) :
    c.Fires t s ⟨r,.sum (values.foldl (· + ·) 0.0)⟩ :=
  ⟨applies,values,holds,(Score.foldl_add_sum number).symm⟩

/-- The least bid is in front of all others. -/
structure Wins (c : Catalog) (t : Target) (s : Snapshot) (b : Bid) : Prop where
  fires : c.Fires t s b
  least : ∀ other, c.Fires t s other → other ≠ b → b.order other = .lt

/-- A decision and a rule are those of the least bid, or there is none. -/
def Decides (c : Catalog) (t : Target) (s : Snapshot) (d : Decision) (rule : Option String) : Prop :=
  (∃ b, c.Wins t s b ∧ d = b.rule.decision ∧ rule = some b.rule.name) ∨
    ((∀ b, ¬c.Fires t s b) ∧ d = .none ∧ rule = none)

/-- Only a rule that starts something can decide to, and nothing is decided before it. -/
theorem Decides.start_iff (decides : c.Decides t s d rule) :
    d = .start ↔ ∃ b, c.Fires t s b ∧ b.rule.decision = .start := by
  rcases decides with ⟨b,wins,rfl,_⟩ | ⟨nobody,rfl,_⟩
  · constructor
    · intro start
      exact ⟨b,wins.fires,start⟩
    · rintro ⟨other,fires,start⟩
      by_cases same : other = b
      · rw [← same]; exact start
      · have first := Bid.tier_le_of_order (wins.least other fires same)
        rw [start] at first
        revert first
        cases b.rule.decision <;> simp [Decision.tier]
  · simp [nobody]

theorem Decides.none_iff (decides : c.Decides t s d rule) :
    d = .none ↔ ∀ b, c.Fires t s b → b.rule.decision = .none := by
  rcases decides with ⟨b,wins,rfl,_⟩ | ⟨nobody,rfl,_⟩
  · constructor
    · intro idle other fires
      by_cases same : other = b
      · rw [same]; exact idle
      · have first := Bid.tier_le_of_order (wins.least other fires same)
        rw [idle] at first
        revert first
        cases other.rule.decision <;> simp [Decision.tier]
    · intro all_idle
      exact all_idle b wins.fires
  · simp [nobody]

theorem applies_iff {r : Rule} : c.applies t r = true ↔ (r.kind = .host ↔ t.kind = .host) ∧
    (r.generic = true ∨ ∃ name, t.nameFor r.kind = some name ∧ c.rulesOfTarget.contains name r.name = true) := by
  cases own : t.kind <;> cases kind : r.kind <;>
    simp [applies,associationKey,Target.nameFor,Kind.isHost,own,kind,Option.any_eq_true]

/-- The rules listed for a target are those that apply, each as it is resolved. -/
theorem Whole.mem_rulesFor {rules : List ResolvedRule} (whole : c.Whole) (listing : c.rulesFor t = .ok rules) :
    (∀ resolved ∈ rules, ∃ r, c.AppliesTo r t ∧ c.resolve r.name = .ok resolved) ∧
      ∀ r, c.AppliesTo r t → ∃ resolved ∈ rules, c.resolve r.name = .ok resolved := by
  have related := forall₂_of_mapM_ok listing
  constructor
  · intro resolved member
    obtain ⟨r,selected,resolves⟩ := exists_left_of_forall₂ related member
    obtain ⟨listed,applies⟩ := List.mem_filter.mp selected
    obtain ⟨name,found⟩ := mem_values_iff.mp listed
    obtain rfl := whole.named name r found
    obtain ⟨sort,meant⟩ := applies_iff.mp applies
    exact ⟨r,⟨found,sort,meant⟩,resolves⟩
  · intro r applies
    refine exists_right_of_forall₂ related (List.mem_filter.mpr ⟨?_,?_⟩)
    · exact mem_values_iff.mpr ⟨r.name,applies.listed⟩
    · exact applies_iff.mpr ⟨applies.sort,applies.meant⟩

/-- The conditions of a rule hold of some values exactly when their definitions match them. -/
theorem holds_iff_matched {names : List String} {definitions : List Condition} {values : List Float}
    (defined : List.Forall₂ (fun (condition : String) (d : Condition) => c.conditions[condition]? = some d)
      names definitions) :
    List.Forall₂ (c.Holds s) names values ↔
      List.Forall₂ (fun (d : Condition) v => d.matched? s = some v) definitions values := by
  constructor
  · intro holds
    refine forall₂_join defined holds ?_
    rintro condition _ d v stands ⟨other,known,read,holds⟩
    cases stands.symm.trans known
    exact Condition.matched?_eq_some_iff.mpr ⟨read,holds⟩
  · intro matched
    refine forall₂_join defined.flip matched ?_
    intro d _ condition v stands holds
    obtain ⟨read,holds⟩ := Condition.matched?_eq_some_iff.mp holds
    exact ⟨d,stands,read,holds⟩

end Catalog

/-- Conditions match one after another exactly when each of them matches, and their values are added up. -/
theorem Match.foldlM_add?_iff {s : Snapshot} {ds : List Condition} {m : Match} {score : Score} :
    (∃ out, ds.foldlM (add? s) m = some out ∧ out.score = score) ↔
      ∃ values, List.Forall₂ (fun (d : Condition) v => d.matched? s = some v) ds values ∧
        score = values.foldl Score.add m.score := by
  induction ds generalizing m with
  | nil => simp [eq_comm]
  | cons d ds ih =>
    cases matched : d.matched? s with
    | none =>
      simp only [List.foldlM_cons,add?,matched,List.forall₂_cons_left_iff]
      simp
    | some v =>
      have next : add? s m d = some ⟨m.values.insert d.key v,m.score.add v⟩ := by simp [add?,matched]
      rw [List.foldlM_cons,next]
      simp only [Option.bind_eq_bind,Option.bind_some,ih]
      constructor
      · rintro ⟨values,rest,rfl⟩
        exact ⟨v :: values,.cons matched rest,rfl⟩
      · rintro ⟨_,related,rfl⟩
        cases related with
        | cons head rest =>
          cases matched.symm.trans head
          exact ⟨_,rest,rfl⟩

structure Candidate.StandsFor (c : Candidate) (id : String) (b : Bid) : Prop where
  target : c.target = id
  decision : c.decision = b.rule.decision
  rule : c.rule = b.rule.name
  priority : c.priority = b.rule.priority
  score : c.score = b.score

theorem Candidate.StandsFor.order {a b : Candidate} {x y : Bid} {id : String} (left : a.StandsFor id x)
    (right : b.StandsFor id y) : a.order b = x.order y := by
  simp [Candidate.order,Bid.order,left.target,left.decision,left.rule,left.priority,left.score,
    right.target,right.decision,right.rule,right.priority,right.score]

namespace Catalog

variable {c : Catalog} {t : Target} {s : Snapshot} {rules : List ResolvedRule}

theorem Whole.fire?_eq_some_iff {r : Rule} {resolved : ResolvedRule} (whole : c.Whole)
    (listed : c.rules[r.name]? = some r) (resolves : c.resolve r.name = .ok resolved) {x : Candidate} :
    resolved.fire? t.id s = some x ↔ ∃ m, resolved.conditions.foldlM (Match.add? s) Match.empty = some m ∧
      ⟨t.id,r.decision,r.name,m.values,r.priority,m.score⟩ = x := by
  have meaning := whole.resolve_of listed resolves
  have conditioned : resolved.conditions ≠ [] := by
    intro empty
    have named := meaning.conditions
    rw [empty] at named
    exact whole.conditioned r.name r listed named.symm
  rw [ResolvedRule.fire?,if_neg conditioned,Option.map_eq_some_iff,meaning.name,meaning.decision,
    meaning.priority]

/-- The candidates for a target stand for the bids, one for each and no others. -/
theorem Whole.mem_fireAll (whole : c.Whole) (listing : c.rulesFor t = .ok rules) (s : Snapshot) :
    (∀ x ∈ fireAll rules t.id s, ∃ b, c.Fires t s b ∧ x.StandsFor t.id b) ∧
      ∀ b, c.Fires t s b → ∃ x ∈ fireAll rules t.id s, x.StandsFor t.id b := by
  obtain ⟨sound,complete⟩ := whole.mem_rulesFor listing
  constructor
  · intro x member
    obtain ⟨resolved,listed,fired⟩ := List.mem_filterMap.mp member
    obtain ⟨r,applies,resolves⟩ := sound resolved listed
    obtain ⟨m,matched,rfl⟩ := (whole.fire?_eq_some_iff applies.listed resolves).mp fired
    have defined := resolve_conditions applies.listed resolves
    obtain ⟨values,holds,score⟩ := Match.foldlM_add?_iff.mp ⟨m,matched,rfl⟩
    exact ⟨⟨r,m.score⟩,⟨applies,values,(holds_iff_matched defined).mpr holds,score⟩,rfl,rfl,rfl,rfl,rfl⟩
  · intro b fires
    obtain ⟨resolved,listed,resolves⟩ := complete b.rule fires.applies
    obtain ⟨values,holds,score⟩ := fires.matched
    have defined := resolve_conditions fires.applies.listed resolves
    obtain ⟨m,matched,same⟩ := (Match.foldlM_add?_iff (m := .empty)).mpr
      ⟨values,(holds_iff_matched defined).mp holds,score⟩
    have fired := (whole.fire?_eq_some_iff (t := t) fires.applies.listed resolves).mpr ⟨m,matched,rfl⟩
    exact ⟨_,List.mem_filterMap.mpr ⟨resolved,listed,fired⟩,rfl,rfl,rfl,rfl,same⟩

/-- What arbitration among the candidates decides is what the least bid says. -/
theorem Whole.decides (whole : c.Whole) (listing : c.rulesFor t = .ok rules) (s : Snapshot) :
    c.Decides t s (arbitrate (fireAll rules t.id s)).decision
      ((arbitrate (fireAll rules t.id s)).winner.map (·.rule)) := by
  obtain ⟨sound,complete⟩ := whole.mem_fireAll listing s
  cases won : (arbitrate (fireAll rules t.id s)).winner with
  | none =>
    have nobody : fireAll rules t.id s = [] :=
      Candidate.least?_eq_none_iff.mp ((winner_arbitrate _).symm.trans won)
    refine .inr ⟨?_,?_,rfl⟩
    · intro b fires
      obtain ⟨x,member,_⟩ := complete b fires
      rw [nobody] at member
      cases member
    · rw [nobody]; rfl
  | some w =>
    obtain ⟨member,decision,least⟩ := arbitrate_least won
    obtain ⟨b,fires,stands⟩ := sound w member
    refine .inl ⟨b,⟨fires,?_⟩,decision.trans stands.decision,congrArg some stands.rule⟩
    intro other bids apart
    obtain ⟨x,listed,standsToo⟩ := complete other bids
    rw [← stands.order standsToo]
    have below : (w.order x).isLE := Candidate.isLE_order_iff.mpr (least x listed)
    cases compared : w.order x with
    | lt => rfl
    | gt => rw [compared] at below; cases below
    | eq =>
      -- Level candidates come from one rule, as rules stand under their names.
      have level := Candidate.order_eq_iff.mp compared
      have names : b.rule.name = other.rule.name := stands.rule.symm.trans (level.rule.trans standsToo.rule)
      have score : b.score = other.score := stands.score.symm.trans (level.score.trans standsToo.score)
      have known := fires.applies.listed
      rw [names,bids.applies.listed] at known
      obtain ⟨rule,_⟩ := other
      obtain rfl : rule = b.rule := Option.some.inj known
      exact absurd (congrArg (Bid.mk b.rule) score.symm) apart

end Catalog

end GeoFleet
