import Mathlib.Data.List.Nodup
import GeoFleet.Proofs.Rule.Firing

/-! Arbitration. The order of candidates is total, over all bit patterns that a sum can have, and it tells
apart all candidates but those that differ in their matched values alone. So the winner is the least
candidate wherever it is listed, and the others matter neither one by one nor in groups. -/
namespace GeoFleet

namespace Candidate

structure Level (a b : Candidate) : Prop where
  target : a.target = b.target
  decision : a.decision = b.decision
  rule : a.rule = b.rule
  priority : a.priority = b.priority
  score : a.score = b.score

theorem order_eq_compareLex : order =
    compareLex (compareLex (compareLex (compareLex (compareLex
      (compareOn fun c => c.decision.tier) (compareOn fun c => c.priority))
      (compareOn fun c => c.score.rank)) (compareOn fun c => c.decision.ordinal))
      (compareOn fun c => c.rule)) (compareOn fun c => c.target) :=
  rfl

instance : Std.TransCmp order := by
  rw [order_eq_compareLex]
  infer_instance

theorem order_eq_iff {a b : Candidate} : a.order b = .eq ↔ a.Level b := by
  simp only [order,Ordering.then_eq_eq,Std.LawfulEqCmp.compare_eq_iff_eq]
  constructor
  · rintro ⟨⟨⟨⟨⟨_,priority⟩,rank⟩,ordinal⟩,rule⟩,target⟩
    have score : a.score = b.score := congrArg Score.mk (Magnitude.rankOfBits_injective rank)
    exact ⟨target,Decision.ordinal_injective ordinal,rule,priority,score⟩
  · rintro ⟨target,decision,rule,priority,score⟩
    simp [target,decision,rule,priority,score]

theorem isLE_order_iff {a b : Candidate} : (a.order b).isLE ↔ ¬b.order a = .lt := by
  rw [Ordering.isLE_iff_ne_gt]
  exact not_congr Std.OrientedCmp.gt_iff_lt

theorem better_assoc (a b c : Candidate) : (a.better b).better c = a.better (b.better c) := by
  by_cases second : b.order a = .lt
  · by_cases third : c.order b = .lt
    · have first : c.order a = .lt := Std.TransCmp.lt_trans third second
      simp [better,second,third,first]
    · simp [better,second,third]
  · by_cases third : c.order b = .lt
    · simp [better,second,third]
    · have first : ¬c.order a = .lt := by
        intro less
        exact third (Std.TransCmp.lt_of_lt_of_isLE less (isLE_order_iff.mpr second))
      simp [better,second,third,first]

instance : Std.Associative better := ⟨better_assoc⟩

theorem least?_cons (c : Candidate) (cs : List Candidate) :
    least? (c :: cs) = some ((least? cs).elim c c.better) := by
  cases cs with
  | nil => rfl
  | cons d ds => simp [least?,List.foldl_assoc]

/-- The first of the least candidates of two lists is that of the two least candidates. -/
theorem least?_append (cs ds : List Candidate) :
    least? (cs ++ ds) = (least? cs).merge better (least? ds) := by
  induction cs with
  | nil => simp [least?]
  | cons c cs ih =>
    rw [List.cons_append,least?_cons,least?_cons,ih]
    cases least? cs <;> cases least? ds <;> simp [better_assoc]

theorem least?_eq_none_iff {cs : List Candidate} : least? cs = none ↔ cs = [] := by
  cases cs <;> simp [least?]

/-- Lists can be searched one by one first, and what they yield after that. -/
theorem least?_flatten (parts : List (List Candidate)) :
    least? parts.flatten = least? (parts.filterMap least?) := by
  induction parts with
  | nil => rfl
  | cons part parts ih =>
    rw [List.flatten_cons,least?_append,ih]
    cases first : least? part with
    | none => simp [first]
    | some w =>
      rw [List.filterMap_cons_some first,least?_cons]
      cases least? (parts.filterMap least?) <;> rfl

/-- The least of one more candidate is that of the rest when it comes before the new one. -/
theorem least?_cons_eq_some_iff {a w : Candidate} {cs : List Candidate} : least? (a :: cs) = some w ↔
    (least? cs = some w ∧ w.order a = .lt) ∨ (a = w ∧ ∀ v, least? cs = some v → ¬v.order a = .lt) := by
  rw [least?_cons]
  cases least? cs with
  | none => simp
  | some v =>
    simp only [Option.elim_some,Option.some.injEq,better,forall_eq']
    split
    · rename_i less
      constructor
      · rintro rfl; exact .inl ⟨rfl,less⟩
      · rintro (⟨same,_⟩ | ⟨_,stays⟩)
        · exact same
        · exact absurd less stays
    · rename_i stays
      constructor
      · intro same; exact .inr ⟨same,stays⟩
      · rintro (⟨rfl,less⟩ | ⟨same,_⟩)
        · exact absurd less stays
        · exact same

theorem exists_least? {cs : List Candidate} (member : c ∈ cs) : ∃ v, least? cs = some v :=
  Option.ne_none_iff_exists'.mp (mt least?_eq_none_iff.mp (List.ne_nil_of_mem member))

theorem least?_isLE {cs : List Candidate} {w : Candidate} (least : least? cs = some w) :
    ∀ c ∈ cs, (w.order c).isLE := by
  cases cs with
  | nil => cases least
  | cons c rest =>
    cases least
    exact foldl_least_isLE (fun _ _ => rfl) rest c

/-- A choice that lets the winner through lets nothing through that would win in its place. -/
theorem least?_filter {cs : List Candidate} {w : Candidate} {p : Candidate → Bool}
    (least : least? cs = some w) (passes : p w = true) : least? (cs.filter p) = some w := by
  induction cs with
  | nil => cases least
  | cons a cs ih =>
    rcases least?_cons_eq_some_iff.mp least with ⟨rest,less⟩ | ⟨rfl,_⟩
    · rw [List.filter_cons]
      split
      · exact least?_cons_eq_some_iff.mpr (.inl ⟨ih rest,less⟩)
      · exact ih rest
    · rw [List.filter_cons_of_pos passes]
      refine least?_cons_eq_some_iff.mpr (.inr ⟨rfl,?_⟩)
      intro u kept
      have member : u ∈ cs := (List.mem_filter.mp (least?_mem kept)).1
      exact isLE_order_iff.mp (least?_isLE least u (List.mem_cons_of_mem _ member))

/-- Two lists of which either holds what is least of the other have the same least candidate, up to
matched values. -/
theorem level_of_least? {cs ds : List Candidate} {v w : Candidate} (left : least? cs = some v)
    (right : least? ds = some w) (member : v ∈ ds) (member' : w ∈ cs) : v.Level w := by
  have below := least?_isLE left w member'
  have above := least?_isLE right v member
  exact order_eq_iff.mp (Std.OrientedCmp.isLE_antisymm below above)

end Candidate

namespace Verdict

structure Same (u v : Verdict) : Prop where
  decision : u.decision = v.decision
  winner : Option.Rel Candidate.Level u.winner v.winner

end Verdict

theorem winner_arbitrate (cs : List Candidate) : (arbitrate cs).winner = Candidate.least? cs := by
  cases least : Candidate.least? cs <;> simp [arbitrate,least]

theorem arbitrate_congr {cs ds : List Candidate} (same : Candidate.least? cs = Candidate.least? ds) :
    arbitrate cs = arbitrate ds := by
  simp [arbitrate,same]

/-- What is left of a list of candidates when losers are dropped, in any order and however often. -/
structure Candidate.Thins (ds cs : List Candidate) : Prop where
  subset : ds ⊆ cs
  winner : ∀ w, (arbitrate cs).winner = some w → w ∈ ds

namespace Candidate

theorem Thins.of_perm {cs ds : List Candidate} (reordered : ds.Perm cs) : Thins ds cs := by
  refine ⟨reordered.subset,?_⟩
  intro w won
  rw [winner_arbitrate] at won
  exact reordered.mem_iff.mpr (least?_mem won)

theorem Thins.cases {cs ds : List Candidate} (thins : Thins ds cs) :
    (least? ds = none ∧ least? cs = none) ∨
      ∃ v w, least? ds = some v ∧ least? cs = some w ∧ v ∈ cs ∧ v.Level w := by
  cases right : least? cs with
  | none =>
    have empty := thins.subset
    rw [least?_eq_none_iff.mp right,List.subset_nil] at empty
    exact .inl ⟨least?_eq_none_iff.mpr empty,rfl⟩
  | some w =>
    have stays : w ∈ ds := thins.winner w (by rw [winner_arbitrate,right])
    obtain ⟨v,left⟩ := exists_least? stays
    have member : v ∈ cs := thins.subset (least?_mem left)
    exact .inr ⟨v,w,left,rfl,member,level_of_least? left right member stays⟩

theorem Thins.same {cs ds : List Candidate} (thins : Thins ds cs) :
    (arbitrate ds).Same (arbitrate cs) := by
  obtain ⟨left,right⟩ | ⟨v,w,left,right,_,level⟩ := thins.cases
  · simp only [arbitrate,left,right]
    exact ⟨rfl,.none⟩
  · simp only [arbitrate,left,right]
    exact ⟨level.decision,.some level⟩

end Candidate

theorem ResolvedRule.rule_of_fireAll {rules : List ResolvedRule} {s : Snapshot}
    (distinct : (rules.map ResolvedRule.name).Nodup) :
    ((fireAll rules target s).map Candidate.rule).Nodup := by
  rw [List.Nodup,List.pairwise_map] at distinct ⊢
  refine List.Pairwise.filterMap _ ?_ distinct
  intro r r' apart c fired c' fired'
  rw [(fire?_sound fired).1,(fire?_sound fired').1]
  exact apart

/-- Rules with distinct names fire no two candidates that are level. -/
theorem arbitrate_fireAll {rules : List ResolvedRule} {s : Snapshot}
    (distinct : (rules.map ResolvedRule.name).Nodup) {ds : List Candidate}
    (thins : Candidate.Thins ds (fireAll rules target s)) :
    arbitrate ds = arbitrate (fireAll rules target s) := by
  apply arbitrate_congr
  obtain ⟨left,right⟩ | ⟨v,w,left,right,member,level⟩ := thins.cases
  · rw [left,right]
  · have one : v = w := List.inj_on_of_nodup_map (ResolvedRule.rule_of_fireAll distinct) member
      (Candidate.least?_mem right) level.rule
    rw [left,right,one]

theorem arbitrate_filter {cs : List Candidate} {p : Candidate → Bool}
    (passes : ∀ w, (arbitrate cs).winner = some w → p w = true) :
    arbitrate (cs.filter p) = arbitrate cs := by
  apply arbitrate_congr
  cases least : Candidate.least? cs with
  | none => simp [Candidate.least?_eq_none_iff.mp least,Candidate.least?]
  | some w => exact Candidate.least?_filter least (passes w (by rw [winner_arbitrate,least]))

/-- Arbitrating the pieces of a list, and then among their winners. -/
theorem arbitrate_flatten (parts : List (List Candidate)) :
    arbitrate (parts.filterMap fun part => (arbitrate part).winner) = arbitrate parts.flatten := by
  apply arbitrate_congr
  rw [Candidate.least?_flatten]
  simp only [winner_arbitrate]

theorem arbitrate_least {cs : List Candidate} {w : Candidate} (won : (arbitrate cs).winner = some w) :
    w ∈ cs ∧ (arbitrate cs).decision = w.decision ∧ ∀ c ∈ cs, c.order w ≠ .lt := by
  rw [winner_arbitrate] at won
  refine ⟨Candidate.least?_mem won,by simp [arbitrate,won],?_⟩
  intro c member
  exact Candidate.isLE_order_iff.mp (Candidate.least?_isLE won c member)

/-- Arbitration picks a least candidate of a total order, and depends neither on the order of the
candidates nor on the losers nor on how the candidates are grouped. What wins is the same record as
long as the list is only filtered or cut into pieces, and level with it when the list is reordered; for
the candidates of rules with distinct names it is the same record even then. -/
theorem arbitrate_order_free :
    (∀ a b : Candidate, b.order a = (a.order b).swap ∧ (a.order b = .eq ↔ a.Level b)) ∧
    (∀ a b c : Candidate, (a.order b).isLE → (b.order c).isLE → (a.order c).isLE) ∧
    (∀ cs : List Candidate,
      ((arbitrate cs).winner = none ↔ cs = []) ∧
      (∀ w, (arbitrate cs).winner = some w →
        w ∈ cs ∧ (arbitrate cs).decision = w.decision ∧ ∀ c ∈ cs, c.order w ≠ .lt) ∧
      (∀ ds, ds.Perm cs → (arbitrate ds).Same (arbitrate cs)) ∧
      (∀ ds, Candidate.Thins ds cs → (arbitrate ds).Same (arbitrate cs)) ∧
      (∀ p : Candidate → Bool, (∀ w, (arbitrate cs).winner = some w → p w = true) →
        arbitrate (cs.filter p) = arbitrate cs) ∧
      (∀ parts : List (List Candidate), parts.flatten.Perm cs →
        (arbitrate (parts.filterMap fun part => (arbitrate part).winner)).Same (arbitrate cs)) ∧
      (∀ parts : List (List Candidate), parts.flatten = cs →
        arbitrate (parts.filterMap fun part => (arbitrate part).winner) = arbitrate cs)) ∧
    (∀ (rules : List ResolvedRule) (target : String) (s : Snapshot),
      (rules.map ResolvedRule.name).Nodup →
      (∀ ds, ds.Perm (fireAll rules target s) →
        arbitrate ds = arbitrate (fireAll rules target s)) ∧
      (∀ ds, Candidate.Thins ds (fireAll rules target s) →
        arbitrate ds = arbitrate (fireAll rules target s)) ∧
      (∀ parts : List (List Candidate), parts.flatten.Perm (fireAll rules target s) →
        arbitrate (parts.filterMap fun part => (arbitrate part).winner) =
          arbitrate (fireAll rules target s))) := by
  refine ⟨?_,?_,?_,?_⟩
  · intro a b
    exact ⟨Std.OrientedCmp.eq_swap,Candidate.order_eq_iff⟩
  · intro a b c below above
    exact Std.TransCmp.isLE_trans below above
  · intro cs
    refine ⟨?_,fun w won => arbitrate_least won,?_,fun ds thins => thins.same,
      fun p passes => arbitrate_filter passes,?_,?_⟩
    · rw [winner_arbitrate]
      exact Candidate.least?_eq_none_iff
    · intro ds reordered
      exact (Candidate.Thins.of_perm reordered).same
    · intro parts reordered
      rw [arbitrate_flatten]
      exact (Candidate.Thins.of_perm reordered).same
    · rintro parts rfl
      exact arbitrate_flatten parts
  · intro rules target s distinct
    refine ⟨?_,fun ds thins => arbitrate_fireAll distinct thins,?_⟩
    · intro ds reordered
      exact arbitrate_fireAll distinct (Candidate.Thins.of_perm reordered)
    · intro parts reordered
      rw [arbitrate_flatten]
      exact arbitrate_fireAll distinct (Candidate.Thins.of_perm reordered)

end GeoFleet
