import Mathlib.Order.BooleanAlgebra.Set
import GeoFleet.Proofs.Catalog.History
import GeoFleet.Proofs.Text.ByteOrder

/-! The associations of a catalog are one relation of rules and target names. It is written on two
sides, and each operation has its own way to keep the other side up. Whichever side is read, it lists
the pairs that were associated and have neither been taken back nor lost their rule or target. -/
namespace GeoFleet

namespace Links

variable {l : Links}

/-- No name keeps an empty set. -/
def Tight (l : Links) : Prop :=
  ∀ (name : String) (s : Std.ExtTreeSet String), l[name]? = some s → s.isEmpty = false

theorem mem_names_iff : other ∈ l.names name ↔ l.contains name other = true := by
  rw [names,contains,Std.ExtTreeSet.mem_toList,Std.ExtTreeSet.contains_iff_mem]

theorem names_ordered (l : Links) (name : String) :
    (l.names name).Pairwise fun a b => Text.bytes a < Text.bytes b :=
  Std.ExtTreeSet.ordered_toList.imp Text.bytes_lt_of_compare

theorem linked_put (l : Links) (name : String) (s : Std.ExtTreeSet String) (a : String) :
    (l.put name s).linked a = if name = a then s else l.linked a := by
  by_cases same : name = a
  · subst same
    by_cases empty : s.isEmpty = true
    · simp [linked,put,Std.ExtTreeSet.isEmpty_iff.mp empty]
    · simp [linked,put,empty]
  · rw [if_neg same]
    unfold linked put
    split
    · rw [getElem?_erase_ne same]
    · rw [getElem?_insert_ne same]

theorem contains_link_iff : (l.link name other).contains a b = true ↔
    (a = name ∧ b = other) ∨ l.contains a b = true := by
  by_cases same : name = a
  · subst same
    simp [link,contains,linked,eq_comm (a := b)]
  · have apart : a ≠ name := Ne.symm same
    simp [link,contains,linked,getElem?_insert_ne same,apart]

theorem contains_unlink_iff : (l.unlink name other).contains a b = true ↔
    l.contains a b = true ∧ ¬(a = name ∧ b = other) := by
  unfold unlink
  split
  · rw [contains,linked_put]
    split
    · rename_i same
      subst same
      simp [contains,and_comm,eq_comm (a := b)]
    · rename_i apart
      simp [contains,Ne.symm apart]
  · rename_i absent
    constructor
    · intro present
      refine ⟨present,?_⟩
      rintro ⟨rfl,rfl⟩
      exact absent present
    · exact And.left

theorem contains_clear_iff : (l.clear name).contains a b = true ↔
    l.contains a b = true ∧ a ≠ name := by
  by_cases same : name = a
  · subst same
    simp [clear,contains,linked]
  · simp [clear,contains,linked,getElem?_erase_ne same,Ne.symm same]

/-- Unlinking one name from many others takes just these pairs out. -/
theorem contains_foldl_unlink_iff {others : List String} :
    (others.foldl (·.unlink · name) l).contains a b = true ↔
      l.contains a b = true ∧ ¬(a ∈ others ∧ b = name) := by
  induction others generalizing l with
  | nil => simp
  | cons other others ih =>
    rw [List.foldl_cons,ih,contains_unlink_iff,List.mem_cons]
    tauto

/-- Where the other side lists all that are linked to a name, unlinking the name from these takes every
link to it out. -/
theorem contains_foldl_unlink_names {m : Links}
    (mirrored : ∀ other, m.contains name other = true ↔ l.contains other name = true) :
    ((m.names name).foldl (·.unlink · name) l).contains a b = true ↔ l.contains a b = true ∧ b ≠ name := by
  rw [contains_foldl_unlink_iff,mem_names_iff,mirrored]
  constructor
  · rintro ⟨present,others⟩
    refine ⟨present,?_⟩
    rintro rfl
    exact others ⟨present,rfl⟩
  · rintro ⟨present,apart⟩
    exact ⟨present,fun both => apart both.2⟩

theorem Tight.link (tight : l.Tight) (name other : String) : (l.link name other).Tight :=
  forall_insert tight (by simp)

theorem Tight.put (tight : l.Tight) (name : String) (s : Std.ExtTreeSet String) :
    (l.put name s).Tight := by
  unfold Links.put
  split
  · exact forall_erase tight
  · rename_i kept
    exact forall_insert tight (eq_false_of_ne_true kept)

theorem Tight.unlink (tight : l.Tight) (name other : String) : (l.unlink name other).Tight := by
  unfold Links.unlink
  split
  · exact tight.put name _
  · exact tight

theorem Tight.clear (tight : l.Tight) (name : String) : (l.clear name).Tight := forall_erase tight

theorem Tight.foldl_unlink (tight : l.Tight) (name : String) (others : List String) :
    (others.foldl (·.unlink · name) l).Tight :=
  List.foldlRecOn others _ tight fun _ tight other _ => tight.unlink other name

end Links

namespace Catalog

def Edit.relate (related : Set (String × String)) : Edit → Set (String × String)
  | .associate rule target => insert (rule,target) related
  | .dissociate rule target => related \ {(rule,target)}
  | .removeRule name => {pair ∈ related | pair.1 ≠ name}
  | .forgetTarget target => {pair ∈ related | pair.2 ≠ target}
  | _ => related

def related (operations : List Edit) : Set (String × String) :=
  (empty.accepted operations).foldl Edit.relate ∅

/-- Both sides of the associations say what a relation says, and its rules are there. -/
structure Mirrors (c : Catalog) (R : Set (String × String)) : Prop where
  byRule : ∀ rule target, c.targetsOfRule.contains rule target = true ↔ (rule,target) ∈ R
  byTarget : ∀ rule target, c.rulesOfTarget.contains target rule = true ↔ (rule,target) ∈ R
  known : ∀ rule target, (rule,target) ∈ R → c.rules.contains rule = true
  tightByRule : c.targetsOfRule.Tight
  tightByTarget : c.rulesOfTarget.Tight

theorem mirrors_empty : empty.Mirrors ∅ := by
  refine ⟨?_,?_,?_,?_,?_⟩
  · simp [empty,Links.contains,Links.linked]
  · simp [empty,Links.contains,Links.linked]
  · intro rule target absent
    exact absurd absent (Set.notMem_empty _)
  all_goals intro name s found; simp [empty] at found

variable {c next : Catalog} {R : Set (String × String)}

theorem Mirrors.associate (mirrors : c.Mirrors R) {rule target : String}
    (exists_rule : c.rules.contains rule = true) :
    (c.effect (.associate rule target)).Mirrors (insert (rule,target) R) := by
  refine ⟨?_,?_,?_,mirrors.tightByRule.link rule target,mirrors.tightByTarget.link target rule⟩
  · intro a b
    rw [effect,Links.contains_link_iff,mirrors.byRule,Set.mem_insert_iff,Prod.mk.injEq]
  · intro a b
    rw [effect,Links.contains_link_iff,mirrors.byTarget,Set.mem_insert_iff,Prod.mk.injEq,
      and_comm (a := b = target)]
  · intro a b member
    rcases Set.mem_insert_iff.mp member with same | before
    · cases same; exact exists_rule
    · exact mirrors.known a b before

theorem Mirrors.dissociate (mirrors : c.Mirrors R) (rule target : String) :
    (c.effect (.dissociate rule target)).Mirrors (R \ {(rule,target)}) := by
  refine ⟨?_,?_,fun a b member => mirrors.known a b member.1,mirrors.tightByRule.unlink rule target,
    mirrors.tightByTarget.unlink target rule⟩
  · intro a b
    rw [effect,Links.contains_unlink_iff,mirrors.byRule,Set.mem_sdiff,Set.mem_singleton_iff,Prod.mk.injEq]
  · intro a b
    rw [effect,Links.contains_unlink_iff,mirrors.byTarget,Set.mem_sdiff,Set.mem_singleton_iff,
      Prod.mk.injEq,and_comm (a := b = target)]

theorem Mirrors.removeRule (mirrors : c.Mirrors R) (name : String) :
    (c.effect (.removeRule name)).Mirrors {pair ∈ R | pair.1 ≠ name} := by
  refine ⟨?_,?_,?_,mirrors.tightByRule.clear name,mirrors.tightByTarget.foldl_unlink name _⟩
  · intro a b
    rw [effect,Links.contains_clear_iff,mirrors.byRule,Set.mem_sep_iff]
  · intro a b
    have mirrored := fun target => (mirrors.byRule name target).trans (mirrors.byTarget name target).symm
    rw [effect,Links.contains_foldl_unlink_names mirrored,mirrors.byTarget,Set.mem_sep_iff]
  · rintro a b ⟨present,apart⟩
    have before := mirrors.known a b present
    rw [Std.ExtTreeMap.contains_eq_isSome_getElem?] at before ⊢
    exact (congrArg Option.isSome (getElem?_erase_ne (Ne.symm apart))).trans before

theorem Mirrors.forgetTarget (mirrors : c.Mirrors R) (target : String) :
    (c.effect (.forgetTarget target)).Mirrors {pair ∈ R | pair.2 ≠ target} := by
  refine ⟨?_,?_,fun a b member => mirrors.known a b member.1,mirrors.tightByRule.foldl_unlink target _,
    mirrors.tightByTarget.clear target⟩
  · intro a b
    have mirrored := fun rule => (mirrors.byTarget rule target).trans (mirrors.byRule rule target).symm
    rw [effect,Catalog.forgetTarget,Links.contains_foldl_unlink_names mirrored,mirrors.byRule,
      Set.mem_sep_iff]
  · intro a b
    rw [effect,Catalog.forgetTarget,Links.contains_clear_iff,mirrors.byTarget,Set.mem_sep_iff]

theorem associate_known {rule target : String} (done : c.attempt (.associate rule target) = .ok next) :
    c.rules.contains rule = true := by
  simp only [Catalog.attempt,Catalog.associate] at done
  split at done
  · cases done
  · rename_i present
    simpa using present

/-- An operation that goes through does the same to both sides. -/
theorem Mirrors.step (mirrors : c.Mirrors R) {o : Edit} (done : c.attempt o = .ok next) :
    next.Mirrors (o.relate R) := by
  have same := attempt_effect done
  cases o with
  | associate rule target => exact same ▸ mirrors.associate (associate_known done)
  | dissociate rule target => exact same ▸ mirrors.dissociate rule target
  | removeRule name => exact same ▸ mirrors.removeRule name
  | forgetTarget target => exact same ▸ mirrors.forgetTarget target
  | addRule r =>
    subst same
    exact { mirrors with known := fun a b member => contains_of_insert (mirrors.known a b member) r.name r }
  | _ =>
    subst same
    exact { mirrors with }

theorem mirrors_related (operations : List Edit) : (history operations).Mirrors (related operations) := by
  apply history_induction (motive := fun c past => c.Mirrors (past.foldl Edit.relate ∅)) mirrors_empty
  intro c past o next _ mirrors done
  rw [List.foldl_append]
  exact mirrors.step done

theorem related_concat {operations : List Edit} {o : Edit}
    (done : (history operations).attempt o = .ok next) :
    related (operations ++ [o]) = o.relate (related operations) := by
  rw [related,(accepted_concat done).2,List.foldl_append]
  rfl

theorem associate_changes {operations : List Edit} {rule target : String}
    (done : (history operations).associate rule target = .ok (changed,next)) :
    changed = true ↔ related (operations ++ [.associate rule target]) ≠ related operations := by
  have went : (history operations).attempt (.associate rule target) = .ok next := by
    rw [Catalog.attempt,done]; rfl
  rw [related_concat went,Edit.relate,Ne,Set.insert_eq_self,← (mirrors_related operations).byRule]
  simp only [Catalog.associate] at done
  split at done
  · cases done
  · cases done; simp

theorem dissociate_changes {operations : List Edit} {rule target : String}
    (done : (history operations).dissociate rule target = .ok (changed,next)) :
    changed = true ↔ related (operations ++ [.dissociate rule target]) ≠ related operations := by
  have went : (history operations).attempt (.dissociate rule target) = .ok next := by
    rw [Catalog.attempt,done]; rfl
  have unchanged : related operations \ {(rule,target)} = related operations ↔
      (rule,target) ∉ related operations := sdiff_eq_left.trans Set.disjoint_singleton_right
  rw [related_concat went,Edit.relate,Ne,unchanged,not_not,← (mirrors_related operations).byRule]
  simp only [Catalog.dissociate] at done
  split at done
  · cases done
  · cases done; rfl

/-- Wherever operations lead, the two sides of the associations list one relation in byte order, keep no
empty set and name no rule that is not there; associating and taking back answer whether the relation
has changed; and a rule that is added, under whatever name, has no associations. -/
theorem associations_are_one_relation (operations : List Edit) :
    let c := history operations
    (∀ rule, (∀ target, target ∈ c.targetsOf rule ↔ (rule,target) ∈ related operations) ∧
      (c.targetsOf rule).Pairwise fun a b => Text.bytes a < Text.bytes b) ∧
    (∀ target, (∀ rule, rule ∈ c.rulesOf target ↔ (rule,target) ∈ related operations) ∧
      (c.rulesOf target).Pairwise fun a b => Text.bytes a < Text.bytes b) ∧
    (∀ rule target, (rule,target) ∈ related operations → c.rules.contains rule = true) ∧
    c.targetsOfRule.Tight ∧ c.rulesOfTarget.Tight ∧
    (∀ rule target changed next, c.associate rule target = .ok (changed,next) →
      (changed = true ↔ related (operations ++ [.associate rule target]) ≠ related operations)) ∧
    (∀ rule target changed next, c.dissociate rule target = .ok (changed,next) →
      (changed = true ↔ related (operations ++ [.dissociate rule target]) ≠ related operations)) ∧
    ∀ r next, c.addRule r = .ok next →
      next.targetsOf r.name = [] ∧ ∀ target, r.name ∉ next.rulesOf target := by
  intro c
  have mirrors : c.Mirrors (related operations) := mirrors_related operations
  refine ⟨?_,?_,mirrors.known,mirrors.tightByRule,mirrors.tightByTarget,?_,?_,?_⟩
  · intro rule
    exact ⟨fun target => Links.mem_names_iff.trans (mirrors.byRule rule target),Links.names_ordered _ rule⟩
  · intro target
    exact ⟨fun rule => Links.mem_names_iff.trans (mirrors.byTarget rule target),
      Links.names_ordered _ target⟩
  · intro rule target changed next done
    exact associate_changes done
  · intro rule target changed next done
    exact dissociate_changes done
  · intro r next done
    have went : c.attempt (.addRule r) = .ok next := done
    have after : next.Mirrors (related operations) := mirrors.step went
    have unrelated : ∀ target, (r.name,target) ∉ related operations := by
      intro target member
      have present := mirrors.known r.name target member
      simp [Catalog.addRule,present] at done
    constructor
    · apply List.eq_nil_iff_forall_not_mem.mpr
      intro target listed
      exact unrelated target ((after.byRule r.name target).mp (Links.mem_names_iff.mp listed))
    · intro target listed
      exact unrelated target ((after.byTarget r.name target).mp (Links.mem_names_iff.mp listed))

def recreation : List Edit := [
  .addField ⟨"cpu", none⟩,
  .addCondition ⟨"hot", "cpu", .greater, 80.0, .effective⟩,
  .addRule ⟨"move", .container, 1, .migrate, false, ["hot"]⟩,
  .addRule ⟨"copy", .container, 2, .replicate, false, ["hot"]⟩,
  .associate "move" "web-1",
  .associate "copy" "web-1",
  .removeRule "move"]

/-- The rule comes back without its association; the other rule has kept its own, and to associate it
once more is no change. -/
theorem recreated_rule_starts_over : ∃ next again : Catalog,
    (history recreation).addRule ⟨"move",.container,1,.migrate,false,["hot"]⟩ = .ok next ∧
    next.targetsOf "move" = [] ∧ (∀ target, "move" ∉ next.rulesOf target) ∧
    ("copy","web-1") ∈ related recreation ∧
    (history recreation).associate "copy" "web-1" = .ok (false,again) ∧
    related (recreation ++ [.associate "copy" "web-1"]) = related recreation := by
  obtain ⟨byRule,_,_,_,_,associated,_,added⟩ := associations_are_one_relation recreation
  have goes : ((history recreation).addRule
      ⟨"move",.container,1,.migrate,false,["hot"]⟩).toOption.isSome = true := by decide +kernel
  have kept : "web-1" ∈ (history recreation).targetsOf "copy" := by decide +kernel
  have answer : ((history recreation).associate "copy" "web-1").map (·.1) = .ok false := by
    decide +kernel
  obtain ⟨next,done⟩ := toOption_isSome_iff.mp goes
  obtain ⟨none_of_rule,none_of_target⟩ := added _ next done
  cases repeated : (history recreation).associate "copy" "web-1" with
  | error err => rw [repeated] at answer; cases answer
  | ok pair =>
    obtain ⟨changed,again⟩ := pair
    rw [repeated] at answer
    cases answer
    refine ⟨next,again,done,none_of_rule,none_of_target,(byRule "copy").1 _ |>.mp kept,rfl,?_⟩
    by_contra different
    exact Bool.false_ne_true ((associated "copy" "web-1" false again repeated).mpr different)

end Catalog

end GeoFleet
