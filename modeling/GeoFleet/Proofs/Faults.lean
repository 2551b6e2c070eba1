import GeoFleet.Proofs.Collections

/-! Checks that go through a list and stop at the first fault. What is accepted, and the error otherwise,
is told by what can be wrong with one element after the elements before it. -/
namespace GeoFleet

/-- A check comes to a good value while nothing is wrong, and otherwise to the one thing that is. -/
def Checks (x : Except ε α) (good : α → Prop) (wrong : ε → Prop) : Prop :=
  match x with
  | .ok a => good a ∧ ∀ err, ¬wrong err
  | .error err => ∀ other, wrong other ↔ other = err

namespace Checks

variable {x : Except ε α} {good : α → Prop} {wrong : ε → Prop}

theorem ok (holds : good a) (nothing : ∀ err, ¬wrong err) : Checks (.ok a) good wrong := ⟨holds,nothing⟩

theorem error (found : wrong err) (only : ∀ other, wrong other → other = err) :
    Checks (.error err) good wrong := by
  intro other
  exact ⟨only other,fun same => same ▸ found⟩

theorem ok_iff (checks : Checks x good wrong) : (∃ a, x = .ok a) ↔ ∀ err, ¬wrong err := by
  cases x with
  | ok a => exact ⟨fun _ => checks.2,fun _ => ⟨a,rfl⟩⟩
  | error err =>
    constructor
    · rintro ⟨a,done⟩; cases done
    · intro nothing; exact absurd ((checks err).mpr rfl) (nothing err)

theorem good_of_ok (checks : Checks x good wrong) (done : x = .ok a) : good a := by
  subst done
  exact checks.1

theorem error_iff (checks : Checks x good wrong) : x = .error err ↔ wrong err := by
  cases x with
  | ok a =>
    constructor
    · intro failed; cases failed
    · intro found; exact absurd found (checks.2 err)
  | error first =>
    rw [checks err,Except.error.injEq]
    exact eq_comm

theorem congr {wrong' : ε → Prop} (checks : Checks x good wrong) (same : ∀ err, wrong' err ↔ wrong err) :
    Checks x good wrong' := by
  cases x with
  | ok a => exact ⟨checks.1,fun err found => checks.2 err ((same err).mp found)⟩
  | error err => exact fun other => (same other).trans (checks other)

/-- The second of two checks matters only when nothing is wrong with the first. -/
theorem bind {f : α → Except ε β} {good' : β → Prop} {wrong' : ε → Prop} (first : Checks x good wrong)
    (second : ∀ a, good a → Checks (f a) good' wrong') :
    Checks (x >>= f) good' fun err => wrong err ∨ (∀ other, ¬wrong other) ∧ wrong' err := by
  cases x with
  | error err =>
    intro other
    constructor
    · rintro (found | ⟨nothing,_⟩)
      · exact (first other).mp found
      · exact absurd ((first err).mpr rfl) (nothing err)
    · intro same
      exact .inl ((first other).mpr same)
  | ok a =>
    apply (second a first.1).congr
    intro err
    constructor
    · rintro (found | ⟨_,later⟩)
      · exact absurd found (first.2 err)
      · exact later
    · intro later
      exact .inr ⟨first.2,later⟩

/-- A check that something is not so comes before another one. -/
theorem guard {p : Prop} [Decidable p] (rest : ¬p → Checks x good wrong) :
    Checks (if p then .error err else x) good fun other => (p ∧ other = err) ∨ (¬p ∧ wrong other) := by
  by_cases holds : p
  · rw [if_pos holds]
    exact .error (.inl ⟨holds,rfl⟩) fun other => by simp [holds]
  · rw [if_neg holds]
    exact (rest holds).congr fun other => by simp [holds]

end Checks

def Faultless (fault : List β → β → ε → Prop) (l : List β) : Prop :=
  ∀ before b after, l = before ++ b :: after → ∀ err, ¬fault before b err

def FirstFault (fault : List β → β → ε → Prop) (l : List β) (err : ε) : Prop :=
  ∃ before b after, l = before ++ b :: after ∧ Faultless fault before ∧ fault before b err

variable {fault : List β → β → ε → Prop}

/-- An element of a longer list is the last one, or an element of the list without the last. -/
theorem split_concat {l before after : List β} (split : l ++ [last] = before ++ b :: after) :
    (l = before ∧ last = b) ∨ ∃ shorter, l = before ++ b :: shorter := by
  rcases after.eq_nil_or_concat with rfl | ⟨shorter,final,rfl⟩
  · obtain ⟨same,ends⟩ := List.append_inj' split rfl
    exact .inl ⟨same,List.singleton_inj.mp ends⟩
  · have regrouped : before ++ b :: shorter.concat final = (before ++ b :: shorter) ++ [final] := by simp
    exact .inr ⟨shorter,(List.append_inj' (split.trans regrouped) rfl).1⟩

theorem faultless_concat {l : List β} :
    Faultless fault (l ++ [last]) ↔ Faultless fault l ∧ ∀ err, ¬fault l last err := by
  constructor
  · intro clean
    constructor
    · intro before b after split
      exact clean before b (after ++ [last]) (by rw [split]; simp)
    · exact clean l last [] rfl
  · rintro ⟨clean,nothing⟩ before b after split
    rcases split_concat split with ⟨rfl,rfl⟩ | ⟨shorter,split⟩
    · exact nothing
    · exact clean before b shorter split

theorem firstFault_concat {l : List β} :
    FirstFault fault (l ++ [last]) err ↔ FirstFault fault l err ∨ Faultless fault l ∧ fault l last err := by
  constructor
  · rintro ⟨before,b,after,split,clean,found⟩
    rcases split_concat split with ⟨rfl,rfl⟩ | ⟨shorter,split⟩
    · exact .inr ⟨clean,found⟩
    · exact .inl ⟨before,b,shorter,split,clean,found⟩
  · rintro (⟨before,b,after,split,clean,found⟩ | ⟨clean,found⟩)
    · exact ⟨before,b,after ++ [last],by rw [split]; simp,clean,found⟩
    · exact ⟨l,last,[],rfl,clean,found⟩

theorem faultless_iff {l : List β} : Faultless fault l ↔ ∀ err, ¬FirstFault fault l err := by
  induction l using List.reverseRecOn with
  | nil => simp [Faultless,FirstFault]
  | append_singleton l last ih =>
    rw [faultless_concat,ih]
    simp only [firstFault_concat,not_or,forall_and]
    constructor
    · rintro ⟨clean,nothing⟩
      exact ⟨clean,fun err found => nothing err found.2⟩
    · rintro ⟨clean,nothing⟩
      exact ⟨clean,fun err found => nothing err ⟨ih.mpr clean,found⟩⟩

/-- A fold checks a list when each of its steps checks one more element. -/
theorem checks_foldlM {f : α → β → Except ε α} (holds : List β → α → Prop) (origin : holds [] a)
    (step : ∀ earlier b a, holds earlier a → Checks (f a b) (holds (earlier ++ [b])) (fault earlier b))
    (l : List β) : Checks (l.foldlM f a) (holds l) (FirstFault fault l) := by
  induction l using List.reverseRecOn with
  | nil => exact .ok origin (by simp [FirstFault])
  | append_singleton l last ih =>
    rw [List.foldlM_append]
    have next := ih.bind fun a kept => step l last a kept
    simp only [List.foldlM_cons,List.foldlM_nil,bind_pure]
    apply next.congr
    intro err
    rw [firstFault_concat,faultless_iff]

/-- Where an element is clean when its name is new and it is well-formed by itself, a list is clean when
its names differ and its elements are well-formed. -/
theorem faultless_iff_nodup {name : β → γ} {fine : β → Prop} (clean : ∀ earlier b,
      (∀ err, ¬fault earlier b err) ↔ (∀ other ∈ earlier, name other ≠ name b) ∧ fine b) (l : List β) :
    Faultless fault l ↔ (l.map name).Nodup ∧ ∀ b ∈ l, fine b := by
  induction l using List.reverseRecOn with
  | nil => simp [Faultless]
  | append_singleton l last ih =>
    rw [faultless_concat,ih,clean,List.map_append,List.map_singleton,List.nodup_append]
    simp only [List.mem_map,List.mem_singleton,List.mem_append]
    constructor
    · rintro ⟨⟨nodup,each⟩,fresh,good⟩
      refine ⟨⟨nodup,List.pairwise_singleton _ _,?_⟩,?_⟩
      · rintro _ ⟨other,member,rfl⟩ _ rfl
        exact fresh other member
      · rintro b (member | rfl)
        · exact each b member
        · exact good
    · rintro ⟨⟨nodup,_,fresh⟩,each⟩
      refine ⟨⟨nodup,fun b member => each b (.inl member)⟩,?_,each last (.inr rfl)⟩
      intro other member
      exact fresh _ ⟨other,member,rfl⟩ _ rfl

end GeoFleet
