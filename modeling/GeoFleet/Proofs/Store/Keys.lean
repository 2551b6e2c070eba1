import GeoFleet.Store.Record

/-! Keys of the log tell targets and times apart, whatever characters a target is made of: a time is
written in digits, so it begins after the last separator of its key. -/
namespace GeoFleet

namespace Decimal

theorem value_padded (width n : Nat) : value (padded width n) = n := by
  change Nat.ofDigitChars 10 (padded width n) 0 = n
  simp [padded,digits,Nat.ofDigitChars_append]

theorem padded_injective (same : padded width n = padded width m) : n = m := by
  have values := congrArg value same
  rwa [value_padded,value_padded] at values

theorem isDigit_of_mem_padded {c : Char} (member : c ∈ padded width n) : c.isDigit = true := by
  rcases List.mem_append.mp member with zero | digit
  · obtain ⟨_,rfl⟩ := List.mem_replicate.mp zero
    decide
  · exact Nat.isDigit_of_mem_toDigits (by decide) (by decide) digit

end Decimal

theorem append_cons_inj_of_last {c : α} {as bs ps qs : List α} (left : c ∉ ps) (right : c ∉ qs)
    (same : as ++ c :: ps = bs ++ c :: qs) : as = bs ∧ ps = qs := by
  rcases List.append_eq_append_iff.mp same with ⟨gap,rfl,rest⟩ | ⟨gap,rfl,rest⟩
  · cases gap with
    | nil => cases rest; simp
    | cons first gap =>
      cases rest
      exact absurd (List.mem_append_right _ List.mem_cons_self) left
  · cases gap with
    | nil => cases rest; simp
    | cons first gap =>
      cases rest
      exact absurd (List.mem_append_right _ List.mem_cons_self) right

theorem Key.decision_injective {t u : String} (same : decision t n = decision u m) : t = u ∧ n = m := by
  have lists := congrArg String.toList same
  simp only [decision,stem,separator,String.toList_append,String.toList_ofList,List.append_assoc] at lists
  have digital : ∀ k, '\x00' ∉ Decimal.padded 20 k := by
    intro k member
    have digit := Decimal.isDigit_of_mem_padded member
    revert digit
    decide
  obtain ⟨targets,times⟩ := append_cons_inj_of_last (digital n) (digital m) lists
  exact ⟨String.toList_inj.mp targets,Decimal.padded_injective times⟩

namespace DecisionRecord

theorem key_eq_iff {r other : DecisionRecord} :
    r.key = other.key ↔ (r.target,r.epoch) = (other.target,other.epoch) := by
  constructor
  · intro same
    obtain ⟨target,epoch⟩ := Key.decision_injective same
    rw [target,epoch]
  · intro same
    obtain ⟨target,epoch⟩ := Prod.mk.inj same
    rw [key,key,target,epoch]

/-- Writing and reading a record again keeps everything but, maybe, its values. -/
theorem stored?_target {r back : DecisionRecord} (stored : r.stored? = some back) :
    back.target = r.target ∧ back.epoch = r.epoch := by
  obtain ⟨values,_,same⟩ := Option.bind_eq_some_iff.mp stored
  cases same
  exact ⟨rfl,rfl⟩

end DecisionRecord

end GeoFleet
