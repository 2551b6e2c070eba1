import GeoFleet.Placement.Selection
import GeoFleet.Proofs.Collections

/-! What selecting a host promises. The host that is chosen was offered, was eligible, and passed its
check; gathering the checks and measuring distances leave nothing else in. -/
namespace GeoFleet.Admission

theorem mem_gather {checked : List (Host × Bool)} (member : h ∈ gather checked) :
    (h,true) ∈ checked := by
  obtain ⟨address,found⟩ := mem_values_iff.mp member
  clear member
  revert address h
  refine List.foldlRecOn (motive := fun m : Std.ExtTreeMap String Host =>
    ∀ {h : Host} (address : String), m[address]? = some h → (h,true) ∈ checked) checked _ ?_ ?_
  · intro h address found
    simp at found
  · intro m valid pair within h address found
    obtain ⟨candidate,admitted⟩ := pair
    cases admitted with
    | false => exact valid address found
    | true =>
      simp only [if_true,Std.ExtTreeMap.getElem?_insertIfNew] at found
      split at found
      · cases found
        exact within
      · exact valid address found

theorem mem_admissible {a : Admission} {candidates : List Host}
    (member : h ∈ a.admissible s footprint candidates) :
    h ∈ candidates ∧ a.isAdmissible s footprint h = true := by
  obtain ⟨candidate,present,same⟩ := List.mem_map.mp (mem_gather member)
  obtain ⟨rfl,passed⟩ := Prod.mk.inj same
  exact ⟨present,passed⟩

theorem nearestOf?_mem {hs : List (Float × Host)} {h : Float × Host} (nearest : nearestOf? hs = some h) :
    h ∈ hs := by
  cases hs with
  | nil => cases nearest
  | cons first rest =>
    cases nearest
    apply foldl_choice_mem
    intro a b
    unfold nearer
    split
    · exact .inr rfl
    · exact .inl rfl

theorem mem_measured_iff {hosts : List Host} {x : Float × Host} :
    x ∈ measured point hosts ↔ x.2 ∈ hosts ∧ ∃ c, x.2.coordinate = some c ∧ x.1 = c.distance point := by
  obtain ⟨distance,h⟩ := x
  simp only [measured,List.mem_filterMap,Option.map_eq_some_iff,Prod.mk.injEq]
  constructor
  · rintro ⟨g,listed,c,located,rfl,rfl⟩; exact ⟨listed,c,located,rfl⟩
  · rintro ⟨listed,c,located,rfl⟩; exact ⟨h,listed,c,located,rfl,rfl⟩

/-- The chosen host was offered, may be chosen, and can take the footprint. -/
theorem nearest_ok {a : Admission} {hosts excluded : List Host}
    (done : a.nearest s footprint region point hosts excluded = .ok h) :
    h ∈ hosts ∧ eligible region excluded h = true ∧ a.isAdmissible s footprint h = true := by
  unfold nearest at done
  simp only at done
  split at done
  · rename_i distance chosen best
    cases done
    obtain ⟨offered,passed⟩ := mem_admissible (mem_measured_iff.mp (nearestOf?_mem best)).1
    obtain ⟨known,may⟩ := List.mem_filter.mp offered
    exact ⟨known,may,passed⟩
  · cases done

theorem eligible_iff {excluded : List Host} :
    eligible region excluded h = true ↔
      h.region = region ∧ h.coordinate.isSome = true ∧ ∀ other ∈ excluded, ¬h.Same other := by
  simp only [eligible,Bool.and_eq_true,decide_eq_true_eq,Bool.not_eq_true',List.any_eq_false,and_assoc]

end GeoFleet.Admission
