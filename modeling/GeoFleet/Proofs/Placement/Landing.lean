import GeoFleet.Geo.Region
import GeoFleet.Metric.Traffic
import GeoFleet.Proofs.Magnitude

/-! Where workloads should land. The region of a point is the one whose own point is nearest, and of equally
near ones the first; a middle point of requests needs a registered location that they came from. -/
namespace GeoFleet

namespace Region

variable {c : Coordinate} {seen : List Region} {best : Region × Float}

/-- The nearest of the regions seen so far, in front of which none is as near. Until one is nearer than
infinity it is the first of all regions. -/
structure Leads (c : Coordinate) (seen : List Region) (best : Region × Float) : Prop where
  least : ∀ r ∈ seen, ¬c.distance r.coordinate < best.2
  chosen : best = (.africa,1.0 / 0.0) ∨ best.2 = c.distance best.1.coordinate ∧
    ∃ before after, seen = before ++ best.1 :: after ∧ ∀ r ∈ before, ¬c.distance r.coordinate ≤ best.2

theorem Leads.step (leads : Leads c seen best) (r : Region) : Leads c (seen ++ [r]) (nearer c best r) := by
  by_cases less : c.distance r.coordinate < best.2
  · have ahead : ∀ s ∈ seen, ¬c.distance s.coordinate ≤ c.distance r.coordinate :=
      fun s member ordered => leads.least s member (Magnitude.lt_of_le_of_lt ordered less)
    have same : nearer c best r = (r,c.distance r.coordinate) := if_pos less
    rw [same]
    refine ⟨?_,.inr ⟨rfl,seen,[],rfl,ahead⟩⟩
    intro s member shorter
    rcases List.mem_append.mp member with earlier | last
    · exact ahead s earlier (Magnitude.le_of_lt shorter)
    · rw [List.mem_singleton.mp last] at shorter
      exact Magnitude.not_lt_of_le (Magnitude.le_of_lt shorter) shorter
  · have same : nearer c best r = best := if_neg less
    rw [same]
    constructor
    · intro s member
      rcases List.mem_append.mp member with earlier | last
      · exact leads.least s earlier
      · rw [List.mem_singleton.mp last]; exact less
    · rcases leads.chosen with start | ⟨own,before,after,split,ahead⟩
      · exact .inl start
      · exact .inr ⟨own,before,after ++ [r],by simp [split],ahead⟩

theorem leads_foldl (c : Coordinate) (seen : List Region) :
    Leads c seen (seen.foldl (nearer c) (.africa,1.0 / 0.0)) := by
  induction seen using List.reverseRecOn with
  | nil => exact ⟨by simp,.inl rfl⟩
  | append_singleton seen r ih =>
    rw [List.foldl_append]
    exact ih.step r

/-- No region is nearer to a point than the closest one, and none before it is as near. -/
theorem closest_first (c : Coordinate) :
    (∀ r : Region, ¬c.distance r.coordinate < c.distance (closest c).coordinate) ∧
    ∃ before after, all = before ++ closest c :: after ∧
      ∀ r ∈ before, ¬c.distance r.coordinate ≤ c.distance (closest c).coordinate := by
  have leads : Leads c all (all.foldl (nearer c) (.africa,1.0 / 0.0)) := leads_foldl c all
  rcases leads.chosen with start | ⟨own,before,after,split,ahead⟩
  · have first : closest c = .africa := congrArg Prod.fst start
    have least := leads.least
    rw [start] at least
    rw [first]
    constructor
    · intro r shorter
      have number : Magnitude.IsNumber (1.0 / 0.0) := by decide
      exact least r r.mem_all (Magnitude.lt_of_lt_of_not_lt number shorter (Magnitude.not_infinity_lt _))
    · exact ⟨[],_,rfl,by simp⟩
  · have least := leads.least
    rw [own] at least ahead
    exact ⟨fun r => least r r.mem_all,before,after,split,ahead⟩

end Region

namespace Coordinate

/-- Points without positive weight add up to nothing. -/
theorem Moment.ofPoints_weightless {points : List (Coordinate × Float)} (idle : ∀ p ∈ points, p.2 ≤ 0.0) :
    Moment.ofPoints points = ⟨0.0,0.0,0.0,0.0⟩ := by
  unfold Moment.ofPoints
  refine List.foldlRecOn (motive := fun m : Moment => m = ⟨0.0,0.0,0.0,0.0⟩) points _ ?_ ?_
  · rfl
  · intro m nothing p member
    rw [nothing]
    exact if_pos (idle p member)

theorem exists_of_centroid? {label : String} {points : List (Coordinate × Float)}
    (found : centroid? label points = some middle) : ∃ p ∈ points, ¬p.2 ≤ 0.0 := by
  by_contra none_heavy
  simp only [not_exists,not_and,not_not] at none_heavy
  have nothing := Moment.ofPoints_weightless none_heavy
  have light : (0.0 : Float) ≤ 0.0 := by decide
  simp [centroid?,nothing,light] at found

end Coordinate

namespace Traffic

/-- Requests that have a middle point came from a registered location, at least in part. -/
theorem exists_of_middlePoint? {t : Traffic} {service : String} (found : t.middlePoint? service = some middle) :
    ∃ key c, key ∈ (t.of service).byLocation ∧ t.locations[key]? = some c ∧
      ¬(t.of service).share key ≤ 0.0 := by
  obtain ⟨p,listed,heavy⟩ := Coordinate.exists_of_centroid? found
  obtain ⟨⟨key,w⟩,shared,located⟩ := List.mem_filterMap.mp listed
  obtain ⟨_,requested,same⟩ := List.mem_map.mp shared
  obtain ⟨rfl,rfl⟩ := Prod.mk.inj same
  obtain ⟨c,registered,rfl⟩ := Option.map_eq_some_iff.mp located
  exact ⟨_,c,Std.ExtTreeMap.mem_keys.mp requested,registered,heavy⟩

end Traffic

end GeoFleet
