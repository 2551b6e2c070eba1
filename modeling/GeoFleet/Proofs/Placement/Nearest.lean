import Mathlib.Data.List.Nodup
import GeoFleet.Proofs.Placement.Checks

/-! The nearest host. Of the hosts that may take a footprint the one that is chosen comes first by distance,
and by address where distances are the same; there is no choice exactly when there is no such host. Neither
the order in which checks come to an end nor that of the lists makes a difference. -/
namespace GeoFleet.Admission

variable {a : Admission} {s : Source} {footprint : Nat} {region : Region} {point : Coordinate}
  {hosts excluded : List Host} {g h : Host} {c d : Coordinate}

structure MayTake (a : Admission) (s : Source) (footprint : Nat) (region : Region) (excluded : List Host)
    (h : Host) : Prop where
  own : h.region = region
  located : ∃ c, h.coordinate = some c
  spared : ∀ other ∈ excluded, h.publicAddress ≠ other.publicAddress
  room : a.HasRoom s footprint h

/-- Seen from a point, one host is nearer than another, or as near and of the lower address. -/
def Before (point : Coordinate) (h g : Host) : Prop :=
  ∃ c d, h.coordinate = some c ∧ g.coordinate = some d ∧
    (Magnitude.compareTotal (c.distance point) (d.distance point) = .lt ∨
      Magnitude.compareTotal (c.distance point) (d.distance point) = .eq ∧
        compare h.publicAddress g.publicAddress = .lt)

structure Nearest (a : Admission) (s : Source) (footprint : Nat) (region : Region) (point : Coordinate)
    (hosts excluded : List Host) (h : Host) : Prop where
  offered : h ∈ hosts
  fit : a.MayTake s footprint region excluded h
  first : ∀ g ∈ hosts, a.MayTake s footprint region excluded g → g ≠ h → Before point h g

theorem proximity_eq_compareLex : proximity =
    compareLex (compareOn fun p => Magnitude.rank p.1) (compareOn fun p => p.2.publicAddress) :=
  rfl

instance : Std.TransCmp proximity := by
  rw [proximity_eq_compareLex]
  infer_instance

theorem before_iff (left : h.coordinate = some c) (right : g.coordinate = some d) :
    Before point h g ↔ proximity (c.distance point,h) (d.distance point,g) = .lt := by
  simp only [Before,left,right,Option.some.injEq,exists_and_left,exists_eq_left',proximity,Host.order,
    Ordering.then_eq_lt]

theorem Before.asymm (ahead : Before point h g) : ¬Before point g h := by
  intro behind
  obtain ⟨c,d,left,right,_⟩ := id ahead
  rw [before_iff left right] at ahead
  rw [before_iff right left] at behind
  exact Std.OrientedCmp.not_lt_of_lt ahead behind

theorem eligible_hasRoom_iff :
    eligible region excluded h = true ∧ a.HasRoom s footprint h ↔ a.MayTake s footprint region excluded h := by
  rw [eligible_iff,Option.isSome_iff_exists]
  constructor
  · rintro ⟨⟨own,located,spared⟩,room⟩; exact ⟨own,located,spared,room⟩
  · rintro ⟨own,located,spared,room⟩; exact ⟨⟨own,located,spared⟩,room⟩

theorem filter_addresses (p : Host → Bool) (distinct : (hosts.map (·.publicAddress)).Nodup) :
    ((hosts.filter p).map (·.publicAddress)).Nodup :=
  distinct.sublist (List.filter_sublist.map _)

/-- The hosts among which the nearest one is sought. -/
theorem mem_admitted_iff (distinct : (hosts.map (·.publicAddress)).Nodup) :
    h ∈ a.admissible s footprint (hosts.filter (eligible region excluded)) ↔
      h ∈ hosts ∧ a.MayTake s footprint region excluded h := by
  rw [mem_admissible_iff (filter_addresses _ distinct),List.mem_filter,and_assoc,eligible_hasRoom_iff]

theorem nearestOf?_eq_none_iff {xs : List (Float × Host)} : nearestOf? xs = none ↔ xs = [] := by
  cases xs <;> simp [nearestOf?]

theorem nearestOf?_isLE {xs : List (Float × Host)} {w : Float × Host} (nearest : nearestOf? xs = some w) :
    ∀ x ∈ xs, (proximity w x).isLE := by
  cases xs with
  | nil => cases nearest
  | cons x rest =>
    cases nearest
    exact foldl_least_isLE (fun _ _ => rfl) rest x

def choice (footprint : Nat) (region : Region) (point : Coordinate) (checked : List (Host × Bool)) :
    Except NoCapableHost Host :=
  match nearestOf? (measured point (gather checked)) with
  | some (_, h) => .ok h
  | none => .error ⟨region, footprint⟩

/-- The choice is a host before all others, or there is none that may take the footprint. -/
theorem nearest_cases (a : Admission) (s : Source) (footprint : Nat) (region : Region) (point : Coordinate)
    (distinct : (hosts.map (·.publicAddress)).Nodup) (excluded : List Host) :
    (∃ h, a.nearest s footprint region point hosts excluded = .ok h ∧
      a.Nearest s footprint region point hosts excluded h) ∨
    (a.nearest s footprint region point hosts excluded = .error ⟨region,footprint⟩ ∧
      ∀ h ∈ hosts, ¬a.MayTake s footprint region excluded h) := by
  have measures {h : Host} {c : Coordinate} (offered : h ∈ hosts) (fit : a.MayTake s footprint region excluded h)
      (located : h.coordinate = some c) : (c.distance point,h) ∈
        measured point (a.admissible s footprint (hosts.filter (eligible region excluded))) :=
    mem_measured_iff.mpr ⟨(mem_admitted_iff distinct).mpr ⟨offered,fit⟩,c,located,rfl⟩
  unfold nearest
  simp only
  cases chosen : nearestOf? (measured point (a.admissible s footprint (hosts.filter (eligible region excluded)))) with
  | none =>
    refine .inr ⟨rfl,?_⟩
    intro h offered fit
    obtain ⟨c,located⟩ := fit.located
    have listed := measures offered fit located
    rw [nearestOf?_eq_none_iff.mp chosen] at listed
    cases listed
  | some w =>
    obtain ⟨distance,h⟩ := w
    obtain ⟨listed,c,located,rfl⟩ := mem_measured_iff.mp (nearestOf?_mem chosen)
    obtain ⟨offered,fit⟩ := (mem_admitted_iff distinct).mp listed
    refine .inl ⟨h,rfl,offered,fit,?_⟩
    intro g there fits apart
    obtain ⟨d,place⟩ := fits.located
    have level := nearestOf?_isLE chosen _ (measures there fits place)
    rw [before_iff located place]
    cases compared : proximity (c.distance point,h) (d.distance point,g) with
    | lt => rfl
    | gt => rw [compared] at level; cases level
    | eq =>
      -- Hosts that are level have one address.
      have same : h.Same g := Host.order_eq_iff.mp (Ordering.then_eq_eq.mp compared).2
      exact absurd (List.inj_on_of_nodup_map distinct there offered same.symm) apart

theorem nearest_ok_iff (distinct : (hosts.map (·.publicAddress)).Nodup) :
    a.nearest s footprint region point hosts excluded = .ok h ↔
      a.Nearest s footprint region point hosts excluded h := by
  rcases nearest_cases a s footprint region point distinct excluded with ⟨w,chosen,nearest⟩ | ⟨failed,nobody⟩
  · rw [chosen,Except.ok.injEq]
    constructor
    · rintro rfl; exact nearest
    · intro other
      by_contra apart
      exact (nearest.first h other.offered other.fit (Ne.symm apart)).asymm
        (other.first w nearest.offered nearest.fit apart)
  · simp only [failed,reduceCtorEq,false_iff]
    intro nearest
    exact nobody h nearest.offered nearest.fit

end GeoFleet.Admission
