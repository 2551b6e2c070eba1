import GeoFleet.Proofs.Placement.Nearest

/-! All hosts of several regions. One round of checks serves every region asked for, and what a region gets
is what it would get on its own: its hosts with room, by address. So the nearest host of a region is sought
among the very hosts that are listed for it. -/
namespace GeoFleet.Admission

variable {a : Admission} {s : Source} {footprint : Nat} {regions : List Region} {r : Region}
  {point : Coordinate} {hosts own : List Host} {h : Host} {checked done : List (Host × Bool)}

def wanted (regions : List Region) : List Region := Region.all.filter regions.contains

@[simp] theorem mem_wanted_iff : r ∈ wanted regions ↔ r ∈ regions := by
  simp [wanted,Region.mem_all]

theorem wanted_ordered (regions : List Region) :
    (wanted regions).Pairwise fun q r => q.ordinal < r.ordinal := by
  have all_ordered : Region.all.Pairwise fun q r => q.ordinal < r.ordinal := by decide
  exact all_ordered.sublist List.filter_sublist

def inRegions (regions : List Region) (hosts : List Host) : List Host :=
  hosts.filter fun h => (wanted regions).contains h.region

theorem mem_inRegions_iff : h ∈ inRegions regions hosts ↔ h ∈ hosts ∧ h.region ∈ regions := by
  simp [inRegions]

def grouped (regions : List Region) (checked : List (Host × Bool)) : List (Region × List Host) :=
  (wanted regions).map fun r => (r,(gather checked).filter (·.region = r))

theorem broadcast_eq_grouped (a : Admission) (s : Source) (footprint : Nat) (regions : List Region)
    (hosts : List Host) : a.broadcast s footprint regions hosts =
      grouped regions (a.checks s footprint (inRegions regions hosts)) :=
  rfl

theorem grouped_regions (regions : List Region) (checked : List (Host × Bool)) :
    (grouped regions checked).map Prod.fst = wanted regions := by
  rw [grouped,List.map_map]
  exact List.map_id _

theorem mem_grouped_iff : (r,own) ∈ grouped regions checked ↔
    r ∈ regions ∧ own = (gather checked).filter (·.region = r) := by
  simp only [grouped,List.mem_map,mem_wanted_iff,Prod.mk.injEq]
  constructor
  · rintro ⟨_,asked,rfl,rfl⟩; exact ⟨asked,rfl⟩
  · rintro ⟨asked,rfl⟩; exact ⟨r,asked,rfl,rfl⟩

theorem grouped_perm (distinct : (hosts.map (·.publicAddress)).Nodup)
    (reordered : done.Perm (a.checks s footprint (inRegions regions hosts))) :
    grouped regions done = a.broadcast s footprint regions hosts := by
  have checked := gather_perm reordered (by rw [checks_addresses]; exact filter_addresses _ distinct)
  rw [broadcast_eq_grouped,grouped,grouped,checked]

structure Lists (a : Admission) (s : Source) (footprint : Nat) (r : Region) (hosts own : List Host) : Prop where
  ordered : own.Pairwise fun g h => g.order h = .lt
  exact : ∀ h, h ∈ own ↔ h ∈ hosts ∧ h.region = r ∧ a.HasRoom s footprint h

theorem broadcast_lists (distinct : (hosts.map (·.publicAddress)).Nodup)
    (listed : (r,own) ∈ a.broadcast s footprint regions hosts) : a.Lists s footprint r hosts own := by
  have distinct' : ((inRegions regions hosts).map (·.publicAddress)).Nodup := filter_addresses _ distinct
  rw [broadcast_eq_grouped,mem_grouped_iff] at listed
  obtain ⟨asked,rfl⟩ := listed
  refine ⟨?_,?_⟩
  · exact (gather_ordered (by rwa [checks_addresses])).sublist List.filter_sublist
  · intro h
    have passes : h ∈ gather (a.checks s footprint (inRegions regions hosts)) ↔
        h ∈ inRegions regions hosts ∧ a.HasRoom s footprint h := mem_admissible_iff distinct'
    rw [List.mem_filter,passes,mem_inRegions_iff,decide_eq_true_eq]
    constructor
    · rintro ⟨⟨⟨known,_⟩,room⟩,here⟩; exact ⟨known,here,room⟩
    · rintro ⟨known,rfl,room⟩; exact ⟨⟨⟨known,asked⟩,room⟩,rfl⟩

/-- Without exclusions, whoever may take a footprint is listed for the region and has a place. -/
theorem Lists.mayTake_iff (lists : a.Lists s footprint r hosts own) :
    h ∈ hosts ∧ a.MayTake s footprint r [] h ↔ h ∈ own ∧ ∃ c, h.coordinate = some c := by
  rw [lists.exact]
  constructor
  · rintro ⟨known,fit⟩; exact ⟨⟨known,fit.own,fit.room⟩,fit.located⟩
  · rintro ⟨⟨known,here,room⟩,located⟩
    exact ⟨known,here,located,fun _ excluded => absurd excluded List.not_mem_nil,room⟩

theorem Lists.nearest_mem (distinct : (hosts.map (·.publicAddress)).Nodup)
    (lists : a.Lists s footprint r hosts own) (chosen : a.nearest s footprint r point hosts [] = .ok h) :
    h ∈ own ∧ ∃ c, h.coordinate = some c := by
  have nearest := (nearest_ok_iff distinct).mp chosen
  exact lists.mayTake_iff.mp ⟨nearest.offered,nearest.fit⟩

theorem Lists.nearest_exists_iff (distinct : (hosts.map (·.publicAddress)).Nodup)
    (lists : a.Lists s footprint r hosts own) :
    (∃ h, a.nearest s footprint r point hosts [] = .ok h) ↔ ∃ h ∈ own, ∃ c, h.coordinate = some c := by
  constructor
  · rintro ⟨h,chosen⟩
    exact ⟨h,lists.nearest_mem distinct chosen⟩
  · rintro ⟨h,member,located⟩
    obtain ⟨known,fit⟩ := lists.mayTake_iff.mpr ⟨member,located⟩
    rcases nearest_cases a s footprint r point distinct [] with ⟨w,chosen,_⟩ | ⟨_,nobody⟩
    · exact ⟨w,chosen⟩
    · exact absurd fit (nobody h known)

/-- Each region asked for is there once, in the order of regions, and no other is. Among hosts of different
addresses it lists exactly the region's hosts with room, by address. Any order in which the checks come to an end
leads to that; if no sample comes at the very moment of the timeout, they all do by then, whatever runs between.
From every point there is a nearest host of the region exactly when a host at a known place is listed, and it is
one of those. -/
theorem broadcast_agrees_with_nearest (a : Admission) (s : Source) (footprint : Nat) (regions : List Region)
    {hosts : List Host} (distinct : (hosts.map (·.publicAddress)).Nodup) :
    let result := a.broadcast s footprint regions hosts
    let candidates := inRegions regions hosts
    (result.map Prod.fst).Pairwise (fun q r => q.ordinal < r.ordinal) ∧
    (∀ r, r ∈ result.map Prod.fst ↔ r ∈ regions) ∧
    (∀ r own, (r,own) ∈ result → a.Lists s footprint r hosts own ∧
      ∀ point,
        ((∃ h, a.nearest s footprint r point hosts [] = .ok h) ↔ ∃ h ∈ own, ∃ c, h.coordinate = some c) ∧
        ∀ h, a.nearest s footprint r point hosts [] = .ok h → h ∈ own) ∧
    (∀ done, done.Perm (a.checks s footprint candidates) → grouped regions done = result) ∧
    ((∀ h ∈ hosts, s.delay h.publicAddress ≠ some a.timeout.millis) →
      ∀ run, Flight.Run (a.check s footprint) candidates run →
        (∃ n, (run n).pending = []) ∧ ∀ n, (run n).clock ≤ a.timeout.millis ∧
          ((run n).pending = [] → grouped regions (run n).landed = result)) := by
  intro result candidates
  have keys : result.map Prod.fst = wanted regions := grouped_regions _ _
  refine ⟨?_,?_,?_,fun done reordered => grouped_perm distinct reordered,?_⟩
  · rw [keys]; exact wanted_ordered regions
  · intro r; rw [keys]; exact mem_wanted_iff
  · intro r own listed
    have lists := broadcast_lists distinct listed
    exact ⟨lists,fun point =>
      ⟨lists.nearest_exists_iff distinct,fun h chosen => (lists.nearest_mem distinct chosen).1⟩⟩
  · intro apart run runs
    obtain ⟨ends,lands⟩ := checks_land (fun h member => apart h (mem_inRegions_iff.mp member).1) runs
    exact ⟨ends,fun n => ⟨(lands n).1,fun done => grouped_perm distinct ((lands n).2 done)⟩⟩

/-- Of two hosts of a region that is asked for twice one is full. The other is listed, and
every point has its nearest host in that list; a region that was not asked for is not there. -/
theorem full_host_is_not_listed :
    let host : String → Region → Host := fun address region =>
      ⟨none,address,none,some ⟨"lisbon",38.7223,-9.1393⟩,region⟩
    let hosts := [host "eu-2" .europe,host "eu-1" .europe,host "as-1" .asia,host "na-1" .northAmerica]
    let s : Source :=
      { answer := fun address query => if query = "total" then some 8.0
          else if address = "eu-2" then some 0.5 else some 6.0
        delay := fun _ => none }
    let a : Admission := ⟨"total","available",90.0,⟨200⟩⟩
    let result := a.broadcast s 1 [.europe,.asia,.europe,.oceania] hosts
    (hosts.map (·.publicAddress)).Nodup ∧ .northAmerica ∉ result.map Prod.fst ∧
      ∃ own, (.europe,own) ∈ result ∧ host "eu-2" .europe ∉ own ∧ host "eu-1" .europe ∈ own ∧
        ∀ point, ∃ h ∈ own, a.nearest s 1 .europe point hosts [] = .ok h := by
  intro host hosts s a result
  have distinct : (hosts.map (·.publicAddress)).Nodup := by decide
  obtain ⟨_,asked,lists,_⟩ := broadcast_agrees_with_nearest a s 1 [.europe,.asia,.europe,.oceania] distinct
  obtain ⟨⟨_,own⟩,listed,rfl⟩ := List.mem_map.mp ((asked .europe).mpr (by decide))
  obtain ⟨served,agrees⟩ := lists _ own listed
  have spacious : host "eu-1" .europe ∈ own := by
    refine (served.exact _).mpr ⟨by simp [hosts],rfl,by simp [s],8.0,6.0,rfl,rfl,?_,?_⟩ <;> decide +kernel
  refine ⟨distinct,fun there => absurd ((asked _).mp there) (by decide),own,listed,?_,spacious,?_⟩
  · intro there
    obtain ⟨_,_,room⟩ := (served.exact _).mp there
    obtain ⟨total,available,first_sample,second_sample,_,below⟩ := room.fits
    cases first_sample
    cases second_sample
    exact absurd below (by decide +kernel)
  · intro point
    obtain ⟨h,chosen⟩ := (agrees point).1.mpr ⟨_,spacious,_,rfl⟩
    exact ⟨h,(agrees point).2 h chosen,chosen⟩

end GeoFleet.Admission
