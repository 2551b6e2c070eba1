import GeoFleet.Proofs.Metric.Sampling
import GeoFleet.Proofs.Placement.Selection

/-! The checks of a placement. All candidates are checked at once, each for as long as its samples take, and
those that pass are put together by address. Of hosts with different addresses exactly those with room for
the footprint pass, in whatever order their checks come to an end. -/
namespace GeoFleet.Admission

variable {a : Admission} {s : Source} {footprint : Nat} {checked done : List (Host × Bool)}
  {hosts : List Host} {h : Host}

/-- Both samples of the host's memory come before the timeout, and with the footprint its use stays below
the limit. -/
structure HasRoom (a : Admission) (s : Source) (footprint : Nat) (h : Host) : Prop where
  in_time : ∀ millis, s.delay h.publicAddress = some millis → millis < a.timeout.millis
  fits : ∃ total available, s.answer h.publicAddress a.totalQuery = some total ∧
    s.answer h.publicAddress a.availableQuery = some available ∧ 0.0 < total ∧
    (1.0 - (available - Float.ofNat footprint) / total) * 100.0 < a.maxPercent

theorem admits_iff {total available : Option Float} {footprint maxPercent : Float} :
    admits total available footprint maxPercent = true ↔ ∃ t v, total = some t ∧ available = some v ∧ 0.0 < t ∧
      (1.0 - (v - footprint) / t) * 100.0 < maxPercent := by
  cases total with
  | none => simp [admits,predictedUsage]
  | some t =>
    by_cases positive : 0.0 < t
    · cases available with
      | none => simp [admits,predictedUsage]
      | some v => simp [admits,predictedUsage,Option.filter,positive]
    · simp [admits,predictedUsage,Option.filter,positive]

theorem isAdmissible_iff : a.isAdmissible s footprint h = true ↔ a.HasRoom s footprint h := by
  simp only [isAdmissible,admits_iff,Source.fetch_eq_some_iff]
  constructor
  · rintro ⟨total,available,⟨in_time,first⟩,⟨_,second⟩,positive,below⟩
    exact ⟨in_time,total,available,first,second,positive,below⟩
  · rintro ⟨in_time,total,available,first,second,positive,below⟩
    exact ⟨total,available,⟨in_time,first⟩,⟨in_time,second⟩,positive,below⟩

def passed (checked : List (Host × Bool)) : Std.ExtTreeMap String Host :=
  checked.foldl (fun m (h, admitted) => if admitted then m.insertIfNew h.publicAddress h else m) ∅

theorem gather_eq (checked : List (Host × Bool)) : gather checked = (passed checked).values := rfl

theorem passed_fills : Fills
    (fun m (h,admitted) => if admitted then m.insertIfNew h.publicAddress h else m :
      Std.ExtTreeMap String Host → Host × Bool → Std.ExtTreeMap String Host)
    (fun x : Host × Bool => x.1.publicAddress) (fun x : Host × Bool => if x.2 then some x.1 else none) := by
  constructor
  · intro m (h,admitted) (free : m[h.publicAddress]? = none)
    have unknown : h.publicAddress ∉ m := by
      rw [← Std.ExtTreeMap.isSome_getElem?_iff_mem,free]
      exact Bool.false_ne_true
    cases admitted with
    | false => exact free
    | true => simp only [if_true,Std.ExtTreeMap.getElem?_insertIfNew,Std.ReflCmp.compare_self,unknown,
        not_false_eq_true,and_self]
  · intro m (h,admitted) other (apart : h.publicAddress ≠ other)
    cases admitted <;> simp [Std.ExtTreeMap.getElem?_insertIfNew,apart]

theorem passed_eq_some_iff (distinct : (checked.map fun x => x.1.publicAddress).Nodup) {address : String} :
    (passed checked)[address]? = some h ↔ (h,true) ∈ checked ∧ h.publicAddress = address := by
  rw [passed,passed_fills.getElem?_eq_some_iff distinct]
  constructor
  · rintro ⟨⟨g,admitted⟩,listed,rfl,stored⟩
    cases admitted with
    | false => cases stored
    | true => cases stored; exact ⟨listed,rfl⟩
  · rintro ⟨listed,rfl⟩
    exact ⟨_,listed,rfl,rfl⟩

theorem mem_gather_iff (distinct : (checked.map fun x => x.1.publicAddress).Nodup) :
    h ∈ gather checked ↔ (h,true) ∈ checked := by
  rw [gather_eq,mem_values_iff]
  simp only [passed_eq_some_iff distinct,exists_and_left,exists_eq',and_true]

/-- Checks of different hosts can come to an end in any order. -/
theorem gather_perm (reordered : done.Perm checked) (distinct : (checked.map fun x => x.1.publicAddress).Nodup) :
    gather done = gather checked :=
  congrArg Std.ExtTreeMap.values (passed_fills.perm reordered distinct)

theorem gather_ordered (distinct : (checked.map fun x => x.1.publicAddress).Nodup) :
    (gather checked).Pairwise fun g h => g.order h = .lt := by
  rw [gather_eq,values_eq_map_toList,List.pairwise_map]
  refine Std.ExtTreeMap.ordered_keys_toList.imp_of_mem ?_
  intro x y first second less
  have left := Std.ExtTreeMap.mem_toList_iff_getElem?_eq_some.mp first
  have right := Std.ExtTreeMap.mem_toList_iff_getElem?_eq_some.mp second
  rw [Host.order,((passed_eq_some_iff distinct).mp left).2,((passed_eq_some_iff distinct).mp right).2]
  exact less

theorem checks_addresses (a : Admission) (s : Source) (footprint : Nat) (hosts : List Host) :
    (a.checks s footprint hosts).map (fun x => x.1.publicAddress) = hosts.map (·.publicAddress) := by
  simp [checks]

theorem mem_admissible_iff (distinct : (hosts.map (·.publicAddress)).Nodup) :
    h ∈ a.admissible s footprint hosts ↔ h ∈ hosts ∧ a.HasRoom s footprint h := by
  rw [← isAdmissible_iff]
  constructor
  · exact mem_admissible
  · rintro ⟨listed,passes⟩
    rw [admissible,mem_gather_iff (by rwa [checks_addresses])]
    exact List.mem_map.mpr ⟨h,listed,by rw [passes]⟩

/-- What has come of the check of a host. Both samples are awaited at once, and at the timeout the host is
refused if one of them is not there. -/
def check (a : Admission) (s : Source) (footprint : Nat) (h : Host) (clock : Nat) : Option (Host × Bool) :=
  match s.await a.timeout h.publicAddress a.totalQuery clock,
    s.await a.timeout h.publicAddress a.availableQuery clock with
  | some total, some available => some (h,admits total available (Float.ofNat footprint) a.maxPercent)
  | _, _ => if a.timeout.millis ≤ clock then some (h,false) else none

theorem check_ends (apart : s.delay h.publicAddress ≠ some a.timeout.millis) :
    Flight.Ends (a.check s footprint) h (s.endsAt a.timeout h.publicAddress) (h,a.isAdmissible s footprint h) := by
  have total := Source.await_ends apart a.totalQuery
  have available := Source.await_ends apart a.availableQuery
  constructor
  · intro clock early
    have in_time : ¬a.timeout.millis ≤ clock := by
      have bound : s.endsAt a.timeout h.publicAddress ≤ a.timeout.millis := Nat.min_le_right _ _
      omega
    simp only [check,total.waits clock early,in_time,if_false]
  · simp only [check,total.finishes,available.finishes]
    rfl

/-- The checks come to their ends by the timeout, whatever runs between, and each as it would on its own. -/
theorem checks_land (apart : ∀ h ∈ hosts, s.delay h.publicAddress ≠ some a.timeout.millis)
    {run : Nat → Flight Host (Host × Bool)} (runs : Flight.Run (a.check s footprint) hosts run) :
    (∃ n, (run n).pending = []) ∧ ∀ n, (run n).clock ≤ a.timeout.millis ∧
      ((run n).pending = [] → (run n).landed.Perm (a.checks s footprint hosts)) :=
  runs.lands (fun h member => check_ends (apart h member)) fun _ _ => Nat.min_le_right _ _

end GeoFleet.Admission
