import GeoFleet.Metric.Traffic
import GeoFleet.Proofs.Collections
import Mathlib.Algebra.GroupWithZero.Nat
import Mathlib.Data.List.Nodup

/-! Traffic as the sum of its batches. What is kept about a service is told by the batches that were
recorded since the service was last cleared: its total, and the count of each key, up to the limit of
the counts. Sums do not depend on the order of what is summed up. -/
namespace GeoFleet

namespace Traffic

structure Batch where
  service : String
  count : Nat
  keys : List String

inductive Call where
  | record (b : Batch)
  | register (key : String) (c : Coordinate)
  | clear (service : String)

def perform (t : Traffic) : Call → Traffic
  | .record b => t.record b.service b.count b.keys
  | .register key c => t.registerLocation key c
  | .clear service => t.clear service

def after (calls : List Call) : Traffic := calls.foldl perform empty

/-- The batches of a service, once a call comes after the calls that led to some batches. -/
def Call.batches (service : String) (earlier : List Batch) : Call → List Batch
  | .record b => if b.service = service then earlier ++ [b] else earlier
  | .register _ _ => earlier
  | .clear cleared => if cleared = service then [] else earlier

/-- The batches of a service since it was last cleared. -/
def batches (calls : List Call) (service : String) : List Batch :=
  calls.foldl (Call.batches service) []

def requested (bs : List Batch) : Nat := (bs.map (·.count)).sum

/-- The number of requests that batches attribute to a key: a batch counts as often as it lists the
key. -/
def attributed (bs : List Batch) (key : String) : Nat := (bs.map fun b => b.count * b.keys.count key).sum

@[simp] theorem after_concat (calls : List Call) (call : Call) :
    after (calls ++ [call]) = (after calls).perform call := by
  simp [after]

@[simp] theorem batches_concat (calls : List Call) (call : Call) (service : String) :
    batches (calls ++ [call]) service = call.batches service (batches calls service) := by
  simp [batches]

@[simp] theorem requested_concat (bs : List Batch) (b : Batch) :
    requested (bs ++ [b]) = requested bs + b.count := by
  simp [requested]

@[simp] theorem attributed_concat (bs : List Batch) (b : Batch) (key : String) :
    attributed (bs ++ [b]) key = attributed bs key + b.count * b.keys.count key := by
  simp [attributed]

theorem requested_perm {bs others : List Batch} (reordered : bs.Perm others) :
    requested bs = requested others :=
  (reordered.map _).sum_nat

theorem attributed_perm {bs others : List Batch} (reordered : bs.Perm others) (key : String) :
    attributed bs key = attributed others key :=
  (reordered.map _).sum_nat

/-- What stands under a key after counts were added for each key of a list: the sum of all of them up to
the limit, where the key is listed. -/
theorem getElem?_foldl_plus (keys : List String) (m : Std.ExtTreeMap String Nat) (count : Nat) (key : String) :
    (keys.foldl (fun m k => m.insert k (plus (m[k]?.getD 0) count)) m)[key]? =
      if key ∈ keys then some (min (m[key]?.getD 0 + count * keys.count key) countLimit) else m[key]? := by
  induction keys generalizing m with
  | nil => simp
  | cons first keys ih =>
    rw [List.foldl_cons,ih]
    by_cases same : first = key
    · subst same
      rw [if_pos List.mem_cons_self,List.count_cons_self,Std.ExtTreeMap.getElem?_insert_self]
      by_cases later : first ∈ keys
      · rw [if_pos later,Option.getD_some,plus,Nat.mul_succ]
        congr 1
        omega
      · rw [if_neg later,List.count_eq_zero_of_not_mem later,plus]
        simp
    · have apart : key ≠ first := Ne.symm same
      rw [getElem?_insert_ne same,List.count_cons_of_ne same]
      simp [apart]

/-- What is kept about a service sums up batches: nothing as long as nothing is requested, and after
that the total and the counts of the keys, none of them above the limit. -/
structure Sums (kept : Option ServiceTraffic) (bs : List Batch) : Prop where
  total : kept.map (·.total) = if requested bs = 0 then none else some (min (requested bs) countLimit)
  counts : ∀ key, kept.bind (·.byLocation[key]?) =
    if attributed bs key = 0 then none else some (min (attributed bs key) countLimit)

namespace Sums

variable {kept : Option ServiceTraffic} {bs : List Batch}

theorem none : Sums .none [] := ⟨by simp [requested],by simp [attributed]⟩

theorem total_eq (sums : Sums kept bs) : (kept.getD .empty).total = min (requested bs) countLimit := by
  have total := sums.total
  cases kept with
  | none =>
    by_cases nothing : requested bs = 0
    · simp [ServiceTraffic.empty,nothing]
    · simp [nothing] at total
  | some t =>
    by_cases nothing : requested bs = 0
    · simp [nothing] at total
    · simpa [nothing] using total

theorem getElem?_byLocation (sums : Sums kept bs) (key : String) :
    (kept.getD .empty).byLocation[key]? =
      if attributed bs key = 0 then .none else some (min (attributed bs key) countLimit) := by
  rw [← sums.counts key]
  cases kept with
  | none => simp [ServiceTraffic.empty]
  | some t => rfl

theorem countOf_eq (sums : Sums kept bs) (key : String) :
    (kept.getD .empty).countOf key = min (attributed bs key) countLimit := by
  rw [ServiceTraffic.countOf,sums.getElem?_byLocation]
  split
  · rename_i nothing; simp [nothing]
  · rfl

/-- Another batch of requests adds to the sums. -/
theorem record (sums : Sums kept bs) (b : Batch) (some_requests : b.count ≠ 0) :
    Sums (some ((kept.getD .empty).record b.count b.keys)) (bs ++ [b]) := by
  constructor
  · have sum : plus (kept.getD .empty).total b.count = min (requested bs + b.count) countLimit := by
      -- It makes no difference whether sums are cut off at the limit once or again and again.
      rw [sums.total_eq,plus]
      omega
    rw [requested_concat,if_neg (by omega)]
    exact congrArg some sum
  · intro key
    rw [Option.bind_some,ServiceTraffic.record,getElem?_foldl_plus,attributed_concat]
    by_cases listed : key ∈ b.keys
    · have counted : 0 < b.count * b.keys.count key :=
        Nat.mul_pos (Nat.pos_of_ne_zero some_requests) (List.count_pos_iff.mpr listed)
      have before : ((kept.getD .empty).byLocation[key]?).getD 0 = min (attributed bs key) countLimit :=
        sums.countOf_eq key
      rw [if_pos listed,before,if_neg (by omega)]
      congr 1
      omega
    · rw [if_neg listed,List.count_eq_zero_of_not_mem listed,sums.getElem?_byLocation]
      simp

/-- A batch without requests adds nothing to the sums. -/
theorem record_nothing (sums : Sums kept bs) (b : Batch) (no_requests : b.count = 0) :
    Sums kept (bs ++ [b]) := by
  constructor
  · rw [requested_concat,no_requests]
    exact sums.total
  · intro key
    rw [attributed_concat,no_requests,Nat.zero_mul]
    exact sums.counts key

/-- Sums are told by the batches, in whatever order. -/
theorem eq_of_perm {others : List Batch} {other : Option ServiceTraffic} (sums : Sums kept bs)
    (rest : Sums other others) (reordered : bs.Perm others) : kept = other := by
  have total := sums.total
  rw [requested_perm reordered,← rest.total] at total
  have counts : ∀ key : String, kept.bind (·.byLocation[key]?) = other.bind (·.byLocation[key]?) := by
    intro key
    rw [sums.counts,rest.counts,attributed_perm reordered]
  cases kept with
  | none =>
    cases other with
    | none => rfl
    | some u => cases total
  | some t =>
    cases other with
    | none => cases total
    | some u =>
      cases t; cases u
      rw [Option.some.injEq,ServiceTraffic.mk.injEq]
      exact ⟨Option.some.inj total,Std.ExtTreeMap.ext_getElem? fun {key} => counts key⟩

end Sums

theorem record_getElem? (t : Traffic) (b : Batch) (service : String) :
    (t.record b.service b.count b.keys).services[service]? =
      if b.count ≠ 0 ∧ b.service = service then some ((t.of service).record b.count b.keys)
      else t.services[service]? := by
  unfold Traffic.record
  split
  · rename_i nothing
    simp [nothing]
  · rename_i something
    by_cases own : b.service = service
    · subst own
      simp [something]
    · simp [own,getElem?_insert_ne own]

theorem clear_getElem? (t : Traffic) (cleared service : String) :
    (t.clear cleared).services[service]? = if cleared = service then .none else t.services[service]? := by
  unfold Traffic.clear
  by_cases own : cleared = service
  · subst own; simp
  · simp [own,getElem?_erase_ne own]

/-- After any calls, what is kept about a service sums up its batches since it was last cleared. -/
theorem after_sums (calls : List Call) (service : String) :
    Sums (after calls).services[service]? (batches calls service) := by
  induction calls using List.reverseRecOn with
  | nil => exact .none
  | append_singleton calls call ih =>
    rw [after_concat,batches_concat]
    cases call with
    | register key c => exact ih
    | clear cleared =>
      simp only [perform,clear_getElem?,Call.batches]
      split
      · exact .none
      · exact ih
    | record b =>
      simp only [perform,record_getElem?,Call.batches]
      by_cases own : b.service = service
      · by_cases nothing : b.count = 0
        · simpa [own,nothing] using ih.record_nothing b nothing
        · simpa [own,nothing,Traffic.of] using ih.record b nothing
      · simpa [own] using ih

structure AgreeOn (t u : Traffic) (service : String) : Prop where
  total : (t.of service).total = (u.of service).total
  share : ∀ key, (t.of service).share key = (u.of service).share key
  shares : (t.of service).shares = (u.of service).shares
  dominant : ∀ percentage, t.dominant service percentage = u.dominant service percentage
  middlePoint : t.middlePoint? service = u.middlePoint? service

/-- What is told about a service depends on what is kept about it and on the locations. -/
theorem AgreeOn.of_eq {t u : Traffic} {service : String}
    (kept : t.services[service]? = u.services[service]?) (located : t.locations = u.locations) :
    t.AgreeOn u service := by
  have same : t.of service = u.of service := congrArg (·.getD .empty) kept
  refine ⟨by rw [same],fun key => by rw [same],by rw [same],fun percentage => ?_,?_⟩
  · simp only [Traffic.dominant,same]
  · simp only [middlePoint?,same,located]

theorem record_locations (t : Traffic) (service : String) (count : Nat) (keys : List String) :
    (t.record service count keys).locations = t.locations := by
  unfold Traffic.record
  split
  · rfl
  · rfl

theorem record_agrees (t : Traffic) (b : Batch) (elsewhere : b.service ≠ service) :
    (t.record b.service b.count b.keys).AgreeOn t service := by
  apply AgreeOn.of_eq
  · rw [record_getElem?,if_neg]
    rintro ⟨_,own⟩
    exact elsewhere own
  · exact record_locations t b.service b.count b.keys

theorem clear_agrees (t : Traffic) (elsewhere : cleared ≠ service) : (t.clear cleared).AgreeOn t service := by
  apply AgreeOn.of_eq
  · rw [clear_getElem?,if_neg elsewhere]
  · rfl

theorem batches_records (earlier : List Call) (bs : List Batch) (service : String) :
    batches (earlier ++ bs.map .record) service = batches earlier service ++ bs.filter (·.service = service) := by
  induction bs using List.reverseRecOn with
  | nil => simp
  | append_singleton bs b ih =>
    rw [List.map_append,← List.append_assoc,List.map_singleton,batches_concat,ih,List.filter_append]
    by_cases own : b.service = service
    · simp [Call.batches,own]
    · simp [Call.batches,own]

theorem after_records_locations (earlier : List Call) (bs : List Batch) :
    (after (earlier ++ bs.map .record)).locations = (after earlier).locations := by
  induction bs using List.reverseRecOn with
  | nil => simp
  | append_singleton bs b ih =>
    rw [List.map_append,← List.append_assoc,List.map_singleton,after_concat,← ih]
    exact record_locations _ b.service b.count b.keys

/-- Where no batch lists a key twice, the requests of a key are those of the batches that name it. -/
theorem attributed_of_nodup {bs : List Batch} (distinct : ∀ b ∈ bs, b.keys.Nodup) (key : String) :
    attributed bs key = requested (bs.filter (key ∈ ·.keys)) := by
  induction bs with
  | nil => rfl
  | cons b bs ih =>
    have rest := ih fun other member => distinct other (List.mem_cons_of_mem _ member)
    have sum : attributed (b :: bs) key = b.count * b.keys.count key + attributed bs key := by
      simp [attributed]
    rw [sum,rest]
    by_cases listed : key ∈ b.keys
    · rw [List.count_eq_one_of_mem (distinct b List.mem_cons_self) listed]
      simp [requested,listed]
    · rw [List.count_eq_zero_of_not_mem listed]
      simp [requested,listed]

/-- Batches add up in any order. Of a service without batches since it was last cleared, the total comes
to the sum of its batches and the count of each key to the sum of those that name the key, up to the
limit; and whatever was recorded before, an order of the batches leaves the same services, totals,
shares, dominant keys and middle points as any other. Recording or clearing requests of one service
changes nothing that is told about another. -/
theorem batches_in_any_order (earlier : List Call) {first second : List Batch}
    (reordered : first.Perm second) (distinct : ∀ b ∈ first, b.keys.Nodup) :
    let t := after (earlier ++ first.map .record)
    let u := after (earlier ++ second.map .record)
    (∀ service, batches earlier service = [] →
      let own := first.filter (·.service = service)
      (t.of service).total = min (own.map (·.count)).sum countLimit ∧
      ∀ key, (t.of service).countOf key = min ((own.filter (key ∈ ·.keys)).map (·.count)).sum countLimit) ∧
    (∀ service, t.AgreeOn u service) ∧ t.serviceNames = u.serviceNames ∧
    (∀ (s : Traffic) (b : Batch) (service : String), b.service ≠ service →
      (s.record b.service b.count b.keys).AgreeOn s service) ∧
    ∀ (s : Traffic) (cleared service : String), cleared ≠ service → (s.clear cleared).AgreeOn s service := by
  intro t u
  have kept : ∀ service : String, t.services[service]? = u.services[service]? := by
    intro service
    apply (after_sums _ service).eq_of_perm (after_sums _ service)
    rw [batches_records,batches_records]
    exact (reordered.filter _).append_left _
  have located : t.locations = u.locations :=
    (after_records_locations earlier first).trans (after_records_locations earlier second).symm
  refine ⟨?_,fun service => .of_eq (kept service) located,?_,fun s b _ => record_agrees s b,
    fun s _ _ => clear_agrees s⟩
  · intro service cleared own
    have sums := after_sums (earlier ++ first.map .record) service
    rw [batches_records,cleared,List.nil_append] at sums
    refine ⟨sums.total_eq,?_⟩
    intro key
    have own_distinct : ∀ b ∈ own, b.keys.Nodup := fun b member => distinct b (List.mem_filter.mp member).1
    exact (sums.countOf_eq key).trans (by rw [attributed_of_nodup own_distinct]; rfl)
  · have same : t.services = u.services := Std.ExtTreeMap.ext_getElem? fun {service} => kept service
    rw [serviceNames,serviceNames,same]

/-- Counts at the limit, in two orders, after the service was cleared. -/
theorem full_counts_in_another_order :
    let earlier : List Call := [.register "lisbon" ⟨"lisbon", 38.7223, -9.1393⟩,
      .record ⟨"orders", 3, ["lisbon", "lisbon"]⟩, .clear "orders"]
    let first : List Batch := [⟨"orders", countLimit, ["lisbon"]⟩, ⟨"orders", 1, ["lisbon"]⟩,
      ⟨"orders", 5, ["EUROPE", "madrid"]⟩]
    let t := after (earlier ++ first.map .record)
    (t.of "orders").total = countLimit ∧ (t.of "orders").countOf "lisbon" = countLimit ∧
      (t.of "orders").countOf "madrid" = 5 ∧
      t.AgreeOn (after (earlier ++ first.reverse.map .record)) "orders" := by
  intro earlier first t
  obtain ⟨sums,agree,_⟩ := batches_in_any_order earlier (List.reverse_perm first).symm (by decide)
  obtain ⟨total,counts⟩ := sums "orders" rfl
  exact ⟨total,counts "lisbon",counts "madrid",agree "orders"⟩

end Traffic

end GeoFleet
