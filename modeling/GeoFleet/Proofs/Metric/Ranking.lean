import GeoFleet.Proofs.Metric.Batches
import GeoFleet.Proofs.Text.ByteOrder

/-! The keys that hold the largest shares of a service's traffic. They are ranked by share, and by key where
shares are the same, so no two of them are level: a ranking has one order, and the recorded counts alone tell
which keys it lists. -/
namespace GeoFleet

namespace ServiceTraffic

theorem mem_shares_iff {t : ServiceTraffic} : (key,w) ∈ t.shares ↔ key ∈ t.byLocation ∧ w = t.share key := by
  simp only [shares,List.mem_map,Std.ExtTreeMap.mem_keys,Prod.mk.injEq]
  constructor
  · rintro ⟨_,known,rfl,rfl⟩; exact ⟨known,rfl⟩
  · rintro ⟨known,rfl⟩; exact ⟨key,known,rfl,rfl⟩

/-- Each key has one share. -/
theorem shares_ordered (t : ServiceTraffic) : t.shares.Pairwise fun a b => compare a.1 b.1 = .lt := by
  have keys : t.byLocation.keys.Pairwise fun a b => compare a b = .lt := Std.ExtTreeMap.ordered_keys
  exact List.pairwise_map.mpr keys

end ServiceTraffic

namespace Traffic

variable {a b : String × Float} {calls others : List Call} {service : String}

/-- A share comes before another one that is smaller in the total order, or the same and of a larger key. -/
def Ahead (a b : String × Float) : Prop :=
  Magnitude.compareTotal a.2 b.2 = .gt ∨ a.2 = b.2 ∧ Text.bytes a.1 < Text.bytes b.1

theorem ranking_eq_lt_iff : ranking a b = .lt ↔ Ahead a b := by
  have keys : compare a.1 b.1 = .lt ↔ a.1 < b.1 := compareOfLessAndEq_eq_lt
  rw [ranking,Ordering.then_eq_lt,Ahead,Std.OrientedCmp.gt_iff_lt,Std.LawfulEqCmp.compare_eq_iff_eq,
    @eq_comm _ b.2,keys,Text.bytes_lt_iff]

theorem ranking_eq_compareLex : ranking =
    compareLex (fun a b => compareOn (fun x => Magnitude.rank x.2) b a) (compareOn Prod.fst) :=
  rfl

instance : Std.TransCmp ranking := by
  have larger : Std.TransCmp fun a b : String × Float => compareOn (fun x => Magnitude.rank x.2) b a :=
    Std.TransCmp.opposite
  rw [ranking_eq_compareLex]
  infer_instance

theorem ranking_ne_eq (apart : compare a.1 b.1 = .lt) : ranking a b ≠ .eq := by
  intro level
  rw [(Ordering.then_eq_eq.mp level).2] at apart
  cases apart

theorem requested_eq_zero_iff {bs : List Batch} : requested bs = 0 ↔ ∀ b ∈ bs, b.count = 0 := by
  rw [requested,List.sum_eq_zero_iff_forall_eq_nat,List.forall_mem_map]

/-- Requests are attributed to the keys that batches with requests name. -/
theorem attributed_ne_zero_iff {bs : List Batch} :
    attributed bs key ≠ 0 ↔ ∃ b ∈ bs, b.count ≠ 0 ∧ key ∈ b.keys := by
  rw [attributed,Ne,List.sum_eq_zero_iff_forall_eq_nat,List.forall_mem_map]
  simp [List.count_eq_zero]

theorem mem_byLocation_iff {calls : List Call} : key ∈ ((after calls).of service).byLocation ↔
    ∃ b ∈ batches calls service, b.count ≠ 0 ∧ key ∈ b.keys := by
  have row : ((after calls).of service).byLocation[key]? = _ :=
    (after_sums calls service).getElem?_byLocation key
  rw [Std.ExtTreeMap.mem_iff_isSome_getElem?,row,← attributed_ne_zero_iff]
  split <;> simp_all

/-- What is kept about a service has a key for each count, and no others. -/
theorem getElem?_after (calls : List Call) (service key : String) :
    let kept := (after calls).of service
    kept.byLocation[key]? = if kept.countOf key = 0 then none else some (kept.countOf key) := by
  intro kept
  have limit : 0 < countLimit := by decide
  have sums := after_sums calls service
  have row : kept.byLocation[key]? = _ := sums.getElem?_byLocation key
  have count : kept.countOf key = _ := sums.countOf_eq key
  rw [row,count]
  by_cases nothing : attributed (batches calls service) key = 0
  · simp [nothing]
  · have something : min (attributed (batches calls service) key) countLimit ≠ 0 := by omega
    rw [if_neg nothing,if_neg something]

/-- Equal totals and counts come from the same record of a service. -/
theorem after_of_eq {calls others : List Call}
    (total : ((after others).of service).total = ((after calls).of service).total)
    (counts : ∀ key, ((after others).of service).countOf key = ((after calls).of service).countOf key) :
    (after others).of service = (after calls).of service := by
  have byLocation : ((after others).of service).byLocation = ((after calls).of service).byLocation := by
    apply Std.ExtTreeMap.ext_getElem?
    intro key
    rw [getElem?_after,getElem?_after,counts]
  cases left : (after others).of service
  cases right : (after calls).of service
  simp_all

theorem mem_dominant_iff {t : Traffic} {percentage : Float} : (key,w) ∈ t.dominant service percentage ↔
    key ∈ (t.of service).byLocation ∧ w = (t.of service).share key ∧ percentage ≤ w * 100.0 := by
  simp only [dominant,List.mem_mergeSort,List.mem_filter,ServiceTraffic.mem_shares_iff,decide_eq_true_eq,
    and_assoc]

theorem dominant_ordered (t : Traffic) (service : String) (percentage : Float) :
    (t.dominant service percentage).Pairwise Ahead := by
  have apart := (t.of service).shares_ordered.imp ranking_ne_eq
  exact (mergeSort_ordered (apart.sublist List.filter_sublist)).imp ranking_eq_lt_iff.mp

theorem dominant_keys (t : Traffic) (service : String) (percentage : Float) :
    ((t.dominant service percentage).map Prod.fst).Nodup := by
  have distinct : ((t.of service).shares.map Prod.fst).Nodup := by
    refine List.pairwise_map.mpr ((t.of service).shares_ordered.imp ?_)
    intro a b ordered same
    simp [same] at ordered
  have reordered : (t.dominant service percentage).Perm
      ((t.of service).shares.filter fun share => percentage ≤ share.2 * 100.0) := List.mergeSort_perm _ _
  exact (reordered.map Prod.fst).nodup_iff.mpr (distinct.sublist (List.filter_sublist.map Prod.fst))

/-- The share of a key is its part of the requests: its count over the total, both up to their limit. -/
theorem share_after (calls : List Call) (service key : String)
    (some_request : requested (batches calls service) ≠ 0) : ((after calls).of service).share key =
      Float.ofNat (min (attributed (batches calls service) key) countLimit) /
        Float.ofNat (min (requested (batches calls service)) countLimit) := by
  have limit : 0 < countLimit := by decide
  have sums := after_sums calls service
  have total : ((after calls).of service).total = _ := sums.total_eq
  have count : ((after calls).of service).countOf key = _ := sums.countOf_eq key
  have something : ((after calls).of service).total ≠ 0 := by omega
  rw [ServiceTraffic.share,if_neg something,total,count]

/-- After any calls, each key that a batch with requests names, since the service was last cleared, is ranked
once if its share makes up the percentage, and no other key is; its share is its count over the total. The
larger share comes first, and of equal shares the smaller key. The ranking depends on the service's counts
alone, and is empty without requests. -/
theorem dominant_ranks (calls : List Call) (service : String) (percentage : Float) :
    let t := after calls
    let bs := batches calls service
    let ranked := t.dominant service percentage
    (∀ key w, (key,w) ∈ ranked ↔ (∃ b ∈ bs, b.count ≠ 0 ∧ key ∈ b.keys) ∧
      w = (t.of service).share key ∧ percentage ≤ w * 100.0) ∧
    (∀ key w, (key,w) ∈ ranked →
      w = Float.ofNat (min (attributed bs key) countLimit) / Float.ofNat (min (requested bs) countLimit)) ∧
    (ranked.map Prod.fst).Nodup ∧ ranked.Pairwise Ahead ∧
    (∀ others, let u := after others
      (u.of service).total = (t.of service).total →
      (∀ key, (u.of service).countOf key = (t.of service).countOf key) →
      u.dominant service percentage = ranked) ∧
    (requested bs = 0 → ranked = []) := by
  intro t bs ranked
  have members : ∀ key w, (key,w) ∈ ranked ↔ (∃ b ∈ bs, b.count ≠ 0 ∧ key ∈ b.keys) ∧
      w = (t.of service).share key ∧ percentage ≤ w * 100.0 := by
    intro key w
    rw [mem_dominant_iff,mem_byLocation_iff]
  refine ⟨members,?_,dominant_keys t service percentage,dominant_ordered t service percentage,?_,?_⟩
  · intro key w listed
    obtain ⟨⟨b,member,something,_⟩,share,_⟩ := (members key w).mp listed
    rw [share]
    exact share_after calls service key fun nothing => something (requested_eq_zero_iff.mp nothing b member)
  · intro others u total counts
    change u.dominant service percentage = t.dominant service percentage
    rw [dominant,dominant,after_of_eq total counts]
  · intro nothing
    rw [List.eq_nil_iff_forall_not_mem]
    rintro ⟨key,w⟩ listed
    obtain ⟨⟨b,member,something,_⟩,_⟩ := (members key w).mp listed
    exact something (requested_eq_zero_iff.mp nothing b member)

end Traffic

end GeoFleet
