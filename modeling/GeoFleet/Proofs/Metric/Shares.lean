import GeoFleet.Proofs.Metric.Batches
import GeoFleet.Proofs.Rounding.Quotient

/-! What the shares of keys amount to. A batch counts once for the total and as often for a key as it
lists the key, so a key can come to more than the whole; it does exactly when more requests are
attributed to the key than there are, and the total has not reached the limit. Where no batch lists a
key twice, all shares lie between zero and one. -/
namespace GeoFleet

theorem ServiceTraffic.share_bounds {t : ServiceTraffic} {key : String}
    (count : t.countOf key ≤ Traffic.countLimit) (total : t.total ≤ Traffic.countLimit) :
    0.0 ≤ t.share key ∧ (t.countOf key ≤ t.total → t.share key ≤ 1.0) := by
  have limit : Traffic.countLimit < 2 ^ 64 := by decide
  unfold ServiceTraffic.share
  split
  · exact ⟨by decide,fun _ => by decide⟩
  · rename_i something
    exact Rounding.ratio_bounds (count.trans_lt limit) (Nat.pos_of_ne_zero something) (total.trans_lt limit)

namespace Traffic

theorem requested_filter_le (bs : List Batch) (p : Batch → Bool) : requested (bs.filter p) ≤ requested bs :=
  ((List.filter_sublist (l := bs) (p := p)).map _).sum_le_sum fun _ _ => Nat.zero_le _

/-- A key's count stays within the total exactly when no more requests are attributed to the key than
there are, or the total is at the limit. It does so where no batch lists a key twice. A share is not
negative, and at most one while the key's count is within the total. -/
theorem shares_within_whole_iff (calls : List Call) (service key : String) :
    let t := (after calls).of service
    let bs := batches calls service
    (t.countOf key ≤ t.total ↔ attributed bs key ≤ requested bs ∨ countLimit ≤ requested bs) ∧
    ((∀ b ∈ bs, b.keys.Nodup) → t.countOf key ≤ t.total) ∧
    0.0 ≤ t.share key ∧ (t.countOf key ≤ t.total → t.share key ≤ 1.0) := by
  intro t bs
  have sums := after_sums calls service
  have total : t.total = min (requested bs) countLimit := sums.total_eq
  have count : t.countOf key = min (attributed bs key) countLimit := sums.countOf_eq key
  refine ⟨?_,?_,ServiceTraffic.share_bounds (by omega) (by omega)⟩
  · rw [total,count]
    omega
  · intro distinct
    have within : attributed bs key ≤ requested bs := by
      rw [attributed_of_nodup distinct]
      exact requested_filter_le bs _
    omega

/-- A batch that lists a key twice makes its share two. -/
theorem repeated_key_exceeds_whole :
    let t := (after [.record ⟨"s", 1, ["lisbon", "lisbon"]⟩]).of "s"
    t.total = 1 ∧ t.countOf "lisbon" = 2 ∧ t.share "lisbon" = 2.0 ∧ ¬t.share "lisbon" ≤ 1.0 := by
  decide +kernel

end Traffic

end GeoFleet
