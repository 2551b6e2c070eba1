import Mathlib.Algebra.Order.Field.Power
import Mathlib.Tactic.FieldSimp
import Mathlib.Tactic.Linarith
import Mathlib.Tactic.NormNum
import Mathlib.Tactic.Positivity
import Mathlib.Tactic.Ring

/-! Rounding to the nearest of the numbers with 53 places. A mantissa, its round bit and its sticky bit
tell where a number lies between two neighbours, however far the mantissa has been shifted; the nearest
neighbour is at most half a step away. Rounding therefore keeps the order of numbers and does not leave
the powers of two around them. -/
namespace GeoFleet.Rounding

open Float.Model
open Float.Model.UnpackedFloat

/-- A mantissa and the two bits after it tell where a number lies: at the mantissa, below, at or above
the middle to the next one. -/
def Tells (em : ExtendedMantissa) (x : ℚ) : Prop :=
  match em.roundBit, em.stickyBit with
  | false, false => x = em.mantissa
  | false, true => em.mantissa < x ∧ x < em.mantissa + 1 / 2
  | true, false => x = em.mantissa + 1 / 2
  | true, true => em.mantissa + 1 / 2 < x ∧ x < em.mantissa + 1

theorem tells_exact (m : ℕ) : Tells (.ofMantissaAndAccuracy m .exact) m := by
  simp [Tells,ExtendedMantissa.ofMantissaAndAccuracy]

/-- A fraction is its quotient and, of the next one, the part that the remainder is of the divisor. -/
theorem fraction_split (a : ℕ) {b : ℕ} (positive : 0 < b) :
    (a : ℚ) / b = (a / b : ℕ) + (a % b : ℕ) / b ∧ ((a % b : ℕ) : ℚ) / b < 1 := by
  have split : ((a % b : ℕ) : ℚ) + b * (a / b : ℕ) = a := by exact_mod_cast Nat.mod_add_div a b
  constructor
  · field_simp
    linarith
  · rw [div_lt_one (by positivity)]
    exact_mod_cast Nat.mod_lt a positive

/-- The quotient and the remainder of a division tell the fraction. -/
theorem tells_fraction (a : ℕ) {b : ℕ} (positive : 0 < b) :
    Tells (.ofMantissaAndAccuracy (a / b) (accuracyOfFraction (a % b) b)) (a / b) := by
  obtain ⟨whole,below⟩ := fraction_split a positive
  rw [whole]
  unfold accuracyOfFraction
  split
  · rename_i exact
    simp [Tells,ExtendedMantissa.ofMantissaAndAccuracy,exact]
  · rename_i inexact
    have above : 0 < ((a % b : ℕ) : ℚ) / b := by
      have : 0 < a % b := Nat.pos_of_ne_zero inexact
      positivity
    rcases Nat.lt_trichotomy (2 * (a % b)) b with low | middle | high
    · rw [Nat.compare_eq_lt.mpr low]
      have half : ((a % b : ℕ) : ℚ) / b < 1 / 2 := by
        rw [div_lt_div_iff₀ (by positivity) (by norm_num)]
        exact_mod_cast by omega
      simp only [Tells,ExtendedMantissa.ofMantissaAndAccuracy]
      constructor <;> linarith
    · rw [Nat.compare_eq_eq.mpr middle]
      have half : ((a % b : ℕ) : ℚ) / b = 1 / 2 := by
        rw [div_eq_div_iff (by positivity) (by norm_num)]
        exact_mod_cast by omega
      simp only [Tells,ExtendedMantissa.ofMantissaAndAccuracy,half]
    · rw [Nat.compare_eq_gt.mpr high]
      have half : 1 / 2 < ((a % b : ℕ) : ℚ) / b := by
        rw [div_lt_div_iff₀ (by norm_num) (by positivity)]
        exact_mod_cast by omega
      simp only [Tells,ExtendedMantissa.ofMantissaAndAccuracy]
      constructor <;> linarith

namespace Tells

variable {em : ExtendedMantissa} {x : ℚ}

theorem bounds (tells : Tells em x) : em.mantissa ≤ x ∧ x < em.mantissa + 1 := by
  obtain ⟨m,r,s⟩ := em
  cases r <;> cases s <;> simp only [Tells] at tells ⊢ <;> constructor <;> linarith

/-- The nearest mantissa is the one below or the one above, and no more than half a step away. -/
theorem rounded (tells : Tells em x) : em.mantissa ≤ em.roundedMantissa ∧
    em.roundedMantissa ≤ em.mantissa + 1 ∧ |(em.roundedMantissa : ℚ) - x| ≤ 1 / 2 := by
  obtain ⟨m,r,s⟩ := em
  rw [abs_le]
  cases r <;> cases s <;> simp only [Tells] at tells <;>
    simp only [ExtendedMantissa.roundedMantissa,ExtendedMantissa.accuracy,Accuracy.roundToNearestEven]
  · refine ⟨by omega,by omega,?_,?_⟩ <;> linarith
  · refine ⟨by omega,by omega,?_,?_⟩ <;> linarith
  · -- In the middle both neighbours are half a step away, and the even one is taken.
    have below : (0 : ℚ) ≤ (m % 2 : ℕ) := by positivity
    have above : ((m % 2 : ℕ) : ℚ) ≤ 1 := by exact_mod_cast by omega
    refine ⟨by omega,by omega,?_,?_⟩ <;> push_cast at below above ⊢ <;> linarith
  · refine ⟨by omega,by omega,?_,?_⟩ <;> push_cast <;> linarith

theorem shiftRightOne (tells : Tells em x) : Tells em.shiftRightOne (x / 2) := by
  obtain ⟨m,r,s⟩ := em
  have split : ((m % 2 : ℕ) : ℚ) + 2 * (m / 2 : ℕ) = m := by exact_mod_cast Nat.mod_add_div m 2
  -- The place that is shifted out becomes the round bit, and what stood there joins the sticky bit.
  rcases Nat.mod_two_eq_zero_or_one m with even | odd
  · rw [even] at split
    cases r <;> cases s <;> simp only [Tells,ExtendedMantissa.shiftRightOne,even] at tells ⊢ <;>
      simp at * <;> (try constructor) <;> linarith
  · rw [odd] at split
    cases r <;> cases s <;> simp only [Tells,ExtendedMantissa.shiftRightOne,odd] at tells ⊢ <;>
      simp at * <;> (try constructor) <;> linarith

theorem shiftRight (tells : Tells em x) (n : ℕ) : Tells (em >>> n) (x / 2 ^ n) := by
  change Tells (n.repeat ExtendedMantissa.shiftRightOne em) _
  induction n with
  | zero => simpa [Nat.repeat] using tells
  | succ n ih =>
    rw [Nat.repeat,pow_succ,← div_div]
    exact ih.shiftRightOne

end Tells

theorem mantissa_shiftRight (em : ExtendedMantissa) (n : ℕ) : (em >>> n).mantissa = em.mantissa / 2 ^ n := by
  change (n.repeat ExtendedMantissa.shiftRightOne em).mantissa = _
  induction n with
  | zero => simp [Nat.repeat]
  | succ n ih =>
    rw [Nat.repeat,ExtendedMantissa.shiftRightOne,ih,Nat.div_div_eq_div_mul,pow_succ]

/-- A value that a number is rounded to: the nearest one with the last place that the size of the number
gives it. -/
def Rounds (q v : ℚ) : Prop :=
  ∃ size : ℤ, 2 ^ size ≤ q ∧ q < 2 ^ (size + 1) ∧ (∃ k : ℤ, v = k * 2 ^ (size - 52)) ∧
    |v - q| ≤ 2 ^ (size - 53)

/-- A number between 2^52 and 2^53 is rounded to a whole number at most half a step away. -/
theorem rounds_of_near {y : ℚ} {r : ℕ} (low : 2 ^ 52 ≤ y) (high : y < 2 ^ 53) (near : |(r : ℚ) - y| ≤ 1 / 2)
    (e : ℤ) : Rounds (y * 2 ^ e) (r * 2 ^ e) := by
  have positive : (0 : ℚ) < 2 ^ e := by positivity
  refine ⟨e + 52,?_,?_,⟨r,?_⟩,?_⟩
  · rw [zpow_add₀ (by norm_num),mul_comm]
    exact mul_le_mul_of_nonneg_right (by exact_mod_cast low) positive.le
  · rw [add_assoc,zpow_add₀ (by norm_num),mul_comm]
    exact mul_lt_mul_of_pos_left (by norm_num; linarith) positive
  · simp
  · rw [← sub_mul,abs_mul,abs_of_pos positive,show e + 52 - 53 = e + -1 by ring,
      zpow_add₀ (by norm_num),mul_comm]
    exact mul_le_mul_of_nonneg_left (by norm_num; linarith) positive.le

namespace Rounds

variable {q r v w : ℚ}

/-- In units of the last place, a number lies between 2^52 and 2^53, and its value is whole. -/
theorem units (rounds : Rounds q v) : ∃ (size k : ℤ) (u : ℚ), u = 2 ^ (size - 52) ∧ 0 < u ∧
    2 ^ size = 2 ^ 52 * u ∧ 2 ^ (size + 1) = 2 ^ 53 * u ∧ 2 ^ 52 * u ≤ q ∧ q < 2 ^ 53 * u ∧
    v = k * u ∧ v ≤ q + u / 2 ∧ q - u / 2 ≤ v := by
  obtain ⟨size,low,high,⟨k,whole⟩,near⟩ := rounds
  have same : (2 : ℚ) ^ size = 2 ^ 52 * 2 ^ (size - 52) := by
    rw [zpow_sub₀ (by norm_num)]
    norm_num
    ring
  have next : (2 : ℚ) ^ (size + 1) = 2 ^ 53 * 2 ^ (size - 52) := by
    rw [zpow_add_one₀ (by norm_num),same]
    ring
  have half : (2 : ℚ) ^ (size - 53) = 2 ^ (size - 52) / 2 := by
    rw [show size - 53 = size - 52 - 1 by ring,zpow_sub_one₀ (by norm_num)]
    rfl
  rw [half,abs_le] at near
  refine ⟨size,k,2 ^ (size - 52),rfl,by positivity,same,next,same ▸ low,next ▸ high,whole,?_,?_⟩
  · linarith
  · linarith

/-- Whole numbers of units that differ by less than one unit are in order. -/
theorem whole_le {k n : ℤ} {u : ℚ} (positive : 0 < u) (less : k * u < n * u + u) : k * u ≤ n * u := by
  have ordered : k < n + 1 := by
    have : (k : ℚ) < n + 1 := lt_of_mul_lt_mul_right (by linarith) positive.le
    exact_mod_cast this
  have : (k : ℚ) ≤ n := by exact_mod_cast Int.lt_add_one_iff.mp ordered
  exact mul_le_mul_of_nonneg_right this positive.le

/-- A number up to a power of two has a value up to it. -/
theorem le_pow (rounds : Rounds q v) {t : ℤ} (high : q ≤ 2 ^ t) : v ≤ 2 ^ t := by
  obtain ⟨size,k,u,_,positive,same,next,low,below,whole,above,_⟩ := rounds.units
  have ordered : size ≤ t := by
    apply (zpow_le_zpow_iff_right₀ (one_lt_two (α := ℚ))).mp
    linarith
  rcases ordered.lt_or_eq with less | rfl
  · have grown : (2 : ℚ) ^ (size + 1) ≤ 2 ^ t := zpow_le_zpow_right₀ one_le_two less
    have bound := whole_le (k := k) (n := 2 ^ 53) positive (by push_cast; linarith)
    push_cast at bound
    linarith
  · have bound := whole_le (k := k) (n := 2 ^ 52) positive (by push_cast; linarith)
    push_cast at bound
    linarith

/-- A number from a power of two on has a value from it on. -/
theorem pow_le (rounds : Rounds q v) {t : ℤ} (low : 2 ^ t ≤ q) : 2 ^ t ≤ v := by
  obtain ⟨size,k,u,_,positive,same,next,above,below,whole,_,near⟩ := rounds.units
  have ordered : t ≤ size := by
    apply Int.lt_add_one_iff.mp
    apply (zpow_lt_zpow_iff_right₀ (one_lt_two (α := ℚ))).mp
    linarith
  have shrunk : (2 : ℚ) ^ t ≤ 2 ^ size := zpow_le_zpow_right₀ one_le_two ordered
  have bound := whole_le (k := 2 ^ 52) (n := k) positive (by push_cast; linarith)
  push_cast at bound
  linarith

/-- Rounding keeps the order. -/
theorem mono (left : Rounds q v) (right : Rounds r w) (less : q < r) : v ≤ w := by
  obtain ⟨size,k,u,rfl,positive,_,next,low,high,rfl,above,_⟩ := left.units
  obtain ⟨other,l,u',rfl,_,same,next',low',high',rfl,_,below⟩ := right.units
  rcases lt_trichotomy size other with smaller | rfl | larger
  · have up : q ≤ 2 ^ (size + 1) := by linarith
    have apart : (2 : ℚ) ^ (size + 1) ≤ 2 ^ other := zpow_le_zpow_right₀ one_le_two smaller
    have down : (2 : ℚ) ^ other ≤ r := by linarith
    exact (left.le_pow up).trans (apart.trans (right.pow_le down))
  · exact whole_le positive (by linarith)
  · have apart : (2 : ℚ) ^ (other + 1) ≤ 2 ^ size := zpow_le_zpow_right₀ one_le_two larger
    linarith

end Rounds

end GeoFleet.Rounding
