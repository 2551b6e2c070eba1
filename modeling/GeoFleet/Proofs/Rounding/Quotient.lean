import GeoFleet.Proofs.Rounding.Nearest
import GeoFleet.Proofs.Rounding.Packing
import Mathlib

/-! Counts and their ratios as doubles. A count is converted to the nearest double, and so is the
quotient of two doubles; a ratio of counts lies between zero and one when the first is at most the
second, although both counts and their quotient are rounded. -/
namespace GeoFleet.Rounding

open Float.Model
open Float.Model.UnpackedFloat

/-- A positive double whose mantissa has all its 53 places. -/
structure Full (x : UnpackedFloat) (m : ℕ) (e : ℤ) : Prop where
  low : 2 ^ 52 ≤ m
  high : m < 2 ^ 53
  same : x = .finite .positive m e (Nat.lt_of_lt_of_le (by decide) low)

theorem log2_full {m : ℕ} (low : 2 ^ 52 ≤ m) (high : m < 2 ^ 53) : m.log2 = 52 := by
  have positive : m ≠ 0 := by omega
  have above := (Nat.le_log2 positive).mpr low
  have below := (Nat.log2_lt positive).mpr high
  omega

theorem targetExponent_eq (m : ℕ) (e : ℤ) (normal : -1022 ≤ e + m.log2) :
    Format.binary64.targetExponent (totalExponent m e) = e + m.log2 - 52 := by
  simp only [Format.targetExponent,totalExponent,Format.minExponent,Format.mantissaBits]
  norm_num
  omega

theorem shift_full {m : ℕ} (wide : 2 ^ 52 ≤ m) (e : ℤ) (normal : -1022 ≤ e + m.log2) (acc : Accuracy) :
    shiftToTargetExponent .binary64 m e acc =
      (ExtendedMantissa.ofMantissaAndAccuracy m acc >>> (m.log2 - 52),e + m.log2 - 52) := by
  have wide_log : 52 ≤ m.log2 := (Nat.le_log2 (by omega)).mpr wide
  have amount : (e + m.log2 - 52 - e).toNat = m.log2 - 52 := by omega
  simp only [shiftToTargetExponent,shiftToExponent,targetExponent_eq m e normal,amount]
  congr 1
  omega

/-- A mantissa of 53 places stays as it is, and the power of two after them gives up a zero. -/
theorem shift_carried {m : ℕ} (e : ℤ) (low : 2 ^ 52 ≤ m) (high : m ≤ 2 ^ 53) (normal : -1074 ≤ e) :
    let shifted := shiftToTargetExponent .binary64 m e .exact
    2 ^ 52 ≤ shifted.1.mantissa ∧ shifted.1.mantissa < 2 ^ 53 ∧
      (shifted.1.mantissa : ℚ) * 2 ^ shifted.2 = m * 2 ^ e := by
  intro shifted
  rcases Nat.lt_or_eq_of_le high with below | carried
  · have log := log2_full low below
    have mantissa : shifted.1.mantissa = m := by
      simp [shifted,shift_full low e (by omega),log,mantissa_shiftRight,ExtendedMantissa.ofMantissaAndAccuracy]
    have exponent : shifted.2 = e := by simp [shifted,shift_full low e (by omega),log]
    rw [mantissa,exponent]
    exact ⟨low,below,rfl⟩
  · have log : m.log2 = 53 := by rw [carried]; exact Nat.log2_two_pow
    have mantissa : shifted.1.mantissa = 2 ^ 52 := by
      simp only [shifted,shift_full low e (by omega),log,mantissa_shiftRight]
      simp [ExtendedMantissa.ofMantissaAndAccuracy,carried]
    have exponent : shifted.2 = e + 1 := by
      simp only [shifted,shift_full low e (by omega),log]
      omega
    rw [mantissa,exponent,carried,zpow_add_one₀ (by norm_num)]
    refine ⟨le_rfl,by norm_num,?_⟩
    push_cast
    ring

/-- Shifting a mantissa leaves its first 53 places. -/
theorem leading_places {m : ℕ} (wide : 2 ^ 52 ≤ m) :
    2 ^ 52 ≤ m / 2 ^ (m.log2 - 52) ∧ m / 2 ^ (m.log2 - 52) < 2 ^ 53 := by
  have places : 52 ≤ m.log2 := (Nat.le_log2 (by omega)).mpr wide
  constructor
  · rw [Nat.le_div_iff_mul_le (by positivity),← pow_add]
    have := Nat.log2_self_le (show m ≠ 0 by omega)
    rwa [show 52 + (m.log2 - 52) = m.log2 by omega]
  · rw [Nat.div_lt_iff_lt_mul (by positivity),← pow_add]
    have := @Nat.lt_log2_self m
    rwa [show 53 + (m.log2 - 52) = m.log2 + 1 by omega]

/-- Rounding what a mantissa of at least 53 places and an accuracy tell gives a full double, and that is
the nearest value. -/
theorem round_full {m : ℕ} {e : ℤ} {acc : Accuracy} {x : ℚ} (wide : 2 ^ 52 ≤ m)
    (normal : -1022 ≤ e + m.log2) (tells : Tells (.ofMantissaAndAccuracy m acc) x) :
    ∃ n f, Full (roundWithAccuracy .binary64 .positive m e acc) n f ∧ Rounds (x * 2 ^ e) (n * 2 ^ f) := by
  have places : 52 ≤ m.log2 := (Nat.le_log2 (by omega)).mpr wide
  let em := ExtendedMantissa.ofMantissaAndAccuracy m acc >>> (m.log2 - 52)
  have shifted : Tells em (x / 2 ^ (m.log2 - 52)) := tells.shiftRight _
  have mantissa : em.mantissa = m / 2 ^ (m.log2 - 52) := by
    simp only [em,mantissa_shiftRight]
    cases acc with
    | exact => rfl
    | inexact o => cases o <;> rfl
  obtain ⟨low,high⟩ : 2 ^ 52 ≤ em.mantissa ∧ em.mantissa < 2 ^ 53 := mantissa ▸ leading_places wide
  obtain ⟨below,above⟩ := shifted.bounds
  obtain ⟨rounded_low,rounded_high,near⟩ := shifted.rounded
  -- Rounding up may carry into one more place; the second shift then drops a zero.
  obtain ⟨full_low,full_high,value⟩ :=
    shift_carried (e + m.log2 - 52) (low.trans rounded_low) (rounded_high.trans high) (by omega)
  let final := shiftToTargetExponent .binary64 em.roundedMantissa (e + m.log2 - 52) .exact
  refine ⟨final.1.mantissa,final.2,⟨full_low,full_high,?_⟩,?_⟩
  · unfold roundWithAccuracy
    simp only [shift_full wide e normal acc]
    have something : final.1.mantissa ≠ 0 := Nat.ne_of_gt (Nat.lt_of_lt_of_le (by decide) full_low)
    exact dif_neg something
  · have scaled : x * 2 ^ e = x / 2 ^ (m.log2 - 52) * 2 ^ (e + m.log2 - 52) := by
      have exponent : e + m.log2 - 52 = ((m.log2 - 52 : ℕ) : ℤ) + e := by omega
      rw [exponent,zpow_add₀ (by norm_num),zpow_natCast,← mul_assoc,div_mul_cancel₀ _ (by positivity)]
    have em_low : ((2 ^ 52 : ℕ) : ℚ) ≤ em.mantissa := by exact_mod_cast low
    have em_high : ((em.mantissa + 1 : ℕ) : ℚ) ≤ (2 ^ 53 : ℕ) := by exact_mod_cast high
    push_cast at em_low em_high
    rw [value,scaled]
    exact rounds_of_near (em_low.trans below) (above.trans_le em_high) near _

/-- The fields that a full double within the range of exponents is packed to. -/
theorem pack_full {x : UnpackedFloat} {m biased : ℕ} {e : ℤ} (full : Full x m e) (exponent : e + 1075 = biased)
    (high : biased < 2047) : UnpackedFloat.pack .binary64 x =
      packComponents .binary64 .positive (BitVec.ofNat 11 biased) (BitVec.ofNat 52 m) := by
  rw [full.same,pack_finite biased exponent high,if_pos (log2_full full.low full.high)]

/-- Packed fields give back the exponent, and the mantissa with its implicit place. -/
theorem unpack_components {m biased : ℕ} (low : 2 ^ 52 ≤ m) (high : m < 2 ^ 53) (regular : 0 < biased)
    (finite : biased < 2047) : UnpackedFloat.unpack .binary64
      (packComponents .binary64 .positive (BitVec.ofNat 11 biased) (BitVec.ofNat 52 m)) =
        .finite .positive m (biased - 1075) (Nat.lt_of_lt_of_le (by decide) low) := by
  have exponent_back : (BitVec.ofNat 11 biased).toNat = biased := by
    rw [BitVec.toNat_ofNat,Nat.mod_eq_of_lt (by omega)]
  have mantissa_back : (1#1 ++ BitVec.ofNat 52 m).toNat = m := by
    rw [toNat_leading,BitVec.toNat_ofNat]
    omega
  have apart : ∀ other : BitVec 11, biased ≠ other.toNat → BitVec.ofNat 11 biased ≠ other := by
    rintro _ differs rfl
    exact differs exponent_back.symm
  have not_special : BitVec.ofNat 11 biased ≠ -1#11 := apart _ (by simp; omega)
  have not_small : BitVec.ofNat 11 biased ≠ 0#11 := apart _ (by simp; omega)
  unfold UnpackedFloat.unpack
  simp only [unpackExponent_packComponents,unpackMantissa_packComponents]
  rw [unpackSign_packComponents,Sign.ofBitVec_toBitVec,if_neg not_special,if_neg not_small]
  simp only [mantissa_back,exponent_back,UnpackedFloat.finite.injEq,true_and]
  rfl

/-- A full double within the range of exponents is kept as it is. -/
theorem unpack_pack {x : UnpackedFloat} {m : ℕ} {e : ℤ} (full : Full x m e) (low : -1074 ≤ e)
    (high : e ≤ 971) : (pack x).unpack = x := by
  obtain ⟨biased,exponent⟩ := Int.eq_ofNat_of_zero_le (show 0 ≤ e + 1075 by omega)
  change UnpackedFloat.unpack .binary64 (UnpackedFloat.pack .binary64 x) = x
  rw [pack_full full exponent (by omega),unpack_components full.low full.high (by omega) (by omega)]
  have same : (biased : ℤ) - 1075 = e := by omega
  simp only [same]
  exact full.same.symm

/-- A double that is positive, and whose mantissa has all its places, holds a value. -/
def Holds (x : Float) (v : ℚ) : Prop :=
  ∃ m e, Full x.toModel.unpack m e ∧ v = m * 2 ^ e

theorem Holds.unique {x : Float} {v w : ℚ} (first : Holds x v) (second : Holds x w) : v = w := by
  obtain ⟨m,e,full,rfl⟩ := first
  obtain ⟨n,f,full',rfl⟩ := second
  have same := full.same.symm.trans full'.same
  rw [UnpackedFloat.finite.injEq] at same
  obtain ⟨_,rfl,rfl⟩ := same
  rfl

/-- Full doubles are compared as their values are. -/
theorem le_of_holds {x y : Float} {v w : ℚ} (left : Holds x v) (right : Holds y w) (ordered : v ≤ w) :
    x ≤ y := by
  obtain ⟨m,e,full,rfl⟩ := left
  obtain ⟨n,f,full',rfl⟩ := right
  change decide (x.toModel.unpack.le y.toModel.unpack = true) = true
  rw [decide_eq_true_eq,full.same,full'.same]
  change ((compare e f).then (compare m n)).isLE = true
  have m_low : ((2 ^ 52 : ℕ) : ℚ) ≤ m := by exact_mod_cast full.low
  have n_high : (n : ℚ) < (2 ^ 53 : ℕ) := by exact_mod_cast full'.high
  push_cast at m_low n_high
  rcases lt_trichotomy e f with less | rfl | greater
  · rw [Int.compare_eq_lt.mpr less]
    rfl
  · have : (m : ℚ) ≤ n := le_of_mul_le_mul_right ordered (by positivity)
    have : m ≤ n := by exact_mod_cast this
    simp [Nat.isLE_compare,this]
  · exfalso
    have grown : (2 : ℚ) ^ (f + 1) ≤ 2 ^ e := zpow_le_zpow_right₀ one_le_two greater
    rw [zpow_add_one₀ (by norm_num)] at grown
    have positive : (0 : ℚ) < 2 ^ f := by positivity
    nlinarith

theorem zero_le_of_holds {x : Float} {v : ℚ} (holds : Holds x v) : 0.0 ≤ x := by
  obtain ⟨m,e,full,_⟩ := holds
  change decide ((UnpackedFloat.zero .positive).le x.toModel.unpack = true) = true
  rw [decide_eq_true_eq,full.same]
  rfl

theorem holds_one : Holds 1.0 1 :=
  ⟨2 ^ 52,-52,⟨le_rfl,by norm_num,rfl⟩,by norm_num⟩

/-- The size of a value bounds the exponent of the double that holds it. -/
theorem exponent_bounds {x : UnpackedFloat} {m : ℕ} {e s t : ℤ} (full : Full x m e)
    (low : 2 ^ s ≤ (m : ℚ) * 2 ^ e) (high : (m : ℚ) * 2 ^ e ≤ 2 ^ t) : s - 53 < e ∧ e ≤ t - 52 := by
  have m_low : ((2 ^ 52 : ℕ) : ℚ) ≤ m := by exact_mod_cast full.low
  have m_high : (m : ℚ) < (2 ^ 53 : ℕ) := by exact_mod_cast full.high
  push_cast at m_low m_high
  have positive : (0 : ℚ) < 2 ^ e := by positivity
  have below : (2 : ℚ) ^ (e + 52) ≤ 2 ^ t := by
    rw [zpow_add₀ (by norm_num)]
    norm_num
    nlinarith
  have above : (2 : ℚ) ^ s < 2 ^ (e + 53) := by
    rw [zpow_add₀ (by norm_num)]
    norm_num
    nlinarith
  have first := (zpow_le_zpow_iff_right₀ (one_lt_two (α := ℚ))).mp below
  have second := (zpow_lt_zpow_iff_right₀ (one_lt_two (α := ℚ))).mp above
  omega

/-- A full double of moderate size is packed without loss. -/
theorem holds_pack {x : UnpackedFloat} {m : ℕ} {e : ℤ} (full : Full x m e)
    (low : 2 ^ (-64 : ℤ) ≤ (m : ℚ) * 2 ^ e) (high : (m : ℚ) * 2 ^ e ≤ 2 ^ (64 : ℤ)) :
    Holds ⟨pack x⟩ (m * 2 ^ e) := by
  have bounds := exponent_bounds full low high
  refine ⟨m,e,?_,rfl⟩
  rw [unpack_pack full (by omega) (by omega)]
  exact full

/-- A value that a double holds is rounded to itself. -/
theorem Rounds.exact {x : UnpackedFloat} {m : ℕ} {e : ℤ} {v : ℚ} (full : Full x m e)
    (rounds : Rounds (m * 2 ^ e) v) : v = m * 2 ^ e := by
  obtain ⟨size,k,u,unit,positive,same,next,low,high,rfl,above,below⟩ := rounds.units
  rw [← same] at low
  rw [← next] at high
  have sizes := exponent_bounds full low high.le
  have inside : (2 : ℚ) ^ (e + 52) < 2 ^ (size + 1) := by
    have m_low : (2 : ℚ) ^ (52 : ℤ) ≤ m := by exact_mod_cast full.low
    rw [zpow_add₀ (by norm_num),mul_comm]
    exact (mul_le_mul_of_nonneg_right m_low (by positivity)).trans_lt high
  have ordered := (zpow_lt_zpow_iff_right₀ (one_lt_two (α := ℚ))).mp inside
  have whole : u = 2 ^ e := by rw [unit,show size - 52 = e by omega]
  subst whole
  have first := Rounds.whole_le (k := k) (n := m) positive (by push_cast; linarith)
  have second := Rounds.whole_le (k := m) (n := k) positive (by push_cast; linarith)
  push_cast at first second
  linarith

/-- Rounding a whole number of moderate size, written with at least 53 places. -/
theorem whole_rounds {n m : ℕ} {e : ℤ} (positive : 0 < n) (fits : n < 2 ^ 64) (wide : 2 ^ 52 ≤ m)
    (same : (m : ℚ) * 2 ^ e = n) :
    ∃ v, Holds ⟨pack (roundWithAccuracy .binary64 .positive m e .exact)⟩ v ∧ Rounds n v := by
  have one_le : (1 : ℚ) ≤ n := by exact_mod_cast positive
  have low : (2 : ℚ) ^ (-64 : ℤ) ≤ n := by norm_num; linarith
  have high : (n : ℚ) ≤ 2 ^ (64 : ℤ) := by exact_mod_cast fits.le
  have normal : -1022 ≤ e + m.log2 := by
    have m_high : (m : ℚ) < (2 ^ (m.log2 + 1) : ℕ) := by exact_mod_cast Nat.lt_log2_self
    have : (2 : ℚ) ^ (0 : ℤ) < 2 ^ ((m.log2 + 1 : ℕ) + e : ℤ) := by
      rw [zpow_zero,zpow_add₀ (by norm_num),zpow_natCast]
      push_cast at m_high
      have grown : (m : ℚ) * 2 ^ e < 2 ^ (m.log2 + 1) * 2 ^ e := mul_lt_mul_of_pos_right m_high (by positivity)
      linarith
    have := (zpow_lt_zpow_iff_right₀ (one_lt_two (α := ℚ))).mp this
    omega
  obtain ⟨k,f,full,rounds⟩ := round_full wide normal (tells_exact m)
  rw [same] at rounds
  exact ⟨_,holds_pack full (rounds.pow_le low) (rounds.le_pow high),rounds⟩

theorem toFloat_rounds {n : ℕ} (positive : 0 < n) (fits : n < 2 ^ 64) :
    ∃ v, Holds n.toUInt64.toFloat v ∧ Rounds n v := by
  have whole : n.toUInt64.toNat = n := UInt64.toNat_ofNat_of_lt' fits
  have above : compare (n : ℤ) 0 = .gt := Int.compare_eq_gt.mpr (by exact_mod_cast positive)
  have same : n.toUInt64.toFloat = ⟨pack (UnpackedFloat.normalize .binary64 n 0 .positive)⟩ := by
    change (⟨pack (UnpackedFloat.normalize .binary64 n.toUInt64.toNat 0 .positive)⟩ : Float) = _
    rw [whole]
  rw [same]
  simp only [UnpackedFloat.normalize,above,UnpackedFloat.round,decreaseExponent,Int.toNat_natCast]
  rw [targetExponent_eq n 0 (by omega)]
  obtain ⟨k,amount⟩ : ∃ k : ℕ, (0 - (0 + (n.log2 : ℤ) - 52)).toNat = k := ⟨_,rfl⟩
  rw [amount]
  apply whole_rounds positive fits
  · have places : 52 ≤ n.log2 + k := by omega
    rw [Nat.shiftLeft_eq]
    calc 2 ^ 52 ≤ 2 ^ (n.log2 + k) := Nat.pow_le_pow_right (by decide) places
      _ = 2 ^ n.log2 * 2 ^ k := pow_add 2 n.log2 k
      _ ≤ n * 2 ^ k := Nat.mul_le_mul_right _ (Nat.log2_self_le (by omega))
  · rw [Nat.shiftLeft_eq,zero_sub,zpow_neg,zpow_natCast]
    push_cast
    field_simp

/-- Multiplying by one changes nothing. -/
theorem mul_one_holds {x : Float} {v : ℚ} (holds : Holds x v) (low : 2 ^ (-64 : ℤ) ≤ v)
    (high : v ≤ 2 ^ (64 : ℤ)) : Holds (x * Float.exactlyRepresentablePowersOfTen[0]) v := by
  obtain ⟨m,e,full,rfl⟩ := holds
  have same : x * Float.exactlyRepresentablePowersOfTen[0] =
      ⟨pack (UnpackedFloat.mul .binary64 x.toModel.unpack (.finite .positive (2 ^ 52) (-52) (by decide)))⟩ := rfl
  obtain ⟨places,_⟩ := exponent_bounds full low high
  have wide : 2 ^ 52 ≤ m * 2 ^ 52 := by have := full.low; omega
  have log := (Nat.le_log2 (by omega)).mpr wide
  obtain ⟨k,f,rounded,rounds⟩ := round_full wide (e := e + -52) (by omega) (tells_exact (m * 2 ^ 52))
  have scaled : ((m * 2 ^ 52 : ℕ) : ℚ) * 2 ^ (e + -52) = m * 2 ^ e := by
    rw [zpow_add₀ (by norm_num)]
    push_cast
    norm_num
    ring
  rw [scaled] at rounds
  have kept := rounds.exact full
  rw [same,full.same]
  have packed := holds_pack rounded (by rw [kept]; exact low) (by rw [kept]; exact high)
  rw [kept] at packed
  exact packed

/-- A count is converted to the nearest double. -/
theorem ofNat_rounds {n : ℕ} (positive : 0 < n) (fits : n < 2 ^ 64) :
    ∃ v, Holds (Float.ofNat n) v ∧ Rounds n v := by
  change ∃ v, Holds (Float.ofScientific n false 0) v ∧ _
  unfold Float.ofScientific
  split
  · -- A count of up to 53 places is multiplied by a power of ten, which is one here.
    obtain ⟨v,holds,rounds⟩ := toFloat_rounds positive fits
    have one_le : (1 : ℚ) ≤ n := by exact_mod_cast positive
    have low : (2 : ℚ) ^ (-64 : ℤ) ≤ n := by norm_num; linarith
    have high : (n : ℚ) ≤ 2 ^ (64 : ℤ) := by exact_mod_cast fits.le
    exact ⟨v,mul_one_holds holds (rounds.pow_le low) (rounds.le_pow high),rounds⟩
  · rename_i large
    have many : 2 ^ 53 ≤ n := by omega
    have scaled : ((n <<< 53 * 10 ^ 0 : ℕ) : ℚ) * 2 ^ (-53 + 0 : ℤ) = n := by
      rw [Nat.shiftLeft_eq]
      norm_num
      ring
    have same : (⟨Float.Model.ofScientific n (Int.ofNat 0)⟩ : Float) =
        ⟨pack (roundWithAccuracy .binary64 .positive (n <<< 53 * 10 ^ 0) (-53 + 0) .exact)⟩ := by
      have something : n ≠ 0 := by omega
      have small : ¬(Int.ofNat 0 > 2 ^ 11) := by decide
      have known : ¬(Int.ofNat 0 < -(2 ^ 11 + (n.log2 : ℤ))) := by simp
      change (⟨pack (UnpackedFloat.ofScientific .binary64 n (Int.ofNat 0))⟩ : Float) = _
      unfold UnpackedFloat.ofScientific
      rw [dif_neg something,if_neg small,if_neg known,if_pos (by decide)]
      rfl
    have rounds := whole_rounds positive fits (m := n <<< 53 * 10 ^ 0) (by rw [Nat.shiftLeft_eq]; omega) scaled
    simp only [Bool.false_eq_true,if_false]
    rw [same]
    exact rounds

theorem divCore_full {m n : ℕ} {e f : ℤ} (low : 2 ^ 52 ≤ m) (high : m < 2 ^ 53) (low' : 2 ^ 52 ≤ n)
    (high' : n < 2 ^ 53) (normal : -1021 ≤ e - f) : divCore .binary64 m e n f =
      (m * 2 ^ 53 / n,e - f - 53,accuracyOfFraction (m * 2 ^ 53 % n) n) := by
  have target : min (e - f) (Format.binary64.targetExponent (totalExponent m e - totalExponent n f)) =
      e - f - 53 := by
    simp only [totalExponent,log2_full low high,log2_full low' high',Format.targetExponent,
      Format.minExponent,Format.mantissaBits]
    norm_num
    omega
  have amount : (e - f - (e - f - 53)).toNat = 53 := by omega
  simp only [divCore,target,amount,Nat.shiftLeft_eq]

/-- The quotient of full mantissas is below two, so a fraction that is not too small has an exponent that
is not. -/
theorem quotient_normal {x y : UnpackedFloat} {m n : ℕ} {e f : ℤ} (left : Full x m e) (right : Full y n f)
    (low : 2 ^ (-64 : ℤ) ≤ (m : ℚ) * 2 ^ e / (n * 2 ^ f)) : -65 ≤ e - f := by
  have m_high : (m : ℚ) ≤ (2 ^ 53 : ℕ) := by exact_mod_cast left.high.le
  have n_low : ((2 ^ 52 : ℕ) : ℚ) ≤ n := by exact_mod_cast right.low
  push_cast at m_high n_low
  have n_positive : (0 : ℚ) < n := by linarith
  have mantissas : (m : ℚ) / n ≤ 2 := by
    rw [div_le_iff₀ n_positive]
    linarith
  have small : (m : ℚ) * 2 ^ e / (n * 2 ^ f) ≤ 2 ^ (e - f + 1) := by
    rw [zpow_add_one₀ (by norm_num),zpow_sub₀ (by norm_num),mul_div_mul_comm,mul_comm]
    exact mul_le_mul_of_nonneg_left mantissas (by positivity)
  have := (zpow_le_zpow_iff_right₀ (one_lt_two (α := ℚ))).mp (low.trans small)
  omega

/-- Dividing doubles gives the double nearest to the fraction. -/
theorem div_rounds {x y : Float} {v w : ℚ} (left : Holds x v) (right : Holds y w)
    (low : 2 ^ (-64 : ℤ) ≤ v / w) (high : v / w ≤ 2 ^ (64 : ℤ)) :
    ∃ u, Holds (x / y) u ∧ Rounds (v / w) u := by
  obtain ⟨m,e,full,rfl⟩ := left
  obtain ⟨n,f,full',rfl⟩ := right
  have normal := quotient_normal full full' low
  have n_positive : 0 < n := by have := full'.low; omega
  have fraction : (m : ℚ) * 2 ^ e / (n * 2 ^ f) = (m * 2 ^ 53 : ℕ) / n * 2 ^ (e - f - 53) := by
    rw [zpow_sub₀ (by norm_num),zpow_sub₀ (by norm_num)]
    push_cast
    field_simp
  have wide : 2 ^ 52 ≤ m * 2 ^ 53 / n := by
    rw [Nat.le_div_iff_mul_le n_positive]
    have := full.low
    have := full'.high
    omega
  rw [fraction] at low high ⊢
  obtain ⟨k,g,rounded,rounds⟩ := round_full wide (e := e - f - 53) (by omega)
    (tells_fraction (m * 2 ^ 53) n_positive)
  have packed := holds_pack rounded (rounds.pow_le low) (rounds.le_pow high)
  refine ⟨_,?_,rounds⟩
  have same : x / y = ⟨pack (UnpackedFloat.div .binary64 x.toModel.unpack y.toModel.unpack)⟩ := rfl
  have core := divCore_full full.low full.high full'.low full'.high (e := e) (f := f) (by omega)
  rw [same,full.same,full'.same]
  simp only [UnpackedFloat.div,core]
  exact packed

theorem ofNat_moderate {n : ℕ} {v : ℚ} (positive : 0 < n) (fits : n < 2 ^ 64) (rounds : Rounds n v) :
    1 ≤ v ∧ v ≤ 2 ^ (64 : ℤ) := by
  constructor
  · have := rounds.pow_le (t := 0) (by rw [zpow_zero]; exact_mod_cast positive)
    rwa [zpow_zero] at this
  · exact rounds.le_pow (by exact_mod_cast fits.le)

theorem quotient_moderate {v w : ℚ} (v_low : 1 ≤ v) (v_high : v ≤ 2 ^ (64 : ℤ)) (w_low : 1 ≤ w)
    (w_high : w ≤ 2 ^ (64 : ℤ)) : 2 ^ (-64 : ℤ) ≤ v / w ∧ v / w ≤ 2 ^ (64 : ℤ) := by
  have positive : 0 < w := by linarith
  constructor
  · rw [le_div_iff₀ positive,zpow_neg,inv_mul_le_iff₀ (by positivity)]
    exact w_high.trans (le_mul_of_one_le_right (by positivity) v_low)
  · rw [div_le_iff₀ positive]
    exact v_high.trans (le_mul_of_one_le_right (by positivity) w_low)

theorem zero_div_holds {x : Float} {v : ℚ} (holds : Holds x v) : Float.ofNat 0 / x = 0.0 := by
  obtain ⟨m,e,full,_⟩ := holds
  have same : Float.ofNat 0 / x =
      ⟨pack (UnpackedFloat.div .binary64 (Float.ofNat 0).toModel.unpack x.toModel.unpack)⟩ := rfl
  rw [same,full.same]
  rfl

/-- The ratio of two counts is not negative, and at most one when the first is at most the second. -/
theorem ratio_bounds {a b : ℕ} (fits : a < 2 ^ 64) (positive : 0 < b) (fits' : b < 2 ^ 64) :
    0.0 ≤ Float.ofNat a / Float.ofNat b ∧ (a ≤ b → Float.ofNat a / Float.ofNat b ≤ 1.0) := by
  obtain ⟨w,divisor,divisor_rounds⟩ := ofNat_rounds positive fits'
  rcases Nat.eq_zero_or_pos a with rfl | some_count
  · rw [zero_div_holds divisor]
    exact ⟨by decide,fun _ => by decide⟩
  · obtain ⟨v,dividend,dividend_rounds⟩ := ofNat_rounds some_count fits
    obtain ⟨v_low,v_high⟩ := ofNat_moderate some_count fits dividend_rounds
    obtain ⟨w_low,w_high⟩ := ofNat_moderate positive fits' divisor_rounds
    obtain ⟨low,high⟩ := quotient_moderate v_low v_high w_low w_high
    obtain ⟨u,holds,rounds⟩ := div_rounds dividend divisor low high
    refine ⟨zero_le_of_holds holds,?_⟩
    intro ordered
    have values : v ≤ w := by
      rcases ordered.eq_or_lt with rfl | less
      · exact (dividend.unique divisor).le
      · exact dividend_rounds.mono divisor_rounds (by exact_mod_cast less)
    have part : v / w ≤ 2 ^ (0 : ℤ) := by
      rw [zpow_zero]
      exact div_le_one_of_le₀ values (by linarith)
    have share : u ≤ 1 := by simpa using rounds.le_pow part
    exact le_of_holds holds holds_one share

end GeoFleet.Rounding
