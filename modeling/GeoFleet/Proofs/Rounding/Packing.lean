import Mathlib

/-! Doubles and their bits. A finite number is packed to its sign, its exponent and its mantissa, and valid bits
are what is packed of what they are unpacked to; so a double is read back from its bits. -/
namespace GeoFleet.Rounding

open Float.Model
open Float.Model.UnpackedFloat

/-- What a finite number within the range of exponents is packed to. Without its leading place it has the least
exponent, which is packed as zero. -/
theorem pack_finite {s : Sign} {m : Nat} {e : Int} {positive : 0 < m} (biased : Nat) (exponent : e + 1075 = biased)
    (fits : biased < 2047) : UnpackedFloat.pack .binary64 (.finite s m e positive) =
      packComponents .binary64 s (if m.log2 = 52 then BitVec.ofNat 11 biased else 0#11) (BitVec.ofNat 52 m) := by
  have bias : (e + (Format.binary64.exponentBias : Int) + (Format.binary64.mantissaBitsWithoutImplicit : Int)).toNat
      = biased := by
    have exponentBias : (Format.binary64.exponentBias : Int) = 1023 := by decide
    have places : (Format.binary64.mantissaBitsWithoutImplicit : Int) = 52 := rfl
    omega
  unfold UnpackedFloat.pack
  simp only [bias]
  rw [if_neg (by simp; omega)]
  by_cases full : m.log2 = 52
  · rw [if_pos full,if_pos (by rw [full]; rfl)]
  · rw [if_neg full,if_neg (by simp [Format.mantissaBits]; omega)]

/-- A bit pattern is made of its sign, its exponent and its mantissa. -/
theorem pack_components (b : BitVec 64) : packComponents .binary64
    (.ofBitVec (@unpackSign .binary64 b)) (@unpackExponent .binary64 b) (@unpackMantissa .binary64 b) = b := by
  have sign : ∀ v : BitVec 1, (Sign.ofBitVec v).toBitVec = v := by decide
  rw [packComponents,sign]
  change (b.extractLsb 63 63 ++ b.extractLsb 62 52 ++ b.extractLsb 51 0 : BitVec 64) = b
  simp only [BitVec.extractLsb]
  ext i bound
  grind

section Mantissa

variable {mantissa : BitVec 52}

theorem log2_small (something : mantissa ≠ 0#52) : mantissa.toNat.log2 ≠ 52 := by
  have positive : mantissa.toNat ≠ 0 := fun nothing => something (BitVec.eq_of_toNat_eq nothing)
  exact Nat.ne_of_lt ((Nat.log2_lt positive).mpr mantissa.isLt)

theorem toNat_leading : (1#1 ++ mantissa).toNat = 2 ^ 52 + mantissa.toNat := by
  rw [BitVec.toNat_append,← Nat.shiftLeft_add_eq_or_of_lt mantissa.isLt]
  rfl

theorem log2_leading : (1#1 ++ mantissa).toNat.log2 = 52 := by
  have bound := mantissa.isLt
  have sum : (1#1 ++ mantissa).toNat = 2 ^ 52 + mantissa.toNat := toNat_leading
  have positive : (1#1 ++ mantissa).toNat ≠ 0 := by omega
  have above := (Nat.le_log2 (k := 52) positive).mpr (by omega)
  have below := (Nat.log2_lt (k := 53) positive).mpr (by omega)
  omega

end Mantissa

theorem pack_unpack {b : BitVec 64} (valid : Format.binary64.Valid b) :
    UnpackedFloat.pack .binary64 (UnpackedFloat.unpack .binary64 b) = b := by
  have whole := pack_components b
  unfold UnpackedFloat.unpack
  simp only
  -- The largest exponent is that of infinities and of what is no number, the least that of zeros and small numbers.
  split
  · rename_i special
    split
    · rename_i nothing
      rw [special,nothing] at whole
      exact whole
    · rename_i something
      exact (valid.eq_packedNaN special something).symm
  · rename_i regular
    split
    · rename_i small
      split
      · rename_i nothing
        rw [small,nothing] at whole
        exact whole
      · rename_i something
        have least : (@unpackExponent .binary64 b).toNat = 0 := by rw [small]; rfl
        rw [pack_finite 1 (by rw [least]; decide) (by decide),if_neg (log2_small something)]
        rw [small] at whole
        simpa using whole
    · rename_i normal
      have width : (@unpackExponent .binary64 b).toNat < 2 ^ 11 := BitVec.isLt _
      have finite : (@unpackExponent .binary64 b).toNat ≠ 2047 :=
        fun full => regular (BitVec.eq_of_toNat_eq full)
      have bias : (Format.binary64.exponentBias : Int) = 1023 := by decide
      have places : BitVec.ofNat 52 (2 ^ 52 + (@unpackMantissa .binary64 b).toNat) =
          @unpackMantissa .binary64 b := by
        apply BitVec.eq_of_toNat_eq
        rw [BitVec.toNat_ofNat,Nat.add_mod_left]
        exact Nat.mod_eq_of_lt (BitVec.isLt _)
      rw [pack_finite (@unpackExponent .binary64 b).toNat (by omega) (by omega),
        if_pos log2_leading,toNat_leading,places]
      simpa using whole

theorem ofBits_toBits (x : Float) : Float.ofBits x.toBits = x := by
  obtain ⟨⟨⟨b⟩,valid⟩⟩ := x
  have bits : Float.Model.ofBits ⟨b⟩ = ⟨⟨b⟩,valid⟩ := by
    unfold Float.Model.ofBits Float.Model.pack
    simp only [pack_unpack valid]
  exact congrArg Float.ofModel bits

end GeoFleet.Rounding
