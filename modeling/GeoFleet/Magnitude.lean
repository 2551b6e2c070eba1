/-! Comparing doubles when one of them may be no number. `compareTotal` is a total order: minus
infinity comes first, then the finite numbers with minus zero before zero, then infinity, and what
is no number last. `lesser` and `greater` prefer any number to none, and of
equal ones, such as the two zeros, the second. -/
namespace GeoFleet.Magnitude

/-- The place of a bit pattern in the total order. Those of non-negative doubles are already in order;
those with a sign come before, in reverse. -/
def rankOfBits (bits : UInt64) : Int :=
  let word := bits.toNat
  if word < Nat.pow 2 63 then Int.ofNat word else Int.ofNat (Nat.pow 2 63) - Int.ofNat word - 1

def rank (x : Float) : Int := rankOfBits x.toBits

def compareTotal (x y : Float) : Ordering := compare (rank x) (rank y)

/-- The smaller number; of equal ones, and when `x` is none, `y`. -/
def lesser (x y : Float) : Float := if y.isNaN then x else if x < y then x else y

/-- The greater number; of equal ones, and when `x` is none, `y`. -/
def greater (x y : Float) : Float := if y.isNaN then x else if y < x then x else y

theorem rankOfBits_injective {a b : UInt64} (h : rankOfBits a = rankOfBits b) : a = b := by
  have ha := a.toNat_lt
  have hb := b.toNat_lt
  have : a.toNat = b.toNat := by
    simp only [rankOfBits] at h
    split at h <;> split at h <;> simp only [Int.ofNat_eq_natCast] at h <;> omega
  exact UInt64.toNat_inj.mp this

theorem rank_injective {x y : Float} (h : rank x = rank y) : x = y := by
  have bits : x.toBits = y.toBits := rankOfBits_injective h
  obtain ⟨⟨u,hu⟩⟩ := x
  obtain ⟨⟨v,hv⟩⟩ := y
  have same : u = v := bits
  subst same
  rfl

instance : Std.TransCmp compareTotal where
  eq_swap {_ _} := Std.OrientedOrd.eq_swap
  isLE_trans {_ _ _} := Std.TransOrd.isLE_trans

instance : Std.LawfulEqCmp compareTotal where
  compare_self {_} := Std.ReflOrd.compare_self
  eq_of_compare {_ _} h := rank_injective (Std.LawfulEqOrd.eq_of_compare h)

end GeoFleet.Magnitude
