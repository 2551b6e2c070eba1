import GeoFleet.Proofs.Collections
import GeoFleet.Magnitude

/-! The order of doubles. Numbers stand in a line, between the infinities and with the two zeros at one place;
what is no number stands nowhere, and nothing that is added makes it a number. -/
namespace GeoFleet.Magnitude

open Float.Model (UnpackedFloat)

/-- The place of a number in the line: its side, its exponent and its mantissa, mirrored on the side of
the negative numbers. -/
def place : UnpackedFloat → Int × Int × Int
  | .infinity .negative => (-2,0,0)
  | .finite .negative m e _ => (-1,-e,-m)
  | .zero _ | .notANumber => (0,0,0)
  | .finite .positive m e _ => (1,e,m)
  | .infinity .positive => (2,0,0)

def Precedes (p q : Int × Int × Int) : Prop :=
  p.1 < q.1 ∨ p.1 = q.1 ∧ (p.2.1 < q.2.1 ∨ p.2.1 = q.2.1 ∧ p.2.2 < q.2.2)

theorem compare_eq_lt_iff {a b : UnpackedFloat} (left : a.isNaN = false) (right : b.isNaN = false) :
    a.compare b = some .lt ↔ Precedes (place a) (place b) := by
  unfold Precedes
  cases a with
  | notANumber => cases left
  | infinity s =>
    cases b with
    | notANumber => cases right
    | infinity t => cases s <;> cases t <;> decide
    | zero t => cases s <;> dsimp only [UnpackedFloat.compare,place] <;> simp
    | finite t m e _ => cases s <;> cases t <;> dsimp only [UnpackedFloat.compare,place] <;> simp
  | zero s =>
    cases b with
    | notANumber => cases right
    | infinity t => cases t <;> dsimp only [UnpackedFloat.compare,place] <;> simp
    | zero t => dsimp only [UnpackedFloat.compare,place]; simp
    | finite t m e _ => cases t <;> dsimp only [UnpackedFloat.compare,place] <;> simp
  | finite s m e _ =>
    cases b with
    | notANumber => cases right
    | infinity t => cases s <;> cases t <;> dsimp only [UnpackedFloat.compare,place] <;> simp
    | zero t => cases s <;> dsimp only [UnpackedFloat.compare,place] <;> simp
    | finite t n f _ =>
      cases s <;> cases t <;> dsimp only [UnpackedFloat.compare,place] <;>
        simp [Ordering.then_eq_lt,Ordering.then_eq_gt,Nat.compare_eq_lt,Nat.compare_eq_gt,
          Int.compare_eq_lt,Int.compare_eq_gt]

/-- Infinities are numbers here. -/
def IsNumber (x : Float) : Prop := x.isNaN = false

instance (x : Float) : Decidable (IsNumber x) := inferInstanceAs (Decidable (x.isNaN = false))

/-- How a double stands to another. What is no number stands nowhere. -/
def standing? (x y : Float) : Option Ordering := x.toModel.compare y.toModel

theorem compare_swap (a b : UnpackedFloat) : b.compare a = (a.compare b).map Ordering.swap := by
  cases a with
  | notANumber => cases b <;> rfl
  | infinity s =>
    cases b with
    | notANumber => rfl
    | infinity t => cases s <;> cases t <;> rfl
    | zero t => cases s <;> rfl
    | finite t m e _ => cases s <;> cases t <;> rfl
  | zero s =>
    cases b with
    | notANumber => rfl
    | infinity t => cases t <;> rfl
    | zero t => rfl
    | finite t m e _ => cases t <;> rfl
  | finite s m e _ =>
    cases b with
    | notANumber => rfl
    | infinity t => cases s <;> cases t <;> rfl
    | zero t => cases s <;> rfl
    | finite t n f _ =>
      have exponents : compare f e = (compare e f).swap := Std.OrientedCmp.eq_swap
      have mantissas : compare n m = (compare m n).swap := Std.OrientedCmp.eq_swap
      cases s <;> cases t <;> dsimp only [UnpackedFloat.compare] <;>
        simp only [exponents,mantissas,Ordering.swap_then,Ordering.swap_swap,Option.map_some] <;> rfl

theorem standing?_swap (x y : Float) : standing? y x = (standing? x y).map Ordering.swap :=
  compare_swap x.toModel.unpack y.toModel.unpack

theorem isNumber_of_standing? {x y : Float} (stands : standing? x y = some o) : IsNumber x := by
  cases unpacked : x.toModel.unpack with
  | notANumber =>
    have nowhere : UnpackedFloat.notANumber.compare y.toModel.unpack = some o := by rw [← unpacked]; exact stands
    cases nowhere
  | infinity | zero | finite =>
    change x.toModel.unpack.isNaN = false
    rw [unpacked]
    rfl

theorem lt_iff_standing {x y : Float} : x < y ↔ standing? x y = some .lt := by
  change decide (x.toModel < y.toModel) = true ↔ _
  rw [decide_eq_true_eq]
  exact beq_iff_eq

theorem le_iff_standing {x y : Float} : x ≤ y ↔ standing? x y = some .lt ∨ standing? x y = some .eq := by
  change decide (x.toModel ≤ y.toModel) = true ↔ _
  rw [decide_eq_true_eq]
  change (standing? x y).any (·.isLE) = true ↔ _
  rcases standing? x y with _ | _ | _ | _ <;> decide

theorem beq_iff_standing {x y : Float} : (x == y) = true ↔ standing? x y = some .eq := by
  change (standing? x y == some .eq) = true ↔ _
  exact beq_iff_eq

theorem lt_iff {x y : Float} (left : IsNumber x) (right : IsNumber y) :
    x < y ↔ Precedes (place x.toModel.unpack) (place y.toModel.unpack) := by
  rw [lt_iff_standing]
  exact compare_eq_lt_iff left right

theorem isNumber_of_lt {x y : Float} (less : x < y) : IsNumber x ∧ IsNumber y := by
  have stands := lt_iff_standing.mp less
  have back : standing? y x = some .gt := by rw [standing?_swap,stands]; rfl
  exact ⟨isNumber_of_standing? stands,isNumber_of_standing? back⟩

theorem le_of_lt {x y : Float} (less : x < y) : x ≤ y :=
  le_iff_standing.mpr (.inl (lt_iff_standing.mp less))

theorem not_lt_of_le {x y : Float} (ordered : x ≤ y) : ¬y < x := by
  rw [lt_iff_standing,standing?_swap]
  rcases le_iff_standing.mp ordered with less | equal
  · rw [less]; decide
  · rw [equal]; decide

theorem lt_of_le_of_lt {x y z : Float} (ordered : x ≤ y) (less : y < z) : x < z := by
  obtain ⟨second,third⟩ := isNumber_of_lt less
  have first : IsNumber x := by
    rcases le_iff_standing.mp ordered with stands | stands <;> exact isNumber_of_standing? stands
  have low := not_lt_of_le ordered
  rw [lt_iff second first] at low
  rw [lt_iff second third] at less
  rw [lt_iff first third]
  unfold Precedes at *
  omega

theorem lt_of_lt_of_not_lt {x y z : Float} (number : IsNumber z) (less : x < y) (high : ¬z < y) : x < z := by
  obtain ⟨first,second⟩ := isNumber_of_lt less
  rw [lt_iff first second] at less
  rw [lt_iff number second] at high
  rw [lt_iff first number]
  unfold Precedes at *
  omega

theorem not_infinity_lt (x : Float) : ¬1.0 / 0.0 < x := by
  intro less
  obtain ⟨number,other⟩ := isNumber_of_lt less
  rw [lt_iff number other] at less
  have last : place (1.0 / 0.0 : Float).toModel.unpack = (2,0,0) := by decide
  rw [last,Precedes] at less
  generalize x.toModel.unpack = u at less
  cases u with
  | notANumber | zero s => dsimp only [place] at less; omega
  | infinity s | finite s m e positive => cases s <;> dsimp only [place] at less <;> omega

theorem lesser_choice (x y : Float) : lesser x y = x ∨ lesser x y = y := by
  unfold lesser
  split <;> try split
  all_goals simp

theorem greater_choice (x y : Float) : greater x y = x ∨ greater x y = y := by
  unfold greater
  split <;> try split
  all_goals simp

/-- What is no number stays so, whatever is added. -/
theorem isNumber_of_add {x y : Float} (number : IsNumber (x + y)) : IsNumber x := by
  change (Float.Model.pack (UnpackedFloat.add .binary64 x.toModel.unpack y.toModel.unpack)).unpack.isNaN = false
    at number
  change x.toModel.unpack.isNaN = false
  cases unpacked : x.toModel.unpack with
  | notANumber =>
    rw [unpacked] at number
    change (Float.Model.pack .notANumber).unpack.isNaN = false at number
    revert number
    decide
  | infinity | zero | finite => rfl

theorem isNumber_of_foldl_add {values : List Float} {x : Float}
    (number : IsNumber (values.foldl (· + ·) x)) : IsNumber x := by
  induction values generalizing x with
  | nil => exact number
  | cons v values ih => exact isNumber_of_add (ih number)

end GeoFleet.Magnitude
