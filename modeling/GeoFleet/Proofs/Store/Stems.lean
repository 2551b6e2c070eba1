import Mathlib.Data.List.Infix
import GeoFleet.Proofs.Collections
import GeoFleet.Proofs.Store.Keys
import GeoFleet.Store.Basic

/-! Keys with a common stem. In the order of keys they stand next to each other, beginning at the
stem itself, so a scan that starts there and stops at the first other key misses none of them. The
stem of a target tells its keys from those of all other targets, as no target contains a separator. -/
namespace GeoFleet

theorem compare_eq_lt_iff {a b : String} : compare a b = .lt ↔ a.toList < b.toList := by
  rw [← String.lt_iff]
  exact compareOfLessAndEq_eq_lt

theorem not_lt_of_isPrefix {stem key : List Char} (begins : stem <+: key) : ¬key < stem := by
  obtain ⟨rest,rfl⟩ := begins
  induction stem with
  | nil => exact List.not_lt_nil _
  | cons c stem ih =>
    rw [List.cons_append,List.cons_lt_cons_iff]
    rintro (less | ⟨_,less⟩)
    · exact Char.lt_irrefl c less
    · exact ih less

/-- What stands between a stem and a key that begins with it begins with it too. -/
theorem isPrefix_of_between {stem key later : List Char} (above : ¬key < stem) (before : key < later)
    (begins : stem <+: later) : stem <+: key := by
  induction stem generalizing key later with
  | nil => exact List.nil_prefix
  | cons c stem ih =>
    obtain ⟨rest,rfl⟩ := begins
    cases key with
    | nil => exact absurd (List.nil_lt_cons c stem) above
    | cons d key =>
      rw [List.cons_append,List.cons_lt_cons_iff] at before
      rw [List.cons_lt_cons_iff,not_or] at above
      rcases before with less | ⟨rfl,before⟩
      · exact absurd less above.1
      · have higher : ¬key < stem := fun less => above.2 ⟨rfl,less⟩
        exact (List.cons_prefix_cons).mpr ⟨rfl,ih higher before (List.prefix_append _ _)⟩

/-- Where the left parts lack it, the first separator ends them. -/
theorem append_cons_inj_of_first {c : α} {as bs ps qs : List α} (left : c ∉ as) (right : c ∉ bs)
    (same : as ++ c :: ps = bs ++ c :: qs) : as = bs := by
  have reversed : ps.reverse ++ c :: as.reverse = qs.reverse ++ c :: bs.reverse := by
    simpa using congrArg List.reverse same
  have ends := append_cons_inj_of_last (by simpa using left) (by simpa using right) reversed
  exact List.reverse_injective ends.2

theorem takeWhile_eq_filter {p : α → Bool} {l : List α}
    (initial : l.Pairwise fun a b => p b = true → p a = true) : l.takeWhile p = l.filter p := by
  induction l with
  | nil => rfl
  | cons a l ih =>
    obtain ⟨first,rest⟩ := List.pairwise_cons.mp initial
    cases holds : p a with
    | true => rw [List.takeWhile_cons_of_pos holds,List.filter_cons_of_pos holds,ih rest]
    | false =>
      rw [List.takeWhile_cons_of_neg (by simp [holds]),List.filter_cons_of_neg (by simp [holds])]
      refine (List.filter_eq_nil_iff.mpr ?_).symm
      intro b member later
      rw [first b member later] at holds
      cases holds

namespace Table

theorem begins_iff {stem key : String} : begins stem key = true ↔ stem.toList <+: key.toList :=
  List.isPrefixOf_iff_prefix

theorem begins_empty (key : String) : begins "" key = true := begins_iff.mpr List.nil_prefix

def rowsUnder (t : Table α) (stem : String) : List (String × Option α) :=
  t.toList.filter fun row => begins stem row.1

theorem mem_rowsUnder_iff {t : Table α} {stem key : String} {row : Option α} :
    (key,row) ∈ t.rowsUnder stem ↔ begins stem key = true ∧ t[key]? = some row := by
  rw [rowsUnder,List.mem_filter,Std.ExtTreeMap.mem_toList_iff_getElem?_eq_some,and_comm]

theorem rowsUnder_sorted (t : Table α) (stem : String) :
    (t.rowsUnder stem).Pairwise fun a b => compare a.1 b.1 = .lt :=
  Std.ExtTreeMap.ordered_keys_toList.filter _

/-- Dropping the rows before a stem and taking them while they begin with it leaves those that do. -/
theorem takeWhile_fromKey (t : Table α) (stem : String) :
    (t.fromKey stem).takeWhile (fun row => begins stem row.1) = t.rowsUnder stem := by
  have sorted := Std.ExtTreeMap.ordered_keys_toList (t := t)
  unfold fromKey rowsUnder
  generalize t.toList = rows at sorted
  induction rows with
  | nil => rfl
  | cons row rows ih =>
    obtain ⟨first,rest⟩ := List.pairwise_cons.mp sorted
    by_cases below : compare row.1 stem = .lt
    · have other : ¬begins stem row.1 = true := by
        intro begins
        exact not_lt_of_isPrefix (begins_iff.mp begins) (compare_eq_lt_iff.mp below)
      rw [List.dropWhile_cons_of_pos (by simpa using below),ih rest]
      simp [other]
    · rw [List.dropWhile_cons_of_neg (by simpa using below)]
      apply takeWhile_eq_filter
      -- From here on no key is below the stem, so keys that begin with it come first.
      have above : ∀ other ∈ row :: rows, ¬other.1.toList < stem.toList := by
        intro other member less
        have less := compare_eq_lt_iff.mpr less
        rcases List.mem_cons.mp member with rfl | later
        · exact below less
        · exact below (Std.TransCmp.lt_trans (first other later) less)
      refine sorted.imp_of_mem ?_
      intro a b member _ before begins
      exact begins_iff.mpr
        (isPrefix_of_between (above a member) (compare_eq_lt_iff.mp before) (begins_iff.mp begins))

theorem keysUnder_eq (t : Table α) (stem : String) : t.keysUnder stem = (t.rowsUnder stem).map Prod.fst := by
  rw [keysUnder,takeWhile_fromKey]

theorem mem_keysUnder {t : Table α} {stem key : String} :
    key ∈ t.keysUnder stem ↔ begins stem key = true ∧ t[key]?.isSome = true := by
  rw [Option.isSome_iff_exists]
  simp [keysUnder_eq,mem_rowsUnder_iff]

theorem getElem?_eraseKeys (t : Table α) (keys : List String) (key : String) :
    (t.eraseKeys keys)[key]? = if key ∈ keys then none else t[key]? := by
  induction keys generalizing t with
  | nil => simp [eraseKeys]
  | cons first keys ih =>
    have step : t.eraseKeys (first :: keys) = eraseKeys (t.erase first) keys := rfl
    rw [step,ih]
    by_cases same : first = key
    · subst same; simp
    · rw [getElem?_erase_ne same]
      simp [Ne.symm same]

end Table

namespace Key

/-- A name without a separator. -/
def Plain (target : String) : Prop := '\x00' ∉ target.toList

instance (target : String) : Decidable (Plain target) :=
  inferInstanceAs (Decidable ('\x00' ∉ target.toList))

theorem fieldStats_injective (same : fieldStats target field = fieldStats target other) :
    field = other := by
  have lists := congrArg String.toList same
  simp only [fieldStats,String.toList_append] at lists
  exact String.toList_inj.mp (List.append_cancel_left lists)

theorem begins_stem (target field : String) : Table.begins (stem target) (fieldStats target field) = true := by
  rw [Table.begins_iff,fieldStats,String.toList_append]
  exact List.prefix_append _ _

theorem begins_decision (target : String) (epoch : Nat) :
    Table.begins (stem target) (decision target epoch) = true :=
  begins_stem target _

theorem begins_stem_iff {target other field : String} (plain : Plain target) (separate : Plain other) :
    Table.begins (stem target) (fieldStats other field) = true ↔ target = other := by
  constructor
  · intro begins
    obtain ⟨rest,same⟩ := Table.begins_iff.mp begins
    simp only [fieldStats,stem,separator,String.toList_append,List.append_assoc] at same
    exact String.toList_inj.mp (append_cons_inj_of_first plain separate same)
  · rintro rfl
    exact begins_stem target field

end Key

end GeoFleet
