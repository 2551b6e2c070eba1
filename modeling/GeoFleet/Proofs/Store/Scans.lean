import Mathlib.Data.Set.List
import GeoFleet.Proofs.Store.Frames
import GeoFleet.Proofs.Text.ByteOrder

/-! What a scan of a table answers. The rows under a stem come in the order of their keys; so the
statistics of a target come in the order of the names of their fields, and its log in the order of time,
as times of 64 bits have as many digits as a key has room for. -/
namespace GeoFleet

/-- At most so many elements; a limit of zero is none. -/
def cut (limit : Nat) (l : List α) : List α := if limit = 0 then l else l.take limit

theorem map_cut (limit : Nat) (l : List α) (f : α → β) : (cut limit l).map f = cut limit (l.map f) := by
  unfold cut
  split
  · rfl
  · exact List.map_take

theorem cut_sublist (limit : Nat) (l : List α) : (cut limit l).Sublist l := by
  unfold cut
  split
  · exact .refl l
  · exact List.take_sublist limit l

namespace Table

def readAll : List (String × Option α) → Except StoreError (List α)
  | [] => .ok []
  | (_, none) :: _ => .error .unreadable
  | (_, some a) :: rest => (readAll rest).map (a :: ·)

theorem readAll_ok_iff {rows : List (String × Option α)} {list : List α} :
    readAll rows = .ok list ↔ rows.map Prod.snd = list.map some := by
  induction rows generalizing list with
  | nil => cases list <;> simp [readAll]
  | cons row rows ih =>
    obtain ⟨key,value⟩ := row
    cases value with
    | none => cases list <;> simp [readAll]
    | some a =>
      cases list with
      | nil => cases read : readAll rows <;> simp [readAll,read,Except.map]
      | cons b list =>
        rw [List.map_cons,List.map_cons,List.cons.injEq,Option.some.injEq,← ih]
        cases read : readAll rows <;> simp [readAll,read,Except.map]

theorem readAll_error_iff {rows : List (String × Option α)} {err : StoreError} :
    readAll rows = .error err ↔ err = .unreadable ∧ ∃ row ∈ rows, row.2 = none := by
  induction rows with
  | nil => simp [readAll]
  | cons row rows ih =>
    obtain ⟨key,value⟩ := row
    cases value with
    | none => simp [readAll,eq_comm]
    | some a =>
      simp only [List.exists_mem_cons_iff,reduceCtorEq,false_or,← ih]
      cases read : readAll rows <;> simp [readAll,read,Except.map]

/-- Rows are read up to the first beyond the stem, and as many as are wanted. -/
theorem scanRows_eq_readAll (stem : String) (wanted : Option Nat) (rows : List (String × Option α)) :
    scanRows stem wanted rows =
      readAll (wanted.elim id List.take (rows.takeWhile fun row => begins stem row.1)) := by
  induction rows generalizing wanted with
  | nil => rcases wanted with _ | _ | wanted <;> simp [scanRows,readAll]
  | cons row rows ih =>
    obtain ⟨k,value⟩ := row
    cases starts : begins stem k with
    | false =>
      rw [List.takeWhile_cons_of_neg (by simp [starts])]
      rcases wanted with _ | _ | wanted <;> simp [scanRows.eq_def,starts,readAll]
    | true =>
      rw [List.takeWhile_cons_of_pos (by simp [starts])]
      rcases wanted with _ | _ | wanted <;> cases value <;> simp [scanRows,starts,readAll,ih]

theorem scan_eq_readAll (t : Table α) (stem : String) (limit : Nat) :
    t.scan stem limit = readAll (cut limit (t.rowsUnder stem)) := by
  rw [scan,scanRows_eq_readAll,takeWhile_fromKey,cut]
  split <;> rfl

/-- When all rows under a stem can be read, and stand where their values say, a scan lists them in the
order of their keys. -/
theorem exists_scan {t : Table α} {stem : String} (key : α → String)
    (readable : ∀ (k : String) (row : Option α), t[k]? = some row → begins stem k = true →
      ∃ a, row = some a ∧ key a = k) :
    ∃ list : List α, (list.Pairwise fun a b => compare (key a) (key b) = .lt) ∧
      (∀ a, a ∈ list ↔ begins stem (key a) = true ∧ t[key a]? = some (some a)) ∧
      t.keysUnder stem = list.map key ∧ ∀ limit, t.scan stem limit = .ok (cut limit list) := by
  have rows : t.rowsUnder stem ∈ Set.range (List.map fun a => (key a,some a)) := by
    rw [Set.range_list_map]
    rintro ⟨k,row⟩ member
    obtain ⟨starts,present⟩ := mem_rowsUnder_iff.mp member
    obtain ⟨a,rfl,rfl⟩ := readable k row present starts
    exact ⟨a,rfl⟩
  obtain ⟨list,rows⟩ := rows
  refine ⟨list,?_,?_,?_,?_⟩
  · have sorted := t.rowsUnder_sorted stem
    rw [← rows] at sorted
    exact List.pairwise_map.mp sorted
  · intro a
    rw [← mem_rowsUnder_iff,← rows,List.mem_map]
    constructor
    · intro member; exact ⟨a,member,rfl⟩
    · rintro ⟨b,member,same⟩
      rwa [← Option.some.inj (Prod.mk.inj same).2]
  · rw [keysUnder_eq,← rows,List.map_map]
    rfl
  · intro limit
    rw [scan_eq_readAll,← rows,readAll_ok_iff,map_cut,map_cut,List.map_map]
    rfl

/-- What a scan lists stands under the stem. -/
theorem mem_of_scan {t : Table α} {stem : String} {limit : Nat} {list : List α}
    (done : t.scan stem limit = .ok list) (member : a ∈ list) :
    ∃ k, begins stem k = true ∧ t[k]? = some (some a) := by
  have values := readAll_ok_iff.mp ((t.scan_eq_readAll stem limit).symm.trans done)
  have listed := List.mem_map_of_mem (f := some) member
  rw [← values] at listed
  obtain ⟨⟨k,_⟩,row,rfl⟩ := List.mem_map.mp listed
  exact ⟨k,mem_rowsUnder_iff.mp ((cut_sublist limit _).subset row)⟩

theorem exists_of_begins {target key : String} (starts : begins (Key.stem target) key = true) :
    ∃ field, key = Key.fieldStats target field := by
  obtain ⟨field,same⟩ := begins_iff.mp starts
  refine ⟨String.ofList field,String.toList_inj.mp ?_⟩
  rw [Key.fieldStats,String.toList_append,String.toList_ofList,same]

/-- Tables with the same rows of a target have the same keys of it, and scans of it answer the same. -/
theorem SameOf.rowsUnder {t u : Table α} (same : t.SameOf target u) :
    u.rowsUnder (Key.stem target) = t.rowsUnder (Key.stem target) := by
  have equal : (u.filter fun k _ => begins (Key.stem target) k) = t.filter fun k _ => begins (Key.stem target) k := by
    apply Std.ExtTreeMap.ext_getElem?
    intro k
    rw [Std.ExtTreeMap.getElem?_filter',Std.ExtTreeMap.getElem?_filter']
    cases starts : begins (Key.stem target) k with
    | false => simp
    | true =>
      obtain ⟨field,rfl⟩ := exists_of_begins starts
      rw [same field]
  have lists := congrArg Std.ExtTreeMap.toList equal
  rwa [Std.ExtTreeMap.toList_filter,Std.ExtTreeMap.toList_filter] at lists

theorem SameOf.scan {t u : Table α} (same : t.SameOf target u) (limit : Nat) :
    u.scan (Key.stem target) limit = t.scan (Key.stem target) limit := by
  rw [scan_eq_readAll,scan_eq_readAll,same.rowsUnder]

theorem SameOf.keysUnder {t u : Table α} (same : t.SameOf target u) :
    u.keysUnder (Key.stem target) = t.keysUnder (Key.stem target) := by
  rw [keysUnder_eq,keysUnder_eq,same.rowsUnder]

end Table

namespace Decimal

theorem toNat_of_isDigit {c : Char} (digit : c.isDigit = true) :
    '0'.toNat ≤ c.toNat ∧ c.toNat ≤ '9'.toNat := by
  simpa [Char.isDigit,UInt32.le_iff_toNat_le] using digit

/-- Digits after a smaller number make a smaller one than as many digits after a larger number. -/
theorem ofDigitChars_lt {xs ys : List Char} (digits : ∀ c ∈ xs, c.isDigit = true)
    (same : xs.length = ys.length) (less : i < j) :
    Nat.ofDigitChars 10 xs i < Nat.ofDigitChars 10 ys j := by
  induction xs generalizing ys i j with
  | nil => cases List.eq_nil_of_length_eq_zero same.symm; exact less
  | cons c xs ih =>
    cases ys with
    | nil => cases same
    | cons d ys =>
      have nine := (toNat_of_isDigit (digits c List.mem_cons_self)).2
      have ten : '9'.toNat = '0'.toNat + 9 := rfl
      rw [Nat.ofDigitChars_cons,Nat.ofDigitChars_cons]
      exact ih (fun c member => digits c (List.mem_cons_of_mem _ member)) (Nat.succ.inj same) (by omega)

/-- Numbers of equally many digits are in the order of their digits. -/
theorem ofDigitChars_lt_of_lt {xs ys : List Char} (digits : ∀ c ∈ xs, c.isDigit = true)
    (same : xs.length = ys.length) (less : xs < ys) (n : Nat) :
    Nat.ofDigitChars 10 xs n < Nat.ofDigitChars 10 ys n := by
  induction xs generalizing ys n with
  | nil => cases List.eq_nil_of_length_eq_zero same.symm; exact absurd less (List.lt_irrefl _)
  | cons c xs ih =>
    cases ys with
    | nil => cases same
    | cons d ys =>
      have rest := fun c member => digits c (List.mem_cons_of_mem _ member)
      rw [Nat.ofDigitChars_cons,Nat.ofDigitChars_cons]
      rcases List.cons_lt_cons_iff.mp less with first | ⟨rfl,tail⟩
      · have zero := (toNat_of_isDigit (digits c List.mem_cons_self)).1
        have smaller : c.toNat < d.toNat := UInt32.lt_iff_toNat_lt.mp first
        exact ofDigitChars_lt rest (Nat.succ.inj same) (by omega)
      · exact ih rest (Nat.succ.inj same) tail _

theorem length_padded (fits : n < Nat.pow 10 width) (room : 0 < width) : (padded width n).length = width := by
  have digits := (Nat.length_toDigits_le_iff (b := 10) (by decide) room).mpr fits
  simp only [padded,Decimal.digits,List.length_append,List.length_replicate]
  omega

theorem lt_of_padded_lt (less : padded width n < padded width m) (room : 0 < width)
    (left : n < Nat.pow 10 width) (right : m < Nat.pow 10 width) : n < m := by
  have order := ofDigitChars_lt_of_lt (fun _ => isDigit_of_mem_padded)
    ((length_padded left room).trans (length_padded right room).symm) less 0
  change value (padded width n) < value (padded width m) at order
  rwa [value_padded,value_padded] at order

end Decimal

namespace Key

theorem lt_of_append_lt {as bs cs : List Char} (less : as ++ bs < as ++ cs) : bs < cs := by
  induction as with
  | nil => exact less
  | cons a as ih =>
    rcases List.cons_lt_cons_iff.mp less with first | ⟨_,rest⟩
    · exact absurd first (Char.lt_irrefl a)
    · exact ih rest

theorem compare_of_stem_append {target left right : String}
    (less : compare (stem target ++ left) (stem target ++ right) = .lt) : compare left right = .lt := by
  rw [compare_eq_lt_iff,String.toList_append,String.toList_append] at less
  exact compare_eq_lt_iff.mpr (lt_of_append_lt less)

/-- The statistics of a target are in the order of the bytes of their fields. -/
theorem bytes_lt_of_fieldStats (less : compare (fieldStats target field) (fieldStats target other) = .lt) :
    Text.bytes field < Text.bytes other :=
  Text.bytes_lt_of_compare (compare_of_stem_append less)

/-- The log of a target is in the order of time. -/
theorem lt_of_decision (less : compare (decision target n) (decision target m) = .lt)
    (left : n < Nat.pow 2 64) (right : m < Nat.pow 2 64) : n < m := by
  have digits := compare_eq_lt_iff.mp (compare_of_stem_append less)
  rw [String.toList_ofList,String.toList_ofList] at digits
  have room : Nat.pow 2 64 ≤ Nat.pow 10 20 := by decide
  exact Decimal.lt_of_padded_lt digits (by decide) (Nat.lt_of_lt_of_le left room) (Nat.lt_of_lt_of_le right room)

end Key

namespace Key

/-- A key has the stem of one target only. -/
theorem stem_unique {target other key : String} (plain : Plain target) (separate : Plain other)
    (starts : Table.begins (stem target) key = true) (begun : Table.begins (stem other) key = true) :
    target = other := by
  obtain ⟨field,rfl⟩ := Table.exists_of_begins begun
  exact (begins_stem_iff plain separate).mp starts

theorem fieldStats_inj {target other field name : String} (plain : Plain target) (separate : Plain other)
    (same : fieldStats target field = fieldStats other name) : target = other ∧ field = name := by
  have starts := begins_stem target field
  rw [same] at starts
  obtain rfl := (begins_stem_iff plain separate).mp starts
  exact ⟨rfl,fieldStats_injective same⟩

end Key

namespace Table

theorem SameBeside.sameOf {t u : Table α} {target other : String} (beside : t.SameBeside target u)
    (plain : Key.Plain target) (separate : Key.Plain other) (apart : other ≠ target) :
    t.SameOf other u := by
  intro field
  apply beside
  rw [Bool.eq_false_iff]
  intro starts
  exact apart ((Key.begins_stem_iff plain separate).mp starts).symm

section Keyed

variable (place : String → ι → String) (name : α → String × ι) (fits : ι → Prop)

def Keyed (t : Table α) : Prop :=
  ∀ (k : String) (row : Option α), t[k]? = some row → ∃ target i, Key.Plain target ∧ fits i ∧
    place target i = k ∧ ∀ a, row = some a → name a = (target,i)

variable {place name fits}

theorem keyed_empty : Keyed place name fits ∅ := by
  intro k row found
  simp at found

theorem Keyed.insert {t : Table α} (keyed : t.Keyed place name fits) (plain : Key.Plain target)
    (fitting : fits i) {row : Option α} (named : ∀ a, row = some a → name a = (target,i)) :
    Keyed place name fits (Std.ExtTreeMap.insert t (place target i) row) :=
  forall_insert keyed ⟨target,i,plain,fitting,rfl,named⟩

/-- What a scan lists stands where it says, under the scanned target. -/
theorem Keyed.listed {t : Table α} (keyed : t.Keyed place name fits)
    (stems : ∀ target i, begins (Key.stem target) (place target i) = true) (plain : Key.Plain target)
    (done : t.scan (Key.stem target) limit = .ok list) (member : a ∈ list) :
    (name a).1 = target ∧ fits (name a).2 ∧ t[place target (name a).2]? = some (some a) := by
  obtain ⟨k,starts,found⟩ := mem_of_scan done member
  obtain ⟨own,i,separate,fitting,rfl,named⟩ := keyed k _ found
  obtain rfl := Key.stem_unique plain separate starts (stems own i)
  rw [named a rfl]
  exact ⟨rfl,fitting,found⟩

/-- A scan lists what is known to stand under the target. -/
theorem Keyed.exists_list {t : Table α} (keyed : t.Keyed place name fits)
    (stems : ∀ target i, begins (Key.stem target) (place target i) = true) (plain : Key.Plain target)
    {content : ι → Option α} (rows : ∀ i, t[place target i]? = (content i).map some) :
    ∃ list : List α,
      (list.Pairwise fun a b => compare (place target (name a).2) (place target (name b).2) = .lt) ∧
      (∀ a, a ∈ list ↔ ∃ i, content i = some a) ∧
      (t.keysUnder (Key.stem target)).length = list.length ∧
      ∀ limit, t.scan (Key.stem target) limit = .ok (cut limit list) := by
  have known : ∀ (k : String) (row : Option α), t[k]? = some row → begins (Key.stem target) k = true →
      ∃ i a, place target i = k ∧ row = some a ∧ content i = some a ∧ name a = (target,i) := by
    intro k row found starts
    obtain ⟨own,i,separate,_,rfl,named⟩ := keyed k row found
    obtain rfl := Key.stem_unique plain separate starts (stems own i)
    rw [rows i] at found
    obtain ⟨a,present,rfl⟩ := Option.map_eq_some_iff.mp found
    exact ⟨i,a,rfl,rfl,present,named a rfl⟩
  have readable : ∀ (k : String) (row : Option α), t[k]? = some row →
      begins (Key.stem target) k = true → ∃ a, row = some a ∧ place target (name a).2 = k := by
    intro k row found starts
    obtain ⟨i,a,rfl,rfl,_,named⟩ := known k row found starts
    exact ⟨a,rfl,by rw [named]⟩
  obtain ⟨list,sorted,members,keys,scans⟩ := exists_scan (fun a => place target (name a).2) readable
  refine ⟨list,sorted,?_,by rw [keys,List.length_map],scans⟩
  intro a
  rw [members]
  constructor
  · rintro ⟨starts,found⟩
    obtain ⟨i,b,_,same,present,_⟩ := known _ _ found starts
    cases same
    exact ⟨i,present⟩
  · rintro ⟨i,present⟩
    have found := rows i
    rw [present] at found
    obtain ⟨j,b,place,same,_,named⟩ := known _ _ found (stems target i)
    cases same
    rw [named,place]
    exact ⟨stems target i,found⟩

end Keyed

end Table

end GeoFleet
