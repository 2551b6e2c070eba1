import GeoFleet.Duration
import GeoFleet.Proofs.Text.Trim
import Mathlib.Data.List.Induction

/-! What is written as a duration. Between blanks stand a plus sign or none, the digits of a count of 64 bits,
and a unit or none, which means seconds. The letters of a unit are no digits, so a text can be taken apart in
one way only; and what is written like this is read back. -/
namespace GeoFleet

namespace Decimal

/-- Digits, the highest first, and the number that they stand for. -/
inductive Denotes : List Char → Nat → Prop where
  | digit (k : Fin 10) : Denotes [Nat.digitChar k] k
  | next (k : Fin 10) : Denotes ds n → Denotes (ds ++ [Nat.digitChar k]) (10 * n + k)

theorem isDigit_iff {c : Char} : isDigit c = true ↔ ∃ k : Fin 10, Nat.digitChar k = c := by
  constructor
  · intro digit
    simp only [isDigit,Bool.and_eq_true,decide_eq_true_eq,Char.le_def,UInt32.le_iff_toNat_le] at digit
    have low : 48 ≤ c.toNat := digit.1
    have high : c.toNat ≤ 57 := digit.2
    refine ⟨⟨c.toNat - 48,by omega⟩,Char.toNat_inj.mp ?_⟩
    rw [Nat.toNat_digitChar_of_lt_ten (by omega)]
    exact Nat.add_sub_cancel' low
  · rintro ⟨k,rfl⟩
    revert k
    decide

theorem digitValue_digitChar (k : Fin 10) : digitValue (Nat.digitChar k) = k := by
  revert k
  decide

theorem natural?_eq_some_iff {ds : List Char} :
    natural? ds = some n ↔ ds ≠ [] ∧ (∀ c ∈ ds, isDigit c = true) ∧ value ds = n := by
  simp [natural?,and_assoc]

/-- Digits stand for one number, which is the one they are read as. -/
theorem denotes_iff {ds : List Char} : Denotes ds n ↔ natural? ds = some n := by
  rw [natural?_eq_some_iff]
  constructor
  · intro denotes
    induction denotes with
    | digit k =>
      refine ⟨by simp,?_,?_⟩
      · simpa using isDigit_iff.mpr ⟨k,rfl⟩
      · simp [value,digitValue_digitChar]
    | @next ds n k _ ih =>
      obtain ⟨_,digits,total⟩ := ih
      refine ⟨by simp,?_,?_⟩
      · intro c member
        rcases List.mem_append.mp member with earlier | last
        · exact digits c earlier
        · rw [List.mem_singleton.mp last]
          exact isDigit_iff.mpr ⟨k,rfl⟩
      · rw [value_append_singleton,digitValue_digitChar,total]
  · rintro ⟨some_digit,digits,total⟩
    subst total
    induction ds using List.reverseRecOn with
    | nil => exact absurd rfl some_digit
    | append_singleton ds c ih =>
      obtain ⟨k,rfl⟩ := isDigit_iff.mp (digits c (by simp))
      rw [value_append_singleton,digitValue_digitChar]
      cases ds with
      | nil => simpa using Denotes.digit k
      | cons first ds => exact .next k (ih (by simp) fun d member => digits d (List.mem_append_left _ member))

theorem Denotes.isDigit {ds : List Char} (denotes : Denotes ds n) : ∀ c ∈ ds, Decimal.isDigit c = true :=
  (natural?_eq_some_iff.mp (denotes_iff.mp denotes)).2.1

/-- The digits of a number end in a digit. -/
theorem Denotes.exists_last {ds : List Char} (denotes : Denotes ds n) :
    ∃ (front : List Char) (k : Fin 10), ds = front ++ [Nat.digitChar k] := by
  cases denotes with
  | digit k => exact ⟨[],k,rfl⟩
  | next k earlier => exact ⟨_,k,rfl⟩

theorem Denotes.unique {ds : List Char} (left : Denotes ds n) (right : Denotes ds m) : n = m :=
  Option.some.inj ((denotes_iff.mp left).symm.trans (denotes_iff.mp right))

theorem denotes_digits (n : Nat) : Denotes (digits n) n := by
  rw [denotes_iff,natural?_eq_some_iff]
  refine ⟨?_,?_,?_⟩
  · exact List.ne_nil_of_length_pos Nat.length_toDigits_pos
  · intro c member
    have digit := Nat.isDigit_of_mem_toDigits (by decide) (by decide) member
    simpa [isDigit,Char.isDigit,Char.le_def] using digit
  · change Nat.ofDigitChars 10 (Nat.toDigits 10 n) 0 = n
    simp

def plus (signed : Bool) : List Char := if signed then ['+'] else []

theorem mem_plus {c : Char} (member : c ∈ plus signed) : c = '+' := by
  cases signed with
  | true => exact List.mem_singleton.mp member
  | false => cases member

theorem Denotes.unsigned {ds : List Char} (denotes : Denotes ds n) : ∀ rest, ds ≠ '+' :: rest := by
  rintro rest rfl
  exact absurd (denotes.isDigit '+' List.mem_cons_self) (by decide)

theorem word?_eq_some_iff {cs : List Char} : word? cs = some n ↔
    ∃ signed ds, cs = plus signed ++ ds ∧ Denotes ds n ∧ n < Nat.pow 2 64 := by
  unfold word?
  rw [Option.filter_eq_some_iff,decide_eq_true_eq]
  constructor
  · rintro ⟨read,fits⟩
    split at read
    · exact ⟨true,_,rfl,denotes_iff.mpr read,fits⟩
    · exact ⟨false,_,rfl,denotes_iff.mpr read,fits⟩
  · rintro ⟨signed,ds,rfl,denotes,fits⟩
    refine ⟨?_,fits⟩
    cases signed with
    | true => exact denotes_iff.mp denotes
    | false =>
      rw [plus,if_neg Bool.false_ne_true,List.nil_append]
      split
      · rename_i rest
        exact absurd rfl (denotes.unsigned rest)
      · exact denotes_iff.mp denotes

theorem plus_append_inj {ds es : List Char} (left : Denotes ds n) (right : Denotes es m)
    (same : plus signed ++ ds = plus other ++ es) : signed = other ∧ ds = es := by
  cases signed <;> cases other
  · exact ⟨rfl,same⟩
  · exact absurd same (left.unsigned es)
  · exact absurd same.symm (right.unsigned ds)
  · exact ⟨rfl,List.cons_inj_right _ |>.mp same⟩

end Decimal

namespace Duration

def symbol : Option Unit → List Char
  | some .millisecond => ['m','s']
  | some .second => ['s']
  | some .minute => ['m']
  | some .hour => ['h']
  | none => []

theorem symbol_injective {unit other : Option Unit} (same : symbol unit = symbol other) : unit = other := by
  rcases unit with _ | _ | _ | _ | _ <;> rcases other with _ | _ | _ | _ | _ <;> cases same <;> rfl

theorem symbol_not_blank (unit : Option Unit) : ∀ c ∈ symbol unit, Text.isBlank c = false := by
  have letters : Text.isBlank 'm' = false ∧ Text.isBlank 's' = false ∧ Text.isBlank 'h' = false := by decide
  rcases unit with _ | _ | _ | _ | _ <;> simp [symbol,letters]

/-- A unit is found behind the digits of a count. -/
theorem splitUnit_append (front : List Char) (k : Fin 10) (unit : Option Unit) :
    splitUnit (front ++ [Nat.digitChar k] ++ symbol unit) = (front ++ [Nat.digitChar k],unit.getD .second) := by
  have letters : Nat.digitChar k ≠ 's' ∧ Nat.digitChar k ≠ 'm' ∧ Nat.digitChar k ≠ 'h' := by
    revert k
    decide
  generalize Nat.digitChar k = c at letters
  rcases unit with _ | _ | _ | _ | _ <;> simp [splitUnit,symbol,letters]

/-- A text is what is left of it without its unit, and the unit. -/
theorem splitUnit_splits (cs : List Char) :
    ∃ unit, cs = (splitUnit cs).1 ++ symbol unit ∧ (splitUnit cs).2 = unit.getD .second := by
  have turn : ∀ {rest : List Char}, cs.reverse = rest → cs = rest.reverse := fun same => by simp [← same]
  unfold splitUnit
  split
  · rename_i rest ends
    exact ⟨some .millisecond,by simpa [symbol] using turn ends,rfl⟩
  · rename_i rest _ ends
    exact ⟨some .second,by simpa [symbol] using turn ends,rfl⟩
  · rename_i rest ends
    exact ⟨some .minute,by simpa [symbol] using turn ends,rfl⟩
  · rename_i rest ends
    exact ⟨some .hour,by simpa [symbol] using turn ends,rfl⟩
  · exact ⟨none,(List.append_nil cs).symm,rfl⟩

/-- What so many of a unit come to. A count without a unit is one of seconds; a minute has 60 of them, and an
hour 3600. Spans have no bound. -/
def span (count : Nat) : Option Unit → Duration
  | some .millisecond => ⟨count⟩
  | some .second | none => ⟨1000 * count⟩
  | some .minute => ⟨1000 * (60 * count)⟩
  | some .hour => ⟨1000 * (3600 * count)⟩

theorem span_eq (count : Nat) (unit : Option Unit) : span count unit = ⟨count * (unit.getD .second).millis⟩ := by
  rcases unit with _ | _ | _ | _ | _ <;> simp [span,Unit.millis] <;> omega

theorem span_eq_zero_iff {count : Nat} {unit : Option Unit} : (span count unit).millis = 0 ↔ count = 0 := by
  rcases unit with _ | _ | _ | _ | _ <;> simp only [span] <;> omega

structure Reading where
  signed : Bool
  digits : List Char
  count : Nat
  unit : Option Unit

namespace Reading

variable {r q : Reading} {s : String}

def word (r : Reading) : String := String.ofList (Decimal.plus r.signed ++ r.digits ++ symbol r.unit)

/-- A text can be read in a way: it has nothing but blanks around the word, whose digits stand for the count. -/
structure Of (r : Reading) (s : String) : Prop where
  spelled : Text.Spells s r.word
  denotes : Decimal.Denotes r.digits r.count

theorem word_not_blank (denotes : Decimal.Denotes r.digits r.count) :
    ∀ c ∈ r.word.toList, Text.isBlank c = false := by
  intro c member
  rw [word,String.toList_ofList,List.append_assoc,List.mem_append,List.mem_append] at member
  rcases member with sign | digit | letter
  · rw [Decimal.mem_plus sign]
    decide
  · obtain ⟨k,rfl⟩ := Decimal.isDigit_iff.mp (denotes.isDigit c digit)
    have inked : ∀ k : Fin 10, Text.isBlank (Nat.digitChar k) = false := by decide
    exact inked k
  · exact symbol_not_blank r.unit c letter

namespace Of

theorem trim (of : r.Of s) : Text.trim s.toList = Decimal.plus r.signed ++ r.digits ++ symbol r.unit := by
  have bare := Text.trim_of_not_blank (word_not_blank of.denotes)
  have words := congrArg String.toList ((Text.spells_iff bare s).mp of.spelled)
  rwa [Text.trimmed,String.toList_ofList,word,String.toList_ofList] at words

theorem splitUnit (of : r.Of s) :
    splitUnit (Text.trim s.toList) = (Decimal.plus r.signed ++ r.digits,r.unit.getD .second) := by
  obtain ⟨front,k,ends⟩ := of.denotes.exists_last
  rw [of.trim,ends,← List.append_assoc]
  exact splitUnit_append _ k r.unit

theorem unique (of : r.Of s) (other : q.Of s) : r = q := by
  have fronts := (Prod.mk.inj (of.splitUnit.symm.trans other.splitUnit)).1
  have units : symbol r.unit = symbol q.unit := by
    have words := of.trim.symm.trans other.trim
    rwa [fronts,List.append_cancel_left_eq] at words
  obtain ⟨signs,digits⟩ := Decimal.plus_append_inj of.denotes other.denotes fronts
  have unit := symbol_injective units
  obtain ⟨signed,ds,n,unit⟩ := r
  obtain ⟨signed',ds',m,unit'⟩ := q
  cases signs; cases digits; cases unit
  cases of.denotes.unique other.denotes
  rfl

end Of

end Reading

theorem parse?_eq_some_iff {s : String} {d : Duration} :
    parse? s = some d ↔ ∃ r : Reading, r.Of s ∧ r.count < Nat.pow 2 64 ∧ span r.count r.unit = d := by
  have read : parse? s = some d ↔ ∃ n, Decimal.word? (splitUnit (Text.trim s.toList)).1 = some n ∧
      ⟨n * (splitUnit (Text.trim s.toList)).2.millis⟩ = d := Option.map_eq_some_iff
  rw [read]
  constructor
  · rintro ⟨n,counted,rfl⟩
    obtain ⟨unit,splits,named⟩ := splitUnit_splits (Text.trim s.toList)
    obtain ⟨signed,ds,front,denotes,fits⟩ := Decimal.word?_eq_some_iff.mp counted
    refine ⟨⟨signed,ds,n,unit⟩,⟨?_,denotes⟩,fits,by rw [span_eq,named]⟩
    obtain ⟨before,after,left,right,whole⟩ := Text.trim_splits s.toList
    refine ⟨before,after,left,right,?_⟩
    rw [Reading.word,String.toList_ofList,← front,← splits]
    exact whole
  · rintro ⟨r,of,fits,rfl⟩
    rw [of.splitUnit,span_eq]
    exact ⟨r.count,Decimal.word?_eq_some_iff.mpr ⟨r.signed,r.digits,rfl,of.denotes,fits⟩,rfl⟩

def written (n : Nat) (unit : Option Unit) : String := String.ofList (Decimal.digits n ++ symbol unit)

theorem written_of (n : Nat) (unit : Option Unit) : Reading.Of ⟨false,Decimal.digits n,n,unit⟩ (written n unit) :=
  ⟨⟨[],[],by simp,by simp,by simp [written,Reading.word,Decimal.plus]⟩,Decimal.denotes_digits n⟩

theorem parse?_written (n : Nat) (unit : Option Unit) :
    parse? (written n unit) = if n < Nat.pow 2 64 then some (span n unit) else none := by
  have printed := written_of n unit
  split
  · rename_i fits
    exact parse?_eq_some_iff.mpr ⟨_,printed,fits,rfl⟩
  · rename_i large
    rw [Option.eq_none_iff_forall_ne_some]
    intro d read
    obtain ⟨r,of,fits,_⟩ := parse?_eq_some_iff.mp read
    rw [of.unique printed] at fits
    exact large fits

/-- A text is read as a duration exactly when it has blanks around a plus sign or none, the digits of a count of
64 bits, and a unit or none, and it is read as so many of the unit. There are no two ways to read a text. An
interval is read from the same texts, less those that count nothing. What is printed for a count and a unit is
read back as so many of the unit. -/
theorem read_in_one_way (s : String) :
    (∀ d, parse? s = some d ↔ ∃ r : Reading, r.Of s ∧ r.count < Nat.pow 2 64 ∧ span r.count r.unit = d) ∧
    (∀ r q : Reading, r.Of s → q.Of s → r = q) ∧
    (∀ d, interval? s = some d ↔
      ∃ r : Reading, r.Of s ∧ r.count < Nat.pow 2 64 ∧ r.count ≠ 0 ∧ span r.count r.unit = d) ∧
    ∀ n unit, parse? (written n unit) = if n < Nat.pow 2 64 then some (span n unit) else none := by
  refine ⟨fun d => parse?_eq_some_iff,fun r q of other => of.unique other,?_,parse?_written⟩
  intro d
  rw [interval?_eq_some_iff,parse?_eq_some_iff]
  constructor
  · rintro ⟨⟨r,of,fits,rfl⟩,something⟩
    exact ⟨r,of,fits,mt span_eq_zero_iff.mpr something,rfl⟩
  · rintro ⟨r,of,fits,something,rfl⟩
    exact ⟨⟨r,of,fits,rfl⟩,mt span_eq_zero_iff.mp something⟩

end Duration

end GeoFleet
