import GeoFleet.Rule.Condition
import Mathlib.Data.List.TakeWhile

/-! Trimming reads a word out of a text exactly when blanks are all that surrounds it there. Operators
and value modes are written by such words, so each text stands for one of them at most. -/
namespace GeoFleet

namespace Text

/-- A text spells a word that has only blanks before and after it. -/
def Spells (text word : String) : Prop :=
  ∃ before after : List Char, (∀ c ∈ before, isBlank c = true) ∧ (∀ c ∈ after, isBlank c = true) ∧
    text.toList = before ++ word.toList ++ after

def trimmed (text : String) : String := String.ofList (trim text.toList)

theorem trimEnd_append_blank {after : List Char} (blank : ∀ c ∈ after, isBlank c = true) (cs : List Char) :
    trimEnd (cs ++ after) = trimEnd cs := by
  have reversed : ∀ c ∈ after.reverse, isBlank c = true := fun c member => blank c (List.mem_reverse.mp member)
  rw [trimEnd,List.reverse_append,List.dropWhile_append_of_pos reversed,trimEnd]

/-- Blanks around a text make no difference to what trimming leaves. -/
theorem trim_surrounded {before after : List Char} (left : ∀ c ∈ before, isBlank c = true)
    (right : ∀ c ∈ after, isBlank c = true) (cs : List Char) : trim (before ++ cs ++ after) = trim cs := by
  have start : trimStart (before ++ cs ++ after) = trimStart (cs ++ after) := by
    rw [List.append_assoc,trimStart,List.dropWhile_append_of_pos left,trimStart]
  rw [trim,start,trimStart,List.dropWhile_append]
  split
  · rename_i blank
    have nothing : trimStart cs = [] := List.isEmpty_iff.mp blank
    rw [trim,nothing,List.dropWhile_eq_nil_iff.mpr right]
  · rw [trimEnd_append_blank right]
    rfl

theorem trim_splits (cs : List Char) : ∃ before after : List Char, (∀ c ∈ before, isBlank c = true) ∧
    (∀ c ∈ after, isBlank c = true) ∧ cs = before ++ trim cs ++ after := by
  refine ⟨cs.takeWhile isBlank,((trimStart cs).reverse.takeWhile isBlank).reverse,?_,?_,?_⟩
  · intro c member
    exact List.mem_takeWhile_imp member
  · intro c member
    exact List.mem_takeWhile_imp (List.mem_reverse.mp member)
  · rw [List.append_assoc,trim,trimEnd,← List.reverse_append,List.takeWhile_append_dropWhile,
      List.reverse_reverse,trimStart,List.takeWhile_append_dropWhile]

theorem trim_of_not_blank {cs : List Char} (bare : ∀ c ∈ cs, isBlank c = false) : trim cs = cs := by
  have kept : ∀ ds : List Char, (∀ c ∈ ds, isBlank c = false) → ds.dropWhile isBlank = ds := by
    intro ds bare
    cases ds with
    | nil => rfl
    | cons d ds => exact List.dropWhile_cons_of_neg (by simp [bare d List.mem_cons_self])
  have reversed : ∀ c ∈ cs.reverse, isBlank c = false := fun c member => bare c (List.mem_reverse.mp member)
  rw [trim,trimStart,kept cs bare,trimEnd,kept _ reversed,List.reverse_reverse]

/-- A text spells a word without blanks at its ends exactly when trimming leaves the word. -/
theorem spells_iff {word : String} (bare : trim word.toList = word.toList) (text : String) :
    Spells text word ↔ trimmed text = word := by
  rw [trimmed,← String.toList_inj,String.toList_ofList]
  constructor
  · rintro ⟨before,after,left,right,same⟩
    rw [same,trim_surrounded left right,bare]
  · intro same
    obtain ⟨before,after,left,right,split⟩ := trim_splits text.toList
    exact ⟨before,after,left,right,by rw [← same]; exact split⟩

/-- Looking for the one whose word a text spells finds it, if there is one. -/
theorem find?_spelled (all : List α) (word : α → String) (complete : ∀ a, a ∈ all)
    (bare : ∀ a, trim (word a).toList = (word a).toList) (apart : ∀ a b, word a = word b → a = b)
    (text : String) :
    (∃ a, all.find? (word · = trimmed text) = some a ∧ ∀ b, Spells text (word b) ↔ b = a) ∨
    (all.find? (word · = trimmed text) = none ∧ ∀ b, ¬Spells text (word b)) := by
  cases found : all.find? (word · = trimmed text) with
  | some a =>
    have named : word a = trimmed text := by simpa using List.find?_some found
    refine .inl ⟨a,rfl,?_⟩
    intro b
    rw [spells_iff (bare b),← named]
    exact ⟨fun same => (apart a b same).symm,fun same => same ▸ rfl⟩
  | none =>
    refine .inr ⟨rfl,?_⟩
    intro b spelled
    have unnamed : word b ≠ trimmed text := by simpa using List.find?_eq_none.mp found b (complete b)
    exact unnamed ((spells_iff (bare b) text).mp spelled).symm

end Text

namespace Operator

theorem parse_cases (text : String) :
    (∃ op, parse text = .ok op ∧ ∀ other : Operator, Text.Spells text other.symbol ↔ other = op) ∨
    (parse text = .error (.unknownOperator (Text.trimmed text)) ∧
      ∀ op : Operator, ¬Text.Spells text op.symbol) := by
  have lookup := Text.find?_spelled all symbol (fun op => by cases op <;> decide)
    (fun op => by cases op <;> decide) (fun a b => by cases a <;> cases b <;> decide) text
  rcases lookup with ⟨op,found,spelled⟩ | ⟨missing,unspelled⟩
  · refine .inl ⟨op,?_,spelled⟩
    unfold Text.trimmed at found
    simp only [parse,found]
  · refine .inr ⟨?_,unspelled⟩
    unfold Text.trimmed at missing
    simp only [parse,missing,Text.trimmed]

end Operator

namespace ValueMode

theorem parse_cases (text : String) :
    (∃ mode, parse text = .ok mode ∧ ∀ other : ValueMode, Text.Spells text other.name ↔ other = mode) ∨
    (parse text = .error (.unknownValueMode (Text.trimmed text)) ∧
      ∀ mode : ValueMode, ¬Text.Spells text mode.name) := by
  have lookup := Text.find?_spelled all name (fun mode => by cases mode <;> decide)
    (fun mode => by cases mode <;> decide) (fun a b => by cases a <;> cases b <;> decide) text
  rcases lookup with ⟨mode,found,spelled⟩ | ⟨missing,unspelled⟩
  · refine .inl ⟨mode,?_,spelled⟩
    unfold Text.trimmed at found
    simp only [parse,found]
  · refine .inr ⟨?_,unspelled⟩
    unfold Text.trimmed at missing
    simp only [parse,missing,Text.trimmed]

end ValueMode

end GeoFleet
