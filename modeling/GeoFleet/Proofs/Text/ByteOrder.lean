import GeoFleet.Text.Utf8

/-! The order of texts is the order of their bytes. UTF-8 writes a larger character with larger bytes:
a longer encoding begins with a larger byte, and encodings of one length hold the digits of their
characters in one base, the highest first. So no encoding begins with another one, and a text begins with
another text where its bytes do. -/
namespace GeoFleet.Text

theorem toList_loop (bs : ByteArray) (i : Nat) (read : List UInt8) :
    ByteArray.toList.loop bs i read = read.reverse ++ bs.data.toList.drop i := by
  fun_induction ByteArray.toList.loop bs i read with
  | case1 i read more ih =>
    have inside : i < bs.data.toList.length := by simpa using more
    rw [ih,List.drop_eq_getElem_cons inside]
    simp [ByteArray.get!,more]
  | case2 i read done =>
    rw [List.drop_eq_nil_of_le (by simpa using done)]
    simp

theorem bytes_eq_flatMap (s : String) : bytes s = s.toList.flatMap String.utf8EncodeChar := by
  rw [bytes,String.toUTF8,← String.utf8Encode_toList,ByteArray.toList,toList_loop]
  simp [List.utf8Encode]

theorem byte_cons_lt_iff {m n : Nat} (left : m < 256) (right : n < 256) {rest later : List UInt8} :
    UInt8.ofNat m :: rest < UInt8.ofNat n :: later ↔ m < n ∨ m = n ∧ rest < later := by
  rw [List.cons_lt_cons_iff,UInt8.ofNat_lt_iff_lt left right,← UInt8.toNat_inj,
    UInt8.toNat_ofNat_of_lt' left,UInt8.toNat_ofNat_of_lt' right]

/-- The smaller of two numbers has the smaller digit where they first differ. -/
theorem digits_lt {m n : Nat} (less : m < n) :
    m / 262144 < n / 262144 ∨ m / 262144 = n / 262144 ∧
      (m / 4096 % 64 < n / 4096 % 64 ∨ m / 4096 % 64 = n / 4096 % 64 ∧
        (m / 64 % 64 < n / 64 % 64 ∨ m / 64 % 64 = n / 64 % 64 ∧ m % 64 < n % 64)) := by
  have step : ∀ k l : Nat, k < l → k / 64 < l / 64 ∨ k / 64 = l / 64 ∧ k % 64 < l % 64 := by omega
  have shift : ∀ k : Nat, k / 64 / 64 = k / 4096 ∧ k / 4096 / 64 = k / 262144 := by
    intro k
    exact ⟨Nat.div_div_eq_div_mul k 64 64,Nat.div_div_eq_div_mul k 4096 64⟩
  have second := step (m / 64) (n / 64)
  have third := step (m / 4096) (n / 4096)
  rw [(shift m).1,(shift n).1] at second
  rw [(shift m).2,(shift n).2] at third
  rcases step m n less with higher | ⟨same,last⟩
  · rcases second higher with higher | ⟨same,digit⟩
    · rcases third higher with higher | ⟨same,digit⟩
      · exact .inl higher
      · exact .inr ⟨same,.inl digit⟩
    · refine .inr ⟨?_,.inr ⟨by rw [same],.inl digit⟩⟩
      rw [← (shift m).2,← (shift n).2,same]
  · refine .inr ⟨?_,.inr ⟨?_,.inr ⟨by rw [same],last⟩⟩⟩
    · rw [← (shift m).2,← (shift n).2,← (shift m).1,← (shift n).1,same]
    · rw [← (shift m).1,← (shift n).1,same]

/-- The encoding of a smaller character comes first, whatever follows the two. -/
theorem utf8EncodeChar_append_lt {c d : Char} (less : c < d) (rest later : List UInt8) :
    String.utf8EncodeChar c ++ rest < String.utf8EncodeChar d ++ later := by
  have order : c.val.toNat < d.val.toNat := UInt32.lt_iff_toNat_lt.mp less
  have bound : d.val.toNat < 0x110000 := by
    rcases d.valid with low | ⟨_,high⟩
    · exact Nat.lt_trans low (by decide)
    · exact high
  simp only [String.utf8EncodeChar]
  generalize c.val.toNat = m at order
  generalize d.val.toNat = n at order bound
  have digits := digits_lt order
  have leads : m / 262144 % 8 = m / 262144 ∧ n / 262144 % 8 = n / 262144 := by omega
  -- One case for each pair of lengths; where the first is the longer one, the order is broken.
  repeat' split
  all_goals
    simp (disch := omega) only [List.cons_append,List.nil_append,byte_cons_lt_iff]
    omega

theorem flatMap_utf8EncodeChar_lt {s t : List Char} (less : s < t) :
    s.flatMap String.utf8EncodeChar < t.flatMap String.utf8EncodeChar := by
  induction less with
  | @nil c t =>
    rw [List.flatMap_nil,List.flatMap_cons]
    have first : 0 < (String.utf8EncodeChar c).length := by
      rw [String.length_utf8EncodeChar]; exact c.utf8Size_pos
    obtain ⟨b,rest,same⟩ := List.exists_cons_of_length_pos first
    rw [same]
    exact List.nil_lt_cons b _
  | rel first => exact utf8EncodeChar_append_lt first _ _
  | cons rest ih => exact List.append_left_lt ih

theorem bytes_lt_iff {s t : String} : bytes s < bytes t ↔ s < t := by
  rw [bytes_eq_flatMap,bytes_eq_flatMap,String.lt_iff]
  constructor
  · intro less
    rcases Std.lt_trichotomy s.toList t.toList with before | same | after
    · exact before
    · rw [same] at less
      exact absurd less (List.lt_irrefl _)
    · exact absurd less (List.lt_asymm (flatMap_utf8EncodeChar_lt after))
  · exact flatMap_utf8EncodeChar_lt

theorem bytes_lt_of_compare {s t : String} (less : compare s t = .lt) : bytes s < bytes t :=
  bytes_lt_iff.mpr (compareOfLessAndEq_eq_lt.mp less)

/-- What follows the encoding of a character does not change which character it is. -/
theorem utf8EncodeChar_append_inj {c d : Char} {rest later : List UInt8}
    (same : String.utf8EncodeChar c ++ rest = String.utf8EncodeChar d ++ later) : c = d ∧ rest = later := by
  rcases Std.lt_trichotomy c d with less | rfl | less
  · have before := utf8EncodeChar_append_lt less rest later
    rw [same] at before
    exact absurd before (List.lt_irrefl _)
  · exact ⟨rfl,List.append_cancel_left same⟩
  · have before := utf8EncodeChar_append_lt less later rest
    rw [same] at before
    exact absurd before (List.lt_irrefl _)

theorem flatMap_utf8EncodeChar_prefix_iff {s t : List Char} :
    s.flatMap String.utf8EncodeChar <+: t.flatMap String.utf8EncodeChar ↔ s <+: t := by
  constructor
  · rintro ⟨rest,same⟩
    induction s generalizing t with
    | nil => exact List.nil_prefix
    | cons c s ih =>
      cases t with
      | nil =>
        have nothing := (List.append_eq_nil_iff.mp same).1
        simp [List.flatMap_cons] at nothing
      | cons d t =>
        rw [List.flatMap_cons,List.flatMap_cons,List.append_assoc] at same
        obtain ⟨rfl,tails⟩ := utf8EncodeChar_append_inj same
        exact List.cons_prefix_cons.mpr ⟨rfl,ih tails⟩
  · rintro ⟨rest,rfl⟩
    rw [List.flatMap_append]
    exact List.prefix_append _ _

/-- A text begins with another one exactly when its bytes begin with those of the other. -/
theorem bytes_prefix_iff {s t : String} : bytes s <+: bytes t ↔ s.toList <+: t.toList := by
  rw [bytes_eq_flatMap,bytes_eq_flatMap,flatMap_utf8EncodeChar_prefix_iff]

end GeoFleet.Text
