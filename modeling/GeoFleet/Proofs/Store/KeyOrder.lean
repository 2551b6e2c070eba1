import GeoFleet.Proofs.Store.Filter
import GeoFleet.Proofs.Store.Listing

/-! Composite keys are in the order of what they are made of. A separator comes before all other characters, so
a target that is the beginning of another one comes first with all its keys; behind the separator the bytes of a
field, or the twenty digits of a time, decide. So the whole log is listed by target, and by time for each. -/
namespace GeoFleet

/-- Where a least character ends two texts that do not have it, what comes behind it decides between equal
texts only. -/
theorem append_cons_lt_iff {c : Char} {as bs ps qs : List Char} (left : ∀ a ∈ as, c < a)
    (right : ∀ b ∈ bs, c < b) : as ++ c :: ps < bs ++ c :: qs ↔ as < bs ∨ as = bs ∧ ps < qs := by
  induction as generalizing bs with
  | nil =>
    cases bs with
    | nil => simp
    | cons b bs =>
      have less := right b List.mem_cons_self
      simp [List.cons_lt_cons_iff,less]
  | cons a as ih =>
    have above := left a List.mem_cons_self
    cases bs with
    | nil =>
      have other : ¬a < c := Char.lt_asymm above
      have apart : a ≠ c := fun same => other (same ▸ above)
      simp [List.cons_lt_cons_iff,other,apart]
    | cons b bs =>
      have rest := ih (fun d member => left d (List.mem_cons_of_mem _ member))
        (fun d member => right d (List.mem_cons_of_mem _ member))
      simp only [List.cons_append,List.cons_lt_cons_iff,rest,List.cons.injEq]
      tauto

namespace Decimal

theorem padded_lt_iff (room : 0 < width) (left : n < Nat.pow 10 width) (right : m < Nat.pow 10 width) :
    padded width n < padded width m ↔ n < m := by
  constructor
  · intro less
    exact lt_of_padded_lt less room left right
  · intro less
    rcases Std.lt_trichotomy (padded width n) (padded width m) with before | same | after
    · exact before
    · exact absurd (padded_injective same) (Nat.ne_of_lt less)
    · exact absurd (lt_of_padded_lt after room right left) (Nat.lt_asymm less)

end Decimal

namespace Key

variable {t u : String}

theorem Plain.above (plain : Plain t) : ∀ c ∈ t.toList, '\x00' < c := by
  intro c member
  have apart : c ≠ '\x00' := by
    rintro rfl
    exact plain member
  have some_value : c.toNat ≠ 0 := fun zero => apart (Char.toNat_inj.mp zero)
  exact UInt32.lt_iff_toNat_lt.mpr (Nat.pos_of_ne_zero some_value)

theorem stem_append_lt_iff (plain : Plain t) (separate : Plain u) (p q : String) :
    stem t ++ p < stem u ++ q ↔ t < u ∨ t = u ∧ p < q := by
  have split : ∀ t p : String, (stem t ++ p).toList = t.toList ++ '\x00' :: p.toList := by
    simp [stem,separator]
  rw [String.lt_iff,split,split,append_cons_lt_iff plain.above separate.above,String.toList_inj,← String.lt_iff,
    ← String.lt_iff]

theorem bytes_fieldStats_lt_iff (plain : Plain t) (separate : Plain u) (f g : String) :
    Text.bytes (fieldStats t f) < Text.bytes (fieldStats u g) ↔
      Text.bytes t < Text.bytes u ∨ t = u ∧ Text.bytes f < Text.bytes g := by
  simp only [Text.bytes_lt_iff]
  exact stem_append_lt_iff plain separate f g

theorem bytes_decision_lt_iff (plain : Plain t) (separate : Plain u) (left : n < Nat.pow 2 64)
    (right : m < Nat.pow 2 64) : Text.bytes (decision t n) < Text.bytes (decision u m) ↔
      Text.bytes t < Text.bytes u ∨ t = u ∧ n < m := by
  have room : Nat.pow 2 64 ≤ Nat.pow 10 20 := by decide
  have times : String.ofList (Decimal.padded 20 n) < String.ofList (Decimal.padded 20 m) ↔ n < m := by
    rw [String.lt_iff,String.toList_ofList,String.toList_ofList]
    exact Decimal.padded_lt_iff (by decide) (Nat.lt_of_lt_of_le left room) (Nat.lt_of_lt_of_le right room)
  simp only [Text.bytes_lt_iff]
  rw [decision,decision,stem_append_lt_iff plain separate,times]

end Key

namespace Store

variable {entries : List Entry} {target : String} {epoch : Nat} {r : DecisionRecord}

theorem lastLogged_plain (last : lastLogged target epoch entries = some r) :
    Key.Plain target ∧ epoch < Nat.pow 2 64 := by
  induction entries using List.reverseRecOn with
  | nil => cases last
  | append_singleton entries e ih =>
    rw [lastLogged_concat] at last
    cases e with
    | log other plain timely =>
      simp only [Entry.logged] at last
      split at last
      · rename_i own
        obtain ⟨rfl,rfl⟩ := own
        exact ⟨plain,timely⟩
      · exact ih last
    | sample target field value now plain => exact ih last
    | drop target plain => exact ih last

/-- The rows of the log are what is left of the last record of each target and time. -/
theorem log_row_iff {key : String} {row : Option DecisionRecord} :
    (after entries .empty).decisions[key]? = some row ↔
      ∃ target epoch r, lastLogged target epoch entries = some r ∧ Key.decision target epoch = key ∧
        r.stored? = row := by
  constructor
  · intro found
    obtain ⟨target,epoch,plain,_,rfl,_⟩ := (after_keyed entries).log key row found
    rw [after_log entries plain epoch] at found
    obtain ⟨r,last,stored⟩ := Option.map_eq_some_iff.mp found
    exact ⟨target,epoch,r,last,rfl,stored⟩
  · rintro ⟨target,epoch,r,last,rfl,rfl⟩
    rw [after_log entries (lastLogged_plain last).1 epoch,last]
    rfl

/-- A record that is read back from the log stands where it says. -/
theorem key_of_stored? {a : DecisionRecord} (last : lastLogged target epoch entries = some r)
    (stored : r.stored? = some a) : a.target = target ∧ a.epoch = epoch := by
  obtain ⟨own,time⟩ := lastLogged_names last
  obtain ⟨same,moment⟩ := DecisionRecord.stored?_target stored
  exact ⟨same.trans own,moment.trans time⟩

/-- If the last records of all targets and times can be read back, they are listed by target and time. -/
theorem exists_listDecisions (readable : ∀ target epoch r, lastLogged target epoch entries = some r →
    ∃ a, r.stored? = some a) :
    ∃ list, (after entries .empty).listDecisions = .ok list ∧
      (list.Pairwise fun a b => Text.bytes a.target < Text.bytes b.target ∨ a.target = b.target ∧ a.epoch < b.epoch) ∧
      ∀ a, a ∈ list ↔ ∃ target epoch r, lastLogged target epoch entries = some r ∧ r.stored? = some a := by
  have rows : ∀ (k : String) (row : Option DecisionRecord), (after entries .empty).decisions[k]? = some row →
      Table.begins "" k = true → ∃ a, row = some a ∧ a.key = k := by
    intro k row found _
    obtain ⟨target,epoch,r,last,rfl,rfl⟩ := log_row_iff.mp found
    obtain ⟨a,stored⟩ := readable target epoch r last
    obtain ⟨rfl,rfl⟩ := key_of_stored? last stored
    exact ⟨a,stored,rfl⟩
  obtain ⟨list,sorted,members,_,scans⟩ := Table.exists_scan DecisionRecord.key rows
  have listed : ∀ a, a ∈ list ↔
      ∃ target epoch r, lastLogged target epoch entries = some r ∧ r.stored? = some a := by
    intro a
    simp only [members,Table.begins_empty,true_and,log_row_iff]
    constructor
    · rintro ⟨target,epoch,r,last,_,stored⟩
      exact ⟨target,epoch,r,last,stored⟩
    · rintro ⟨target,epoch,r,last,stored⟩
      obtain ⟨rfl,rfl⟩ := key_of_stored? last stored
      exact ⟨_,_,r,last,rfl,stored⟩
  refine ⟨list,scans 0,?_,listed⟩
  have named : ∀ a ∈ list, Key.Plain a.target ∧ a.epoch < Nat.pow 2 64 := by
    intro a member
    obtain ⟨target,epoch,r,last,stored⟩ := (listed a).mp member
    obtain ⟨rfl,rfl⟩ := key_of_stored? last stored
    exact lastLogged_plain last
  refine sorted.imp_of_mem ?_
  intro a b first second less
  obtain ⟨plain,left⟩ := named a first
  obtain ⟨separate,right⟩ := named b second
  exact (Key.bytes_decision_lt_iff plain separate left right).mp (Text.bytes_lt_of_compare less)

/-- The whole log is listed only if every last record can be read back. -/
theorem readable_of_listDecisions {list : List DecisionRecord}
    (done : (after entries .empty).listDecisions = .ok list) (last : lastLogged target epoch entries = some r) :
    ∃ a, r.stored? = some a := by
  have values := Table.readAll_ok_iff.mp ((Table.scan_eq_readAll _ _ _).symm.trans done)
  have row := Table.mem_rowsUnder_iff.mpr
    ⟨Table.begins_empty _,log_row_iff.mpr ⟨target,epoch,r,last,rfl,rfl⟩⟩
  have read : r.stored? ∈ list.map some := values ▸ List.mem_map_of_mem row
  obtain ⟨a,_,same⟩ := List.mem_map.mp read
  exact ⟨a,same.symm⟩

end Store

/-- The keys of plain targets, in the order of bytes, are in the order of the pairs that they are made of: first by
the bytes of the target, then by the time as a number, or by the bytes of the field; and equal keys are made of
equal pairs. So whatever was sampled, dropped and logged, the log of all targets comes by target, and for each the
oldest first: it has what is left of the last record of each target and time. It can be listed if and only if all
of these can be read back. -/
theorem Key.order_embedded {t u : String} (plain : Plain t) (separate : Plain u) :
    (∀ n m, n < Nat.pow 2 64 → m < Nat.pow 2 64 →
      (Text.bytes (decision t n) < Text.bytes (decision u m) ↔ Text.bytes t < Text.bytes u ∨ t = u ∧ n < m) ∧
      (decision t n = decision u m ↔ t = u ∧ n = m)) ∧
    (∀ f g, (Text.bytes (fieldStats t f) < Text.bytes (fieldStats u g) ↔
        Text.bytes t < Text.bytes u ∨ t = u ∧ Text.bytes f < Text.bytes g) ∧
      (fieldStats t f = fieldStats u g ↔ t = u ∧ f = g)) ∧
    ∀ entries : List Store.Entry,
      ((∃ list, (Store.after entries .empty).listDecisions = .ok list) ↔
        ∀ target epoch r, Store.lastLogged target epoch entries = some r → ∃ a, r.stored? = some a) ∧
      ∀ list, (Store.after entries .empty).listDecisions = .ok list →
        (list.Pairwise fun a b =>
          Text.bytes a.target < Text.bytes b.target ∨ a.target = b.target ∧ a.epoch < b.epoch) ∧
        ∀ a, a ∈ list ↔ ∃ target epoch r, Store.lastLogged target epoch entries = some r ∧ r.stored? = some a := by
  refine ⟨?_,?_,?_⟩
  · intro n m left right
    refine ⟨bytes_decision_lt_iff plain separate left right,decision_injective,?_⟩
    rintro ⟨rfl,rfl⟩
    rfl
  · intro f g
    refine ⟨bytes_fieldStats_lt_iff plain separate f g,fieldStats_inj plain separate,?_⟩
    rintro ⟨rfl,rfl⟩
    rfl
  · intro entries
    refine ⟨⟨?_,?_⟩,?_⟩
    · rintro ⟨list,done⟩ target epoch r last
      exact Store.readable_of_listDecisions done last
    · intro readable
      obtain ⟨list,done,_⟩ := Store.exists_listDecisions readable
      exact ⟨list,done⟩
    · intro list done
      obtain ⟨same,listed,sorted,members⟩ :=
        Store.exists_listDecisions fun _ _ _ last => Store.readable_of_listDecisions done last
      obtain rfl := Except.ok.inj (done.symm.trans listed)
      exact ⟨sorted,members⟩

/-- A target, and another one that begins with it, in a log that was written in neither order. -/
def Store.webLog : List Store.Entry :=
  [.log ⟨"web-1",.container,.stop,none,∅,none,10⟩ (by decide) (by decide),
   .log ⟨"web",.container,.start,none,∅,none,10⟩ (by decide) (by decide),
   .log ⟨"web",.container,.replicate,none,∅,none,9⟩ (by decide) (by decide)]

theorem Key.order_embedded_web : Plain "web" ∧ Plain "web-1" ∧
    Text.bytes (decision "web" 10) < Text.bytes (decision "web-1" 9) ∧
    Text.bytes (fieldStats "web" "mem") < Text.bytes (fieldStats "web-1" "cpu") ∧
    ∃ list, (Store.after Store.webLog .empty).listDecisions = .ok list ∧
      list.map (fun a => (a.target,a.epoch)) = [("web",9),("web",10),("web-1",10)] ∧
      list.Pairwise fun a b =>
        Text.bytes a.target < Text.bytes b.target ∨ a.target = b.target ∧ a.epoch < b.epoch := by
  have plain : Plain "web" := by decide
  have separate : Plain "web-1" := by decide
  have before : Text.bytes "web" < Text.bytes "web-1" := by decide +kernel
  obtain ⟨times,fields,logs⟩ := Key.order_embedded plain separate
  have names : ((Store.after Store.webLog .empty).listDecisions).toOption.map
      (·.map fun a => (a.target,a.epoch)) = some [("web",9),("web",10),("web-1",10)] := by
    decide +kernel
  cases done : (Store.after Store.webLog .empty).listDecisions with
  | error err => rw [done] at names; cases names
  | ok list =>
    rw [done] at names
    exact ⟨plain,separate,(times 10 9 (by decide) (by decide)).1.mpr (.inl before),
      (fields "mem" "cpu").1.mpr (.inl before),list,rfl,Option.some.inj names,((logs _).2 list done).1⟩

end GeoFleet
