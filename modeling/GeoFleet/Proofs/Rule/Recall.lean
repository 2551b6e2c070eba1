import GeoFleet.Proofs.Rule.Views
import GeoFleet.Proofs.Store.Samples

/-! Derived views are history. What is observed of a target comes back with the views that the earlier
samples of each field give, and the sample itself joins them afterwards, over any calls on any targets.
This holds as long as sums and samples come back from the store as they were, and no two sampled fields
have a view under one key. -/
namespace GeoFleet

/-- The view of a sample, given the earlier samples of its field, the oldest first. A first sample has
none, and nothing deviates from zero. -/
def ValueMode.recall? (m : ValueMode) (value : Float) : List Sample → Option Float
  | [] => if m = .effective then some value else none
  | first :: later =>
    match m with
    | .effective => some value
    | .average => some (Sample.mean first later)
    | .deviationOnAverage => deviation? value (Sample.mean first later)
    | .deviationOnLast => deviation? value (Sample.latest first later).value

theorem ValueMode.view?_ofSamples (m : ValueMode) (target field : String) (samples : List Sample)
    (value : Float) : m.view? (FieldStats.ofSamples? target field samples) value = m.recall? value samples := by
  cases samples with
  | nil => cases m <;> rfl
  | cons first later => cases m <;> rfl

/-- No two fields of a snapshot have a view under one key. -/
def Snapshot.Separate (raw : Snapshot) : Prop :=
  ∀ f ∈ raw, ∀ g ∈ raw, f ≠ g → ∀ m n : ValueMode, m.key f ≠ n.key g

namespace Store

/-- Samples of distinct fields, all of whose statistics can be read, are taken in, and each joins the
statistics of its own field. -/
theorem observeSamples_recalled {s : Store} {target : String} (past : String → List Sample) (now : Nat)
    {samples : List (String × Float)} (distinct : samples.Pairwise fun a b => a.1 ≠ b.1)
    (recalls : ∀ sample ∈ samples, s.Recalls target sample.1 (past sample.1)) (extended : Snapshot) :
    ∃ out after, observeSamples target now samples extended s = (.ok out,after) ∧
      (∀ sample ∈ samples, after.Keeps target sample.1 (past sample.1 ++ [⟨sample.2,now⟩])) ∧
      ∀ key, (∀ sample ∈ samples, Key.fieldStats target sample.1 ≠ key) →
        after.fieldStats[key]? = s.fieldStats[key]? := by
  induction samples generalizing s extended with
  | nil =>
    refine ⟨extended,s,rfl,?_,fun _ _ => rfl⟩
    intro sample absent
    cases absent
  | cons sample rest ih =>
    obtain ⟨field,value⟩ := sample
    obtain ⟨first,distinct⟩ := List.pairwise_cons.mp distinct
    have apart : ∀ sample ∈ rest, Key.fieldStats target sample.1 ≠ Key.fieldStats target field :=
      fun sample member same => first sample member (Key.fieldStats_injective same).symm
    obtain ⟨next,folded,joined,beside⟩ := (recalls (field,value) List.mem_cons_self).foldSample value now
    have recalls : ∀ sample ∈ rest, next.Recalls target sample.1 (past sample.1) := by
      intro sample member
      exact (recalls sample (List.mem_cons_of_mem _ member)).of_row_eq (beside _ (apart sample member).symm)
    obtain ⟨out,after,observed,sampled,kept⟩ := ih distinct recalls
      (extend extended field value (FieldStats.ofSamples? target field (past field)))
    refine ⟨out,after,?_,?_,?_⟩
    · rw [← observed]
      cases found : FieldStats.ofSamples? target field (past field) with
      | none => rw [found] at folded; simp [observeSamples,folded,extend]
      | some earlier => rw [found] at folded; simp [observeSamples,folded,extend]
    · intro sample member
      rcases List.mem_cons.mp member with rfl | later
      · exact (kept _ apart).trans joined
      · exact sampled sample later
    · intro key others
      rw [kept key fun sample member => others sample (List.mem_cons_of_mem _ member)]
      exact beside key (others (field,value) List.mem_cons_self)

theorem observe_recalled {s : Store} {target : String} (past : String → List Sample)
    (recalls : ∀ field, s.Recalls target field (past field)) (raw : Snapshot) (now : Nat) :
    ∃ out after, s.observe target raw now = (.ok out,after) ∧
      ∀ field, after.Keeps target field (past field ++ (raw[field]?.map (⟨·,now⟩)).toList) := by
  obtain ⟨out,after,observed,sampled,kept⟩ :=
    observeSamples_recalled past now raw.distinct_fields (fun sample _ => recalls sample.1) raw
  refine ⟨out,after,observed,?_⟩
  intro field
  rw [Keeps]
  cases found : raw[field]? with
  | none =>
    rw [kept,(recalls field).kept]
    · simp
    · intro sample member same
      rw [← Key.fieldStats_injective same,Std.ExtTreeMap.mem_toList_iff_getElem?_eq_some.mp member] at found
      cases found
  | some value => exact sampled (field,value) (Std.ExtTreeMap.mem_toList_iff_getElem?_eq_some.mpr found)

end Store

namespace Monitor

inductive Call where
  | observe (target : String) (raw : Snapshot) (now : Nat) (plain : Key.Plain target)
  | forget (target : String) (plain : Key.Plain target)

namespace Call

def perform (c : Call) (s : Store) : Store :=
  match c with
  | .observe target raw now _ => (s.observe target raw now).2
  | .forget target _ => (s.deleteFieldStats target).2

def samples (target field : String) (earlier : List Sample) : Call → List Sample
  | .observe t raw now _ =>
    if t = target then earlier ++ (raw[field]?.map (⟨·,now⟩)).toList else earlier
  | .forget t _ => if t = target then [] else earlier

theorem samples_step (c : Call) (target field : String) (earlier : List Sample) :
    Sample.Step earlier (c.samples target field earlier) := by
  cases c with
  | observe t raw now plain =>
    simp only [samples]
    split
    · cases raw[field]? with
      | none => simpa using .kept
      | some value => exact .taken ⟨value,now⟩
    · exact .kept
  | forget t plain =>
    simp only [samples]
    split
    · exact .dropped
    · exact .kept

end Call

def after (calls : List Call) (s : Store) : Store := calls.foldl (fun s c => c.perform s) s

def samplesOf (target field : String) (calls : List Call) : List Sample :=
  calls.foldl (Call.samples target field) []

theorem after_concat (calls : List Call) (c : Call) (s : Store) :
    after (calls ++ [c]) s = c.perform (after calls s) := by
  simp [after]

theorem samplesOf_concat (calls : List Call) (c : Call) (target field : String) :
    samplesOf target field (calls ++ [c]) = c.samples target field (samplesOf target field calls) := by
  simp [samplesOf]

/-- The sums and the latest samples of all fields come back from the store as they were. -/
def Lasting (calls : List Call) : Prop :=
  ∀ target field stats, Key.Plain target →
    FieldStats.ofSamples? target field (samplesOf target field calls) = some stats → stats.Lasting

def Exact (calls : List Call) : Prop :=
  ∀ target field, Key.Plain target → (after calls .empty).fieldStats? target field =
    .ok (FieldStats.ofSamples? target field (samplesOf target field calls))

def Recorded (calls : List Call) : Prop :=
  ∀ target field, Key.Plain target → (after calls .empty).Recalls target field (samplesOf target field calls)

namespace Recorded

variable {calls : List Call}

/-- One call further, the rows are what is left of the statistics after they were written. -/
theorem keeps (recorded : Recorded calls) (c : Call) (plain : Key.Plain target) (field : String) :
    (after (calls ++ [c]) .empty).Keeps target field (samplesOf target field (calls ++ [c])) := by
  have before := (recorded target field plain).kept
  rw [samplesOf_concat,after_concat]
  cases c with
  | observe t raw now separate =>
    simp only [Call.perform,Call.samples]
    by_cases own : t = target
    · subst own
      obtain ⟨out,after,observed,rows⟩ := Store.observe_recalled (fun field => samplesOf t field calls)
        (fun field => recorded t field plain) raw now
      rw [if_pos rfl,observed]
      exact rows field
    · obtain ⟨stats,beside,frame⟩ := (after calls .empty).observe_frame t raw now
      rw [if_neg own,frame,Store.Keeps,← before]
      apply beside
      rw [Bool.eq_false_iff,ne_eq,Key.begins_stem_iff separate plain]
      exact own
  | forget t separate =>
    simp only [Call.perform,Call.samples,Store.Keeps,Store.deleteFieldStats_row _ separate plain]
    by_cases own : t = target
    · simp [own,FieldStats.ofSamples?]
    · rw [if_neg own,if_neg own,before]

theorem next_iff (recorded : Recorded calls) (c : Call) (plain : Key.Plain target) (field : String) :
    (after (calls ++ [c]) .empty).Recalls target field (samplesOf target field (calls ++ [c])) ↔
      ∀ stats, FieldStats.ofSamples? target field (samplesOf target field (calls ++ [c])) = some stats →
        stats.Lasting := by
  have step := c.samples_step target field (samplesOf target field calls)
  rw [← samplesOf_concat] at step
  exact (recorded target field plain).next_iff step (recorded.keeps c plain field)

theorem concat (recorded : Recorded calls) {c : Call} (lasting : Lasting (calls ++ [c])) :
    Recorded (calls ++ [c]) := by
  intro target field plain
  exact (recorded.next_iff c plain field).mpr fun stats => lasting target field stats plain

/-- Statistics that are those of all samples were read back, so nothing was lost. -/
theorem lasting (recorded : Recorded calls) {c : Call} (exactly : Exact (calls ++ [c])) :
    Lasting (calls ++ [c]) := by
  intro target field stats plain
  have recalls := (recorded.keeps c plain field).read_iff.mp (exactly target field plain)
  exact (recorded.next_iff c plain field).mp recalls stats

theorem exactly (recorded : Recorded calls) : Exact calls :=
  fun target field plain => (recorded target field plain).read

theorem nil : Recorded [] := by
  intro target field plain
  refine ⟨?_,?_⟩
  · simp [Store.Keeps,after,samplesOf,Store.empty,FieldStats.ofSamples?]
  · intro stats found
    cases found

end Recorded

theorem exact_iff (calls : List Call) :
    ((∀ before, before <+: calls → Exact before) ↔ ∀ before, before <+: calls → Lasting before) ∧
      ((∀ before, before <+: calls → Lasting before) → Recorded calls) := by
  have nil : Exact [] ↔ Lasting [] := by
    refine iff_of_true Recorded.nil.exactly ?_
    intro target field stats plain found
    cases found
  refine forall_prefix_iff Recorded.nil nil ?_ calls
  intro calls c recorded
  exact ⟨⟨recorded.lasting,fun lasting => (recorded.concat lasting).exactly⟩,recorded.concat⟩

/-- A view of a sampled field is the one that its earlier samples give. -/
theorem observe_view {s after : Store} {target : String} {past : String → List Sample}
    (recalls : ∀ field, s.Recalls target field (past field)) {raw out : Snapshot} (separate : raw.Separate)
    (observed : s.observe target raw now = (.ok out,after)) (sampled : raw[field]? = some value)
    (m : ValueMode) : out[m.key field]? = m.recall? value (past field) := by
  let c : Condition := ⟨field,field,.equal,value,m⟩
  have present : field ∈ raw := by
    rw [Std.ExtTreeMap.mem_iff_isSome_getElem?,sampled]
    rfl
  have alone : c.Alone raw.keys := by
    intro other member apart n
    exact separate other (Std.ExtTreeMap.mem_keys.mp member) field present apart n m
  have history : s.history? target field = FieldStats.ofSamples? target field (past field) := by
    rw [Store.history?,(recalls field).row]
    cases FieldStats.ofSamples? target field (past field) <;> rfl
  have reads : out[m.key field]? = raw[field]?.bind (m.view? (s.history? target field)) :=
    alone.reads (fun _ member => member) observed
  rw [reads,sampled,history]
  exact m.view?_ofSamples target field (past field) value

/-- What is observed of a target whose statistics are at hand: the views of its fields that their
earlier samples give, and nothing else. -/
theorem observe_views {s : Store} {target : String} (past : String → List Sample)
    (recalls : ∀ field, s.Recalls target field (past field)) {raw : Snapshot} (separate : raw.Separate)
    (now : Nat) :
    ∃ out, (s.observe target raw now).1 = .ok out ∧ ∀ (key : String) (x : Float), out[key]? = some x ↔
      ∃ field value, ∃ m : ValueMode, raw[field]? = some value ∧ m.key field = key ∧
        m.recall? value (past field) = some x := by
  obtain ⟨out,after,observed,_⟩ := Store.observe_recalled past recalls raw now
  have view : ∀ field value, raw[field]? = some value → ∀ m : ValueMode,
      out[m.key field]? = m.recall? value (past field) :=
    fun field value sampled => observe_view recalls separate observed sampled
  refine ⟨out,by rw [observed],?_⟩
  intro key x
  constructor
  · intro found
    by_cases viewed : ∃ field value, ∃ m : ValueMode, raw[field]? = some value ∧ m.key field = key
    · obtain ⟨field,value,m,sampled,rfl⟩ := viewed
      exact ⟨field,value,m,sampled,rfl,(view field value sampled m).symm.trans found⟩
    · -- Without a view under the key, what stands there is a sample, which is a view after all.
      have apart : ∀ sample ∈ raw.toList, ∀ m : ValueMode, m ≠ .effective → m.key sample.1 ≠ key := by
        intro sample member m _ same
        exact viewed ⟨_,_,m,Std.ExtTreeMap.mem_toList_iff_getElem?_eq_some.mp member,same⟩
      rw [Store.observeSamples_other apart observed] at found
      exact absurd ⟨key,x,.effective,found,rfl⟩ viewed
  · rintro ⟨field,value,m,sampled,rfl,recalled⟩
    exact (view field value sampled m).trans recalled

/-- Whatever is observed and forgotten, on whatever targets: the statistics in the store are at every
point those of all samples since the target was last forgotten if and only if all sums and samples came
back as they were. And as long as they did, a snapshot of fields without a view in common comes back
with exactly the views that the earlier samples give; a first sample has none. -/
theorem views_recall_samples (calls : List Call) :
    ((∀ before, before <+: calls → Exact before) ↔ ∀ before, before <+: calls → Lasting before) ∧
    ((∀ before, before <+: calls → Lasting before) →
      ∀ (target : String) (raw : Snapshot) (now : Nat), Key.Plain target → raw.Separate →
        ∃ out, ((after calls .empty).observe target raw now).1 = .ok out ∧
          ∀ (key : String) (x : Float), out[key]? = some x ↔
            ∃ field value, ∃ m : ValueMode, raw[field]? = some value ∧ m.key field = key ∧
              m.recall? value (samplesOf target field calls) = some x) := by
  refine ⟨(exact_iff calls).1,?_⟩
  intro lasting target raw now plain separate
  exact observe_views (fun field => samplesOf target field calls)
    (fun field => (exact_iff calls).2 lasting target field plain) separate now

section Differing

def cpuLoads : List Call := [
  .observe "web-1" ((∅ : Snapshot).insert "cpu" 0.1) 1 (by decide),
  .observe "web-1" ((∅ : Snapshot).insert "cpu" 1.3) 2 (by decide)]

/-- A field whose average goes by the name of the deviation of another field. -/
def namesakes (cpu drift : Float) : Snapshot :=
  ((∅ : Snapshot).insert "cpu" cpu).insert "cpu-deviation-%-on" drift

def namesakeLoads : List Call := [.observe "web-1" (namesakes 2.0 5.0) 1 (by decide)]

/-- The sum of two loads comes back rounded, so that the third does not deviate from their mean although
it does; and where two fields have views under one key, the view of one stands there for both. -/
theorem views_differ_from_history :
    let key := ValueMode.deviationOnAverage.key "cpu"
    (((after cpuLoads .empty).observe "web-1" ((∅ : Snapshot).insert "cpu" 0.7) 3).1.toOption.bind (·[key]?) =
        some 0.0 ∧
      ValueMode.deviationOnAverage.recall? 0.7 (samplesOf "web-1" "cpu" cpuLoads) ≠ some 0.0) ∧
    (∀ f ∈ (namesakes 3.0 7.0).keys, ∀ g ∈ (namesakes 3.0 7.0).keys, ∀ m ∈ ValueMode.all,
      m.isDerived = true → m.key f ≠ g) ∧
    ((after namesakeLoads .empty).observe "web-1" (namesakes 3.0 7.0) 2).1.toOption.bind (·[key]?) = some 5.0 ∧
    ValueMode.deviationOnAverage.recall? 3.0 (samplesOf "web-1" "cpu" namesakeLoads) = some 50.0 := by
  refine ⟨⟨?_,?_⟩,?_,?_,?_⟩
  all_goals decide +kernel

end Differing

end Monitor

end GeoFleet
