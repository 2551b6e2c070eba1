import GeoFleet.Proofs.Magnitude
import GeoFleet.Proofs.Store.Frames

/-! What the statistics of a field say about its samples, and what is left of a record after it was
written as text and read again. A number is read back in one scaling step and can come back different,
so statistics are those of all samples as long as every sum and every sample comes back as it was. -/
namespace GeoFleet

def Durable (x : Float) : Prop := reread? x = some x

instance (x : Float) : Decidable (Durable x) := inferInstanceAs (Decidable (reread? x = some x))

-- Sums of durable numbers need not be durable.
example : Durable 0.1 ∧ Durable 1.3 ∧ ¬Durable (0.1 + 1.3) := by decide +kernel

theorem Durable.either {x y z : Float} (left : Durable x) (right : Durable y) (choice : z = x ∨ z = y) :
    Durable z := by
  rcases choice with rfl | rfl
  · exact left
  · exact right

structure Sample where
  value : Float
  /-- Milliseconds since the epoch. -/
  time : Nat

namespace Sample

def total (first : Sample) (later : List Sample) : Float := (later.map (·.value)).foldl (· + ·) first.value

def mean (first : Sample) (later : List Sample) : Float :=
  total first later / Float.ofNat (later.length + 1)

def latest (first : Sample) (later : List Sample) : Sample := later.getLastD first

inductive Step (earlier : List Sample) : List Sample → Prop where
  | kept : Step earlier earlier
  | dropped : Step earlier []
  | taken (sample : Sample) : Step earlier (earlier ++ [sample])

end Sample

namespace FieldStats

theorem stored?_eq_self_iff {s : FieldStats} :
    s.stored? = some s ↔ Durable s.min ∧ Durable s.max ∧ Durable s.sum ∧ Durable s.last := by
  constructor
  · intro same
    obtain ⟨_,min,rest⟩ := Option.bind_eq_some_iff.mp same
    obtain ⟨_,max,rest⟩ := Option.bind_eq_some_iff.mp rest
    obtain ⟨_,sum,rest⟩ := Option.bind_eq_some_iff.mp rest
    obtain ⟨_,last,rest⟩ := Option.bind_eq_some_iff.mp rest
    obtain ⟨target,field,m,x,t,l,count,time⟩ := s
    cases rest
    exact ⟨min,max,sum,last⟩
  · rintro ⟨min,max,sum,last⟩
    unfold Durable at min max sum last
    simp [stored?,min,max,sum,last]

def ofSamples? (target field : String) : List Sample → Option FieldStats
  | [] => none
  | first :: later =>
    let values := later.map (·.value)
    some {
      target := target
      field := field
      min := values.foldl Magnitude.lesser first.value
      max := values.foldl Magnitude.greater first.value
      sum := Sample.total first later
      last := (Sample.latest first later).value
      count := later.length + 1
      updatedAt := (Sample.latest first later).time }

def next (target field : String) (earlier : Option FieldStats) (sample : Sample) : FieldStats :=
  match earlier with
  | some stats => stats.fold sample.value sample.time
  | none => .first target field sample.value sample.time

theorem ofSamples?_concat (target field : String) (samples : List Sample) (sample : Sample) :
    ofSamples? target field (samples ++ [sample]) =
      some (next target field (ofSamples? target field samples) sample) := by
  cases samples with
  | nil => rfl
  | cons first later => simp [ofSamples?,next,fold,Sample.total,Sample.latest,List.foldl_append]

theorem ofSamples?_names {target field : String} {samples : List Sample} {s : FieldStats}
    (stats : ofSamples? target field samples = some s) : s.target = target ∧ s.field = field := by
  cases samples with
  | nil => cases stats
  | cons first later => cases stats; exact ⟨rfl,rfl⟩

theorem stored?_names {s back : FieldStats} (stored : s.stored? = some back) :
    back.target = s.target ∧ back.field = s.field := by
  obtain ⟨_,_,rest⟩ := Option.bind_eq_some_iff.mp stored
  obtain ⟨_,_,rest⟩ := Option.bind_eq_some_iff.mp rest
  obtain ⟨_,_,rest⟩ := Option.bind_eq_some_iff.mp rest
  obtain ⟨_,_,rest⟩ := Option.bind_eq_some_iff.mp rest
  cases rest
  exact ⟨rfl,rfl⟩

theorem next_names {target field : String} {earlier : Option FieldStats} (sample : Sample)
    (known : ∀ s, earlier = some s → s.target = target ∧ s.field = field) :
    (next target field earlier sample).target = target ∧ (next target field earlier sample).field = field := by
  cases earlier with
  | none => exact ⟨rfl,rfl⟩
  | some s => exact known s rfl

/-- The sum and the latest sample are read back as they were written. -/
def Lasting (s : FieldStats) : Prop := Durable s.sum ∧ Durable s.last

/-- If the earlier statistics came back as they were, the sum and the sample decide about the next
ones: the least and the greatest are among what was there before. -/
theorem stored?_next_iff {target field : String} {earlier : Option FieldStats} {sample : Sample}
    (known : ∀ s, earlier = some s → s.stored? = some s) :
    (next target field earlier sample).stored? = some (next target field earlier sample) ↔
      (next target field earlier sample).Lasting := by
  rw [stored?_eq_self_iff]
  constructor
  · rintro ⟨_,_,sum,last⟩
    exact ⟨sum,last⟩
  · rintro ⟨sum,last⟩
    cases earlier with
    | none => exact ⟨last,last,last,last⟩
    | some s =>
      obtain ⟨min,max,_,_⟩ := stored?_eq_self_iff.mp (known s rfl)
      exact ⟨min.either last (Magnitude.lesser_choice _ _),max.either last (Magnitude.greater_choice _ _),sum,last⟩

end FieldStats

namespace Store

theorem foldSample_ok {s after : Store} (done : s.foldSample target field value now = .ok (previous,after)) :
    s.fieldStats? target field = .ok previous ∧
      after = { s with fieldStats := s.fieldStats.insert (Key.fieldStats target field)
                        (FieldStats.next target field previous ⟨value,now⟩).stored? } := by
  obtain ⟨known,read,rest⟩ := bind_eq_ok.mp done
  cases rest
  refine ⟨read,?_⟩
  cases previous <;> rfl

/-- The row of a field is what is left of the statistics of its samples after they were written. -/
def Keeps (s : Store) (target field : String) (samples : List Sample) : Prop :=
  s.fieldStats[Key.fieldStats target field]? = (FieldStats.ofSamples? target field samples).map (·.stored?)

/-- Nothing was lost: the statistics come back as they were. -/
structure Recalls (s : Store) (target field : String) (samples : List Sample) : Prop where
  kept : s.Keeps target field samples
  whole : ∀ stats, FieldStats.ofSamples? target field samples = some stats → stats.stored? = some stats

namespace Recalls

variable {s after : Store} {target field : String} {samples : List Sample}

theorem row (recalls : s.Recalls target field samples) :
    s.fieldStats[Key.fieldStats target field]? = (FieldStats.ofSamples? target field samples).map some := by
  rw [recalls.kept]
  cases found : FieldStats.ofSamples? target field samples with
  | none => rfl
  | some stats => rw [Option.map_some,Option.map_some,recalls.whole stats found]

theorem read (recalls : s.Recalls target field samples) :
    s.fieldStats? target field = .ok (FieldStats.ofSamples? target field samples) := by
  rw [fieldStats?,Table.read?,recalls.row]
  cases FieldStats.ofSamples? target field samples <;> rfl

theorem of_row_eq (recalls : s.Recalls target field samples)
    (same : after.fieldStats[Key.fieldStats target field]? = s.fieldStats[Key.fieldStats target field]?) :
    after.Recalls target field samples :=
  ⟨same.trans recalls.kept,recalls.whole⟩

/-- A sample is answered with the statistics of those before it, and joins them. -/
theorem foldSample (recalls : s.Recalls target field samples) (value : Float) (now : Nat) :
    ∃ after, s.foldSample target field value now =
        .ok (FieldStats.ofSamples? target field samples,after) ∧
      after.Keeps target field (samples ++ [⟨value,now⟩]) ∧
      ∀ key, Key.fieldStats target field ≠ key → after.fieldStats[key]? = s.fieldStats[key]? := by
  refine ⟨_,bind_eq_ok.mpr ⟨_,recalls.read,rfl⟩,?_,fun key apart => getElem?_insert_ne apart⟩
  rw [Keeps,FieldStats.ofSamples?_concat,Option.map_some]
  refine Std.ExtTreeMap.getElem?_insert_self.trans ?_
  cases FieldStats.ofSamples? target field samples <;> rfl

/-- One call further, nothing was lost if and only if the sum and the latest sample came back. -/
theorem next_iff {later : List Sample} (recalls : s.Recalls target field samples)
    (step : Sample.Step samples later) (kept : after.Keeps target field later) :
    after.Recalls target field later ↔
      ∀ stats, FieldStats.ofSamples? target field later = some stats → stats.Lasting := by
  have whole_iff : ∀ stats, FieldStats.ofSamples? target field later = some stats →
      (stats.stored? = some stats ↔ stats.Lasting) := by
    intro stats found
    cases step with
    | kept =>
      obtain ⟨_,_,sum,last⟩ := FieldStats.stored?_eq_self_iff.mp (recalls.whole stats found)
      exact iff_of_true (recalls.whole stats found) ⟨sum,last⟩
    | dropped => cases found
    | taken sample =>
      rw [FieldStats.ofSamples?_concat] at found
      cases found
      exact FieldStats.stored?_next_iff recalls.whole
  constructor
  · intro recalls stats found
    exact (whole_iff stats found).mp (recalls.whole stats found)
  · intro lasting
    exact ⟨kept,fun stats found => (whole_iff stats found).mpr (lasting stats found)⟩

end Recalls

/-- Statistics are read as those of all samples only if nothing was lost. -/
theorem Keeps.read_iff {s : Store} {samples : List Sample} (kept : s.Keeps target field samples) :
    s.fieldStats? target field = .ok (FieldStats.ofSamples? target field samples) ↔
      s.Recalls target field samples := by
  constructor
  · intro read
    refine ⟨kept,?_⟩
    intro stats found
    rw [fieldStats?,Table.read?,kept,found,Option.map_some] at read
    cases stored : stats.stored? with
    | none => rw [stored] at read; cases read
    | some back => rw [stored] at read; cases read; rfl
  · exact Recalls.read

end Store

/-- Values that were written and read again stand under their keys, each as it came back. -/
theorem Snapshot.getElem?_reread {values : Snapshot} {back : List (String × Float)}
    (read : (values.toList.mapM fun (key,x) => (reread? x).map (key,·)) = some back) (key : String) :
    (Std.ExtTreeMap.ofList back)[key]? = values[key]?.bind reread? := by
  have related : List.Forall₂ (fun row again => again.1 = row.1 ∧ reread? row.2 = some again.2)
      values.toList back := by
    refine (forall₂_of_mapM_some read).imp ?_
    intro row again same
    obtain ⟨y,value,rfl⟩ := Option.map_eq_some_iff.mp same
    exact ⟨rfl,value⟩
  cases present : values[key]? with
  | none =>
    apply Std.ExtTreeMap.getElem?_ofList_of_contains_eq_false
    rw [List.contains_eq_mem,decide_eq_false_iff_not,List.mem_map]
    rintro ⟨again,member,rfl⟩
    obtain ⟨row,written,same,_⟩ := exists_left_of_forall₂ related member
    rw [same,Std.ExtTreeMap.mem_toList_iff_getElem?_eq_some.mp written] at present
    cases present
  | some x =>
    have written := Std.ExtTreeMap.mem_toList_iff_getElem?_eq_some.mpr present
    obtain ⟨⟨_,y⟩,member,rfl,value⟩ := exists_right_of_forall₂ related written
    rw [Option.bind_some,value]
    refine Std.ExtTreeMap.getElem?_ofList_of_mem Std.ReflCmp.compare_self ?_ member
    refine pairwise_of_forall₂ related Std.ExtTreeMap.distinct_keys_toList ?_
    intro first second left right apart fst snd
    rw [fst.1,snd.1]
    exact apart

namespace DecisionRecord

/-- A record comes back as it was exactly when all its values do. -/
theorem stored?_eq_self_iff {r : DecisionRecord} :
    r.stored? = some r ↔ ∀ (key : String) (x : Float), r.values[key]? = some x → Durable x := by
  constructor
  · intro same key x present
    obtain ⟨back,read,rest⟩ := Option.bind_eq_some_iff.mp same
    have values : Std.ExtTreeMap.ofList back = r.values := congrArg (·.values) (Option.some.inj rest)
    have again := Snapshot.getElem?_reread read key
    rw [values,present] at again
    exact again.symm
  · intro lasting
    obtain ⟨back,read⟩ : ∃ back, (r.values.toList.mapM fun (key,x) => (reread? x).map (key,·)) = some back := by
      apply exists_mapM_some
      rintro ⟨key,x⟩ member
      have durable := lasting key x (Std.ExtTreeMap.mem_toList_iff_getElem?_eq_some.mp member)
      exact ⟨(key,x),congrArg (Option.map (key,·)) durable⟩
    have values : Std.ExtTreeMap.ofList back = r.values := by
      apply Std.ExtTreeMap.ext_getElem?
      intro key
      rw [Snapshot.getElem?_reread read key]
      cases present : r.values[key]? with
      | none => rfl
      | some x => exact lasting key x present
    refine Option.bind_eq_some_iff.mpr ⟨back,read,?_⟩
    rw [values]
    rfl

end DecisionRecord

end GeoFleet
