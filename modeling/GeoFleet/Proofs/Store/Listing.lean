import GeoFleet.Proofs.Store.Samples
import GeoFleet.Proofs.Store.Scans

/-! What the listings of the store say after any transactions. All targets share a table, and yet a
listing has the records of its own target, all of them, each once and in order, as long as numbers come
back as they were written; and whatever comes back, no transaction on one target shows in what the store
answers about another one. -/
namespace GeoFleet

namespace Store

inductive Entry where
  | sample (target field : String) (value : Float) (now : Nat) (plain : Key.Plain target)
  | drop (target : String) (plain : Key.Plain target)
  | log (r : DecisionRecord) (plain : Key.Plain r.target) (timely : r.epoch < Nat.pow 2 64)

namespace Entry

def target : Entry → String
  | .sample target _ _ _ _ | .drop target _ => target
  | .log r _ _ => r.target

theorem target_plain (e : Entry) : Key.Plain e.target := by
  cases e <;> assumption

/-- A sample that finds a row it cannot read fails, and changes nothing. -/
def perform (e : Entry) (s : Store) : Store :=
  match e with
  | .sample target field value now _ =>
    match s.foldSample target field value now with
    | .ok (_, after) => after
    | .error _ => s
  | .drop target _ => (s.deleteFieldStats target).2
  | .log r _ _ => s.putDecision r

def samples (target field : String) (earlier : List Sample) : Entry → List Sample
  | .sample t f value now _ => if t = target ∧ f = field then earlier ++ [⟨value,now⟩] else earlier
  | .drop t _ => if t = target then [] else earlier
  | .log _ _ _ => earlier

/-- The last record that was logged for a target and a time. -/
def logged (target : String) (epoch : Nat) (earlier : Option DecisionRecord) : Entry → Option DecisionRecord
  | .log r _ _ => if r.target = target ∧ r.epoch = epoch then some r else earlier
  | .sample _ _ _ _ _ | .drop _ _ => earlier

end Entry

def after (entries : List Entry) (s : Store) : Store := entries.foldl (fun s e => e.perform s) s

def samplesOf (target field : String) (entries : List Entry) : List Sample :=
  entries.foldl (Entry.samples target field) []

def lastLogged (target : String) (epoch : Nat) (entries : List Entry) : Option DecisionRecord :=
  entries.foldl (Entry.logged target epoch) none

section Concat

variable (entries : List Entry) (e : Entry)

theorem after_concat (s : Store) : after (entries ++ [e]) s = e.perform (after entries s) := by
  simp [after]

theorem samplesOf_concat (target field : String) :
    samplesOf target field (entries ++ [e]) = e.samples target field (samplesOf target field entries) := by
  simp [samplesOf]

theorem lastLogged_concat (target : String) (epoch : Nat) :
    lastLogged target epoch (entries ++ [e]) = e.logged target epoch (lastLogged target epoch entries) := by
  simp [lastLogged]

end Concat

/-- What a store answers about a target is what the entries on it leave: all its statistics and the last
record of each time, each once and in order, and as many statistics are dropped as there are. -/
structure Listed (entries : List Entry) (s : Store) (target : String) : Prop where
  stats : ∃ list, s.listFieldStats target = .ok list ∧
    (list.Pairwise fun a b => Text.bytes a.field < Text.bytes b.field) ∧
    (∀ r, r ∈ list ↔ ∃ field, FieldStats.ofSamples? target field (samplesOf target field entries) = some r) ∧
    (s.deleteFieldStats target).1 = list.length
  log : ∃ list, (list.Pairwise fun a b => a.epoch < b.epoch) ∧
    (∀ r, r ∈ list ↔ ∃ epoch, lastLogged target epoch entries = some r) ∧
    ∀ limit, s.listDecisionsOf target limit = .ok (cut limit list)

structure Lasting (entries : List Entry) : Prop where
  stats : ∀ target field stats, Key.Plain target →
    FieldStats.ofSamples? target field (samplesOf target field entries) = some stats → stats.Lasting
  log : ∀ target epoch r, Key.Plain target → lastLogged target epoch entries = some r →
    ∀ (key : String) (x : Float), r.values[key]? = some x → Durable x

structure SameAnswers (target : String) (s t : Store) : Prop where
  field : ∀ field, t.fieldStats? target field = s.fieldStats? target field
  stats : t.listFieldStats target = s.listFieldStats target
  dropped : (t.deleteFieldStats target).1 = (s.deleteFieldStats target).1
  log : ∀ limit, t.listDecisionsOf target limit = s.listDecisionsOf target limit

theorem lastLogged_names {target : String} {epoch : Nat} {entries : List Entry} {r : DecisionRecord}
    (last : lastLogged target epoch entries = some r) : r.target = target ∧ r.epoch = epoch := by
  induction entries using List.reverseRecOn with
  | nil => cases last
  | append_singleton entries e ih =>
    rw [lastLogged_concat] at last
    cases e with
    | log other plain timely =>
      simp only [Entry.logged] at last
      split at last
      · rename_i own; cases last; exact own
      · exact ih last
    | sample target field value now plain => exact ih last
    | drop target plain => exact ih last

/-- Statistics and records stand under keys of plain targets, where they say. -/
structure Keyed (s : Store) : Prop where
  stats : s.fieldStats.Keyed Key.fieldStats (fun r => (r.target,r.field)) fun _ => True
  log : s.decisions.Keyed Key.decision (fun r => (r.target,r.epoch)) (· < Nat.pow 2 64)

theorem Keyed.names {s : Store} (keyed : s.Keyed) (plain : Key.Plain target) {r : FieldStats}
    (read : s.fieldStats? target field = .ok (some r)) : r.target = target ∧ r.field = field := by
  have found : s.fieldStats[Key.fieldStats target field]? = some (some r) :=
    Table.read?_eq_some_iff.mp read
  obtain ⟨own,other,separate,_,same,named⟩ := keyed.stats _ _ found
  obtain ⟨rfl,rfl⟩ := Key.fieldStats_inj separate plain same
  exact Prod.mk.inj (named r rfl)

theorem Entry.perform_keyed (e : Entry) {s : Store} (keyed : s.Keyed) : (e.perform s).Keyed := by
  cases e with
  | sample target field value now plain =>
    simp only [perform]
    split
    · rename_i previous after folded
      obtain ⟨read,rfl⟩ := foldSample_ok folded
      refine ⟨keyed.stats.insert plain trivial ?_,keyed.log⟩
      intro back stored
      obtain ⟨own,same⟩ := FieldStats.stored?_names stored
      have known : ∀ r, previous = some r → r.target = target ∧ r.field = field := by
        rintro r rfl
        exact keyed.names plain read
      have names := FieldStats.next_names ⟨value,now⟩ known
      rw [own,same,names.1,names.2]
    · exact keyed
  | drop target plain =>
    refine ⟨?_,keyed.log⟩
    intro k row found
    rw [perform,deleteFieldStats_rows] at found
    split at found
    · cases found
    · exact keyed.stats k row found
  | log r plain timely =>
    refine ⟨keyed.stats,keyed.log.insert plain timely ?_⟩
    intro back stored
    obtain ⟨target,epoch⟩ := DecisionRecord.stored?_target stored
    rw [target,epoch]

theorem after_keyed (entries : List Entry) : (after entries .empty).Keyed := by
  induction entries using List.reverseRecOn with
  | nil => exact ⟨Table.keyed_empty,Table.keyed_empty⟩
  | append_singleton entries e ih => rw [after_concat]; exact e.perform_keyed ih

/-- The log holds what is left of the last record of each time. -/
theorem after_log (entries : List Entry) (plain : Key.Plain target) (epoch : Nat) :
    (after entries .empty).decisions[Key.decision target epoch]? =
      (lastLogged target epoch entries).map (·.stored?) := by
  induction entries using List.reverseRecOn with
  | nil => simp [after,lastLogged,empty]
  | append_singleton entries e ih =>
    rw [after_concat,lastLogged_concat]
    generalize after entries .empty = s at ih
    cases e with
    | sample t field value now separate =>
      refine Eq.trans ?_ ih
      simp only [Entry.perform]
      split
      · rename_i folded
        rw [(foldSample_ok folded).2]
      · rfl
    | drop t separate => exact ih
    | log r separate timely =>
      simp only [Entry.logged]
      by_cases own : r.target = target ∧ r.epoch = epoch
      · obtain ⟨rfl,rfl⟩ := own
        rw [if_pos ⟨rfl,rfl⟩]
        exact Std.ExtTreeMap.getElem?_insert_self
      · rw [if_neg own,← ih]
        exact getElem?_insert_ne (mt Key.decision_injective own)

theorem Entry.samples_step (e : Entry) (target field : String) (earlier : List Sample) :
    Sample.Step earlier (e.samples target field earlier) := by
  cases e with
  | sample t f value now plain =>
    simp only [Entry.samples]
    split
    · exact .taken ⟨value,now⟩
    · exact .kept
  | drop t plain =>
    simp only [Entry.samples]
    split
    · exact .dropped
    · exact .kept
  | log r plain timely => exact .kept

def Recorded (entries : List Entry) : Prop :=
  ∀ target field, Key.Plain target →
    (after entries .empty).Recalls target field (samplesOf target field entries)

namespace Recorded

variable {entries : List Entry}

/-- One entry further, the rows are what is left of the statistics after they were written. -/
theorem keeps (recorded : Recorded entries) (e : Entry) (plain : Key.Plain target) (field : String) :
    (after (entries ++ [e]) .empty).Keeps target field (samplesOf target field (entries ++ [e])) := by
  have before := (recorded target field plain).kept
  rw [Keeps,samplesOf_concat,after_concat]
  cases e with
  | sample t f value now separate =>
    obtain ⟨next,folded,joined,beside⟩ := (recorded t f separate).foldSample value now
    simp only [Entry.perform,folded,Entry.samples]
    by_cases own : t = target ∧ f = field
    · obtain ⟨rfl,rfl⟩ := own
      rw [if_pos ⟨rfl,rfl⟩]
      exact joined
    · rw [if_neg own,← before]
      exact beside _ (mt (Key.fieldStats_inj separate plain) own)
  | drop t separate =>
    simp only [Entry.perform,Entry.samples,deleteFieldStats_row _ separate plain]
    by_cases own : t = target
    · simp [own,FieldStats.ofSamples?]
    · rw [if_neg own,if_neg own,before]
  | log r separate timely => exact before

theorem next_iff (recorded : Recorded entries) (e : Entry) (plain : Key.Plain target) (field : String) :
    (after (entries ++ [e]) .empty).Recalls target field (samplesOf target field (entries ++ [e])) ↔
      ∀ stats, FieldStats.ofSamples? target field (samplesOf target field (entries ++ [e])) = some stats →
        stats.Lasting := by
  have step := e.samples_step target field (samplesOf target field entries)
  rw [← samplesOf_concat] at step
  exact (recorded target field plain).next_iff step (recorded.keeps e plain field)

theorem concat (recorded : Recorded entries) {e : Entry} (lasting : Lasting (entries ++ [e])) :
    Recorded (entries ++ [e]) := by
  intro target field plain
  exact (recorded.next_iff e plain field).mpr fun stats => lasting.stats target field stats plain

theorem listed (recorded : Recorded entries) (lasting : Lasting entries) (plain : Key.Plain target) :
    Listed entries (after entries .empty) target := by
  have keyed := after_keyed entries
  constructor
  · obtain ⟨list,sorted,members,keys,scans⟩ := keyed.stats.exists_list Key.begins_stem plain
      fun field => (recorded target field plain).row
    exact ⟨list,scans 0,sorted.imp Key.bytes_lt_of_fieldStats,members,keys⟩
  · have rows : ∀ epoch, (after entries .empty).decisions[Key.decision target epoch]? =
        (lastLogged target epoch entries).map some := by
      intro epoch
      rw [after_log entries plain epoch]
      cases last : lastLogged target epoch entries with
      | none => rfl
      | some r =>
        have stored := DecisionRecord.stored?_eq_self_iff.mpr (lasting.log target epoch r plain last)
        rw [Option.map_some,Option.map_some,stored]
    obtain ⟨list,sorted,members,_,scans⟩ := keyed.log.exists_list Key.begins_decision plain rows
    have timely : ∀ r ∈ list, r.epoch < Nat.pow 2 64 :=
      fun r member => (keyed.log.listed Key.begins_decision plain (scans 0) member).2.1
    refine ⟨list,sorted.imp_of_mem ?_,members,scans⟩
    intro r later first second before
    exact Key.lt_of_decision before (timely r first) (timely later second)

/-- A listing that has what the entries leave was read back, so nothing was lost. -/
theorem lasting (recorded : Recorded entries) {e : Entry}
    (listed : ∀ target, Key.Plain target → Listed (entries ++ [e]) (after (entries ++ [e]) .empty) target) :
    Lasting (entries ++ [e]) := by
  have keyed := after_keyed (entries ++ [e])
  constructor
  · intro target field stats plain found
    have kept := recorded.keeps e plain field
    refine (recorded.next_iff e plain field).mp ⟨kept,?_⟩ stats found
    intro stats found
    obtain ⟨list,done,_,members,_⟩ := (listed target plain).stats
    have row := (keyed.stats.listed Key.begins_stem plain done ((members stats).mpr ⟨field,found⟩)).2.2
    rw [(FieldStats.ofSamples?_names found).2,kept,found] at row
    exact Option.some.inj row
  · intro target epoch r plain last
    obtain ⟨list,_,members,scans⟩ := (listed target plain).log
    have row :=
      (keyed.log.listed Key.begins_decision plain (scans 0) ((members r).mpr ⟨epoch,last⟩)).2.2
    rw [(lastLogged_names last).2,after_log _ plain epoch,last] at row
    exact DecisionRecord.stored?_eq_self_iff.mp (Option.some.inj row)

theorem nil : Recorded [] := by
  intro target field plain
  refine ⟨?_,?_⟩
  · simp [Keeps,after,samplesOf,empty,FieldStats.ofSamples?]
  · intro stats found
    cases found

end Recorded

theorem lasting_nil : Lasting [] := by
  constructor
  · intro target field stats plain found
    cases found
  · intro target epoch r plain last
    cases last

/-- An entry leaves all rows of other targets. -/
theorem Entry.perform_beside (e : Entry) (s : Store) :
    s.fieldStats.SameBeside e.target (e.perform s).fieldStats ∧
      s.decisions.SameBeside e.target (e.perform s).decisions := by
  cases e with
  | sample target field value now plain =>
    simp only [perform]
    split
    · rename_i previous after folded
      obtain ⟨stats,beside,rfl⟩ := foldSample_frame folded
      exact ⟨beside,.refl _ _⟩
    · exact ⟨.refl _ _,.refl _ _⟩
  | drop target plain =>
    refine ⟨?_,.refl _ _⟩
    intro key other
    rw [perform,deleteFieldStats_rows]
    exact if_neg (Bool.eq_false_iff.mp other)
  | log r plain timely =>
    refine ⟨.refl _ _,?_⟩
    intro key other
    apply getElem?_insert_ne
    rintro rfl
    exact Bool.eq_false_iff.mp other (Key.begins_decision r.target r.epoch)

theorem Entry.perform_answers (e : Entry) (s : Store) {target : String} (plain : Key.Plain target)
    (apart : target ≠ e.target) : SameAnswers target s (e.perform s) := by
  obtain ⟨stats,log⟩ := e.perform_beside s
  have stats := stats.sameOf e.target_plain plain apart
  have log := log.sameOf e.target_plain plain apart
  refine ⟨?_,stats.scan 0,congrArg List.length stats.keysUnder,log.scan⟩
  intro field
  rw [fieldStats?,fieldStats?,Table.read?,Table.read?,stats field]

/-- Whatever is sampled, dropped and logged on whatever targets: the listings of all targets are exactly
what was recorded, at every point, if and only if every number came back as it was written. In any case
a listing has records of its own target only, and no entry on one target shows in what the store
answers about another. -/
theorem listings_exact_iff (entries : List Entry) :
    ((∀ before, before <+: entries → ∀ target, Key.Plain target →
        Listed before (after before .empty) target) ↔
      ∀ before, before <+: entries → Lasting before) ∧
    (∀ target list, Key.Plain target → (after entries .empty).listFieldStats target = .ok list →
      ∀ r ∈ list, r.target = target) ∧
    (∀ target limit list, Key.Plain target → (after entries .empty).listDecisionsOf target limit = .ok list →
      ∀ r ∈ list, r.target = target) ∧
    ∀ (e : Entry) (s : Store) (target : String), Key.Plain target → target ≠ e.target →
      SameAnswers target s (e.perform s) := by
  refine ⟨?_,?_,?_,?_⟩
  · let listed entries := ∀ target, Key.Plain target → Listed entries (after entries .empty) target
    have nil : listed [] ↔ Lasting [] :=
      iff_of_true (fun _ plain => Recorded.nil.listed lasting_nil plain) lasting_nil
    refine (@forall_prefix_iff Entry listed Lasting Recorded .nil nil ?_ entries).1
    intro entries e recorded
    refine ⟨⟨recorded.lasting,?_⟩,recorded.concat⟩
    intro lasting target plain
    exact (recorded.concat lasting).listed lasting plain
  · intro target list plain done r member
    exact ((after_keyed entries).stats.listed Key.begins_stem plain done member).1
  · intro target limit list plain done r member
    exact ((after_keyed entries).log.listed Key.begins_decision plain done member).1
  · intro e s target plain apart
    exact e.perform_answers s plain apart

section Rounded

def twoSamples : List Entry :=
  [.sample "h1" "cpu" 0.1 1 (by decide),.sample "h1" "cpu" 1.3 2 (by decide)]

/-- A stop that was decided at a load that is written as `8.8895642e-316`. -/
def faintStop : DecisionRecord :=
  ⟨"h1",.host,.stop,none,(∅ : Snapshot).insert "cpu" (Float.ofBits 179926783),none,5⟩

def faintLog : List Entry := [.log faintStop (by decide) (by decide)]

/-- The sum of two samples, and a value of a decision, come back as their neighbours. -/
theorem numbers_come_back_different :
    ((after twoSamples .empty).listFieldStats "h1").toOption.map (·.map (·.sum)) = some [1.4] ∧
    (0.1 + 1.3 : Float) ≠ 1.4 ∧ ¬Listed twoSamples (after twoSamples .empty) "h1" ∧
    ((after faintLog .empty).listDecisionsOf "h1" 0).toOption.map (·.map (·.values["cpu"]?)) =
      some [some (Float.ofBits 179926782)] ∧
    ¬Listed faintLog (after faintLog .empty) "h1" := by
  have sums : ((after twoSamples .empty).listFieldStats "h1").toOption.map (·.map (·.sum)) = some [1.4] := by
    decide +kernel
  have rounded : (0.1 + 1.3 : Float) ≠ 1.4 := by decide +kernel
  have values : ((after faintLog .empty).listDecisionsOf "h1" 0).toOption.map (·.map (·.values["cpu"]?)) =
      some [some (Float.ofBits 179926782)] := by
    decide +kernel
  refine ⟨sums,rounded,?_,values,?_⟩
  · intro listed
    obtain ⟨list,done,_,members,_⟩ := listed.stats
    rw [done] at sums
    have sums : list.map (·.sum) = [1.4] := Option.some.inj sums
    have member := List.mem_map_of_mem (f := FieldStats.sum) ((members _).mpr ⟨"cpu",rfl⟩)
    rw [sums,List.mem_singleton] at member
    exact rounded member
  · intro listed
    obtain ⟨list,_,members,scans⟩ := listed.log
    rw [scans 0] at values
    have values : list.map (·.values["cpu"]?) = [some (Float.ofBits 179926782)] := Option.some.inj values
    have member := List.mem_map_of_mem (f := fun r => r.values["cpu"]?)
      ((members faintStop).mpr ⟨5,rfl⟩)
    rw [values,List.mem_singleton] at member
    revert member
    decide +kernel

end Rounded

end Store

end GeoFleet
