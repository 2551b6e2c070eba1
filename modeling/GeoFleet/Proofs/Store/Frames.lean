import GeoFleet.Engine.Basic
import GeoFleet.Monitor
import GeoFleet.Proofs.Store.Stems

/-! What the transactions of the store leave alone. Sampling touches the statistics of one target
only, restarting a count touches one activity, and nothing but logging touches the log. -/
namespace GeoFleet

namespace Table

theorem read?_eq_some_iff {t : Table α} {key : String} {a : α} :
    t.read? key = .ok (some a) ↔ t[key]? = some (some a) := by
  unfold read?
  split <;> simp_all

/-- What is read is what stands in the row, if it can be read at all. -/
theorem join_of_read? {t : Table α} {key : String} (read : t.read? key = .ok row) : t[key]?.join = row := by
  unfold read? at read
  split at read
  · rename_i absent; cases read; rw [absent]; rfl
  · cases read
  · rename_i a present; cases read; rw [present]; rfl

def SameBeside (target : String) (t u : Table α) : Prop :=
  ∀ key, begins (Key.stem target) key = false → u[key]? = t[key]?

theorem SameBeside.refl (target : String) (t : Table α) : t.SameBeside target t :=
  fun _ _ => rfl

theorem SameBeside.trans {t u v : Table α} (first : t.SameBeside target u)
    (second : u.SameBeside target v) : t.SameBeside target v :=
  fun key other => (second key other).trans (first key other)

def SameOf (target : String) (t u : Table α) : Prop :=
  ∀ field, u[Key.fieldStats target field]? = t[Key.fieldStats target field]?

end Table

namespace Store

theorem foldSample_frame {s after : Store} (done : s.foldSample target field value now = .ok (previous,after)) :
    ∃ stats, s.fieldStats.SameBeside target stats ∧ after = { s with fieldStats := stats } := by
  obtain ⟨known,_,rest⟩ := bind_eq_ok.mp done
  cases rest
  refine ⟨_,?_,rfl⟩
  intro key other
  apply getElem?_insert_ne
  rintro rfl
  rw [Key.begins_stem] at other
  cases other

/-- Samples taken in, be they all or those before one that failed, change statistics of the target
alone. -/
theorem observeSamples_frame (target : String) (now : Nat) (samples : List (String × Float))
    (extended : Snapshot) (s : Store) :
    ∃ stats, s.fieldStats.SameBeside target stats ∧
      (observeSamples target now samples extended s).2 = { s with fieldStats := stats } := by
  induction samples generalizing extended s with
  | nil => exact ⟨s.fieldStats,.refl _ _,rfl⟩
  | cons sample rest ih =>
    obtain ⟨field,value⟩ := sample
    cases folded : s.foldSample target field value now with
    | error err =>
      refine ⟨s.fieldStats,.refl _ _,?_⟩
      simp [observeSamples,folded]
    | ok pair =>
      obtain ⟨previous,next⟩ := pair
      obtain ⟨stats,beside,rfl⟩ := foldSample_frame folded
      cases previous with
      | none =>
        obtain ⟨later,further,same⟩ := ih extended { s with fieldStats := stats }
        refine ⟨later,beside.trans further,?_⟩
        simp [observeSamples,folded,same]
      | some known =>
        obtain ⟨later,further,same⟩ :=
          ih (addViews extended field value known) { s with fieldStats := stats }
        refine ⟨later,beside.trans further,?_⟩
        simp [observeSamples,folded,same]

theorem observe_frame (s : Store) (target : String) (raw : Snapshot) (now : Nat) :
    ∃ stats, s.fieldStats.SameBeside target stats ∧
      (s.observe target raw now).2 = { s with fieldStats := stats } :=
  observeSamples_frame _ _ _ _ _

/-- What a sample finds, and what it leaves of its target, depends on the rows of the target alone. -/
theorem foldSample_congr {s t : Store} (same : s.fieldStats.SameOf target t.fieldStats) (field : String)
    (value : Float) (now : Nat) :
    (∃ err, s.foldSample target field value now = .error err ∧
      t.foldSample target field value now = .error err) ∨
    ∃ previous after later, s.foldSample target field value now = .ok (previous,after) ∧
      t.foldSample target field value now = .ok (previous,later) ∧
      after.fieldStats.SameOf target later.fieldStats := by
  have read : t.fieldStats.read? (Key.fieldStats target field) =
      s.fieldStats.read? (Key.fieldStats target field) := by
    rw [Table.read?,Table.read?,same field]
  cases found : s.fieldStats.read? (Key.fieldStats target field) with
  | error err =>
    rw [found] at read
    exact .inl ⟨err,by rw [foldSample,found]; rfl,by rw [foldSample,read]; rfl⟩
  | ok previous =>
    rw [found] at read
    refine .inr ⟨previous,_,_,by rw [foldSample,found]; rfl,by rw [foldSample,read]; rfl,?_⟩
    intro other
    by_cases own : Key.fieldStats target field = Key.fieldStats target other
    · simp [own]
    · simpa [getElem?_insert_ne own] using same other

theorem observeSamples_congr {s t : Store} (same : s.fieldStats.SameOf target t.fieldStats) (now : Nat)
    (samples : List (String × Float)) (extended : Snapshot) :
    (observeSamples target now samples extended t).1 = (observeSamples target now samples extended s).1 := by
  induction samples generalizing extended s t with
  | nil => rfl
  | cons sample rest ih =>
    obtain ⟨field,value⟩ := sample
    rcases foldSample_congr same field value now with
      ⟨err,left,right⟩ | ⟨previous,after,later,left,right,kept⟩
    · simp [observeSamples,left,right]
    · cases previous with
      | none => simpa [observeSamples,left,right] using ih kept extended
      | some known => simpa [observeSamples,left,right] using ih kept (addViews extended field value known)

/-- What is observed of a target depends on the statistics of the target alone. -/
theorem observe_congr {s t : Store} (same : s.fieldStats.SameOf target t.fieldStats) (raw : Snapshot)
    (now : Nat) : (t.observe target raw now).1 = (s.observe target raw now).1 :=
  observeSamples_congr same now raw.toList raw

/-- Deleting the statistics of a target takes all of them, and no others. -/
theorem deleteFieldStats_rows (s : Store) (target key : String) :
    (s.deleteFieldStats target).2.fieldStats[key]? =
      if Table.begins (Key.stem target) key = true then none else s.fieldStats[key]? := by
  change (s.fieldStats.eraseKeys (s.fieldStats.keysUnder (Key.stem target)))[key]? = _
  rw [Table.getElem?_eraseKeys]
  by_cases begins : Table.begins (Key.stem target) key = true
  · cases present : s.fieldStats[key]? with
    | none => simp
    | some row => rw [if_pos (Table.mem_keysUnder.mpr ⟨begins,by simp [present]⟩),if_pos begins]
  · rw [if_neg (mt (fun member => (Table.mem_keysUnder.mp member).1) begins),if_neg begins]

theorem deleteFieldStats_row (s : Store) {target other : String} (plain : Key.Plain target)
    (separate : Key.Plain other) (field : String) :
    (s.deleteFieldStats target).2.fieldStats[Key.fieldStats other field]? =
      if target = other then none else s.fieldStats[Key.fieldStats other field]? := by
  simp only [deleteFieldStats_rows,Key.begins_stem_iff plain separate]

@[simp] theorem restartCount_decisions (s : Store) (target : String) (now : Nat) :
    (s.restartCount target now).2.decisions = s.decisions := by
  unfold restartCount
  split <;> rfl

@[simp] theorem restartCount_fieldStats (s : Store) (target : String) (now : Nat) :
    (s.restartCount target now).2.fieldStats = s.fieldStats := by
  unfold restartCount
  split <;> rfl

/-- Records stand under their own targets, so that restarting a count replaces one in its place. -/
theorem restartCount_activities (s : Store) (target : String) (now : Nat)
    (keyed : ∀ a, s.activities[target]? = some a → a.target = target) (id : String) :
    (s.restartCount target now).2.activities[id]? =
      if id = target then s.activities[id]?.map (·.restarted now) else s.activities[id]? := by
  unfold restartCount
  split
  · rename_i absent
    split
    · rename_i same; subst same; simp [absent]
    · rfl
  · rename_i a found
    have own : (a.restarted now).target = target := keyed a found
    by_cases same : id = target
    · subst same; simp [putActivity,own,found]
    · rw [if_neg same,putActivity,own]
      exact getElem?_insert_ne (Ne.symm same)

end Store

@[simp] theorem Engine.forget_activities (s : Store) (id : String) :
    (forget s id).activities = s.activities.erase id := rfl

end GeoFleet
