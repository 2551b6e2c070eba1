import GeoFleet.Proofs.Store.Samples

/-! Whose records a store keeps. Activities stand under their own targets; a row of statistics stands
under the key of the target that its first sample was taken of, and whoever else takes samples into that
row, it stays the row of that target. -/
namespace GeoFleet

namespace Store

/-- What a store keeps between passes is kept of owners alone. The log is kept of all targets. -/
structure KeptOf (s : Store) (owner : String → Prop) : Prop where
  activities : ∀ (id : String) (a : Activity), s.activities[id]? = some a → a.target = id ∧ owner id
  statistics : ∀ (key : String) (row : Option FieldStats), s.fieldStats[key]? = some row →
    ∃ target field, key = Key.fieldStats target field ∧ owner target ∧
      ∀ stats, row = some stats → stats.target = target ∧ stats.field = field

variable {owner : String → Prop} {s : Store}

theorem keptOf_empty (owner : String → Prop) : empty.KeptOf owner := by
  constructor
  · intro id a found; simp [empty] at found
  · intro key row found; simp [empty] at found

theorem KeptOf.mono (kept : s.KeptOf owner) (wider : ∀ id, owner id → other id) : s.KeptOf other := by
  constructor
  · intro id a found
    exact ⟨(kept.activities id a found).1,wider id (kept.activities id a found).2⟩
  · intro key row found
    obtain ⟨target,field,same,owned,named⟩ := kept.statistics key row found
    exact ⟨target,field,same,wider target owned,named⟩

theorem KeptOf.putActivity (kept : s.KeptOf owner) (a : Activity) (owned : owner a.target) :
    (s.putActivity a).KeptOf owner :=
  ⟨forall_insert kept.activities ⟨rfl,owned⟩,kept.statistics⟩

theorem KeptOf.recordDecision (kept : s.KeptOf owner) (owned : owner target) (kind : Kind) (d : Decision)
    (now : Nat) : (s.recordDecision target kind d now).2.KeptOf owner :=
  kept.putActivity _ owned

theorem KeptOf.restartCount (kept : s.KeptOf owner) (target : String) (now : Nat) :
    (s.restartCount target now).2.KeptOf owner := by
  unfold Store.restartCount
  split
  · exact kept
  · rename_i a found
    obtain ⟨own,owned⟩ := kept.activities target a found
    exact kept.putActivity (a.restarted now) (own ▸ owned)

/-- A sample joins the row that stands under its key, or begins one. -/
theorem KeptOf.foldSample (kept : s.KeptOf owner) (owned : owner target)
    (done : s.foldSample target field value now = .ok (previous,after)) : after.KeptOf owner := by
  obtain ⟨known,read,rest⟩ := bind_eq_ok.mp done
  cases rest
  refine ⟨kept.activities,forall_insert kept.statistics ?_⟩
  cases previous with
  | none =>
    refine ⟨target,field,rfl,owned,?_⟩
    intro stats stored
    exact FieldStats.stored?_names stored
  | some old =>
    -- The row keeps the names that it began with, also when it stands under a key of this target.
    obtain ⟨first,name,same,owned,named⟩ := kept.statistics _ _ (Table.read?_eq_some_iff.mp read)
    refine ⟨first,name,same,owned,?_⟩
    intro stats stored
    obtain ⟨sameTarget,sameField⟩ := FieldStats.stored?_names stored
    obtain ⟨oldTarget,oldField⟩ := named old rfl
    exact ⟨sameTarget.trans oldTarget,sameField.trans oldField⟩

theorem KeptOf.observeSamples (owned : owner target) (now : Nat) (samples : List (String × Float))
    (extended : Snapshot) (kept : s.KeptOf owner) :
    (observeSamples target now samples extended s).2.KeptOf owner := by
  induction samples generalizing extended s with
  | nil => exact kept
  | cons sample rest ih =>
    obtain ⟨field,value⟩ := sample
    cases folded : s.foldSample target field value now with
    | error err => simpa [Store.observeSamples,folded] using kept
    | ok pair =>
      obtain ⟨previous,next⟩ := pair
      have later := kept.foldSample owned folded
      cases previous with
      | none => simpa [Store.observeSamples,folded] using ih extended later
      | some known => simpa [Store.observeSamples,folded] using ih (addViews extended field value known) later

theorem KeptOf.observe (kept : s.KeptOf owner) (owned : owner target) (raw : Snapshot) (now : Nat) :
    (s.observe target raw now).2.KeptOf owner :=
  KeptOf.observeSamples owned now raw.toList raw kept

/-- A target that leaves owns nothing any more, whatever characters its id is made of. -/
theorem KeptOf.forget (kept : s.KeptOf owner) (id : String) :
    (Engine.forget s id).KeptOf fun other => owner other ∧ other ≠ id := by
  constructor
  · intro other a found
    rw [Engine.forget_activities] at found
    obtain ⟨apart,before⟩ := getElem?_erase_eq_some found
    obtain ⟨own,owned⟩ := kept.activities other a before
    exact ⟨own,owned,Ne.symm apart⟩
  · intro key row found
    have found : (if Table.begins (Key.stem id) key = true then none else s.fieldStats[key]?) = some row :=
      (deleteFieldStats_rows _ id key).symm.trans found
    split at found
    · cases found
    · rename_i other
      obtain ⟨target,field,rfl,owned,named⟩ := kept.statistics key row found
      refine ⟨target,field,rfl,⟨owned,?_⟩,named⟩
      rintro rfl
      exact other (Key.begins_stem target field)

/-- Where no name contains a separator, nothing stands under the keys of a target that owns nothing. -/
theorem KeptOf.nothing (kept : s.KeptOf owner) {id : String} (plain : Key.Plain id)
    (separate : ∀ other, owner other → other ≠ id ∧ Key.Plain other) :
    s.activities[id]? = none ∧ ∀ field, s.fieldStats[Key.fieldStats id field]? = none := by
  constructor
  · refine Option.eq_none_iff_forall_ne_some.mpr fun a found => ?_
    exact (separate id (kept.activities id a found).2).1 rfl
  · intro field
    refine Option.eq_none_iff_forall_ne_some.mpr fun row found => ?_
    obtain ⟨target,other,same,owned,_⟩ := kept.statistics _ row found
    obtain ⟨apart,plainTarget⟩ := separate target owned
    have begins := Key.begins_stem id field
    rw [same] at begins
    exact apart ((Key.begins_stem_iff plain plainTarget).mp begins).symm

end Store

end GeoFleet
