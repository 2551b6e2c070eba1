import GeoFleet.Proofs.Collections
import GeoFleet.Rule.Firing

/-! What a candidate carries. A rule that fires passes its name and decision on, and every one of its
conditions holds of the values that it matched. The candidate that wins is one of those that fired. -/
namespace GeoFleet

namespace Match

def ReadFrom (m : Match) (s : Snapshot) : Prop :=
  ∀ (key : String) (v : Float), m.values[key]? = some v → s[key]? = some v

theorem add?_ok {s : Snapshot} {m next : Match} (added : add? s m c = some next) :
    ∃ v, c.matched? s = some v ∧ next.values = m.values.insert c.key v := by
  obtain ⟨v,holds,rfl⟩ := Option.map_eq_some_iff.mp added
  exact ⟨v,holds,rfl⟩

theorem add?_readFrom {s : Snapshot} {m next : Match} (valid : m.ReadFrom s)
    (added : add? s m c = some next) : next.ReadFrom s := by
  obtain ⟨sample,holds,values⟩ := add?_ok added
  intro key v found
  rw [values] at found
  rcases getElem?_insert_eq_some found with ⟨rfl,rfl⟩ | ⟨_,present⟩
  · exact (Condition.matched?_eq_some_iff.mp holds).1
  · exact valid key v present

/-- A value that was matched before stays, since a key has one value in the snapshot. -/
theorem add?_keeps {s : Snapshot} {m next : Match} (valid : m.ReadFrom s)
    (added : add? s m c = some next) {key : String} (found : m.values[key]? = some v) :
    next.values[key]? = some v := by
  obtain ⟨sample,holds,values⟩ := add?_ok added
  rw [values]
  by_cases same : c.key = key
  · have read := (Condition.matched?_eq_some_iff.mp holds).1
    rw [same,valid key v found] at read
    rw [same,read,Std.ExtTreeMap.getElem?_insert_self]
  · rw [getElem?_insert_ne same]
    exact found

theorem foldlM_add? {s : Snapshot} {ds : List Condition} {m out : Match} (valid : m.ReadFrom s)
    (done : ds.foldlM (add? s) m = some out) :
    (∀ (key : String) (v : Float), m.values[key]? = some v → out.values[key]? = some v) ∧
      ∀ d ∈ ds, ∃ v, d.matched? out.values = some v := by
  induction ds generalizing m with
  | nil =>
    cases done
    exact ⟨fun _ _ found => found,fun _ member => by cases member⟩
  | cons d ds ih =>
    rw [List.foldlM_cons] at done
    obtain ⟨next,added,rest⟩ := Option.bind_eq_some_iff.mp done
    obtain ⟨kept,later⟩ := ih (add?_readFrom valid added) rest
    refine ⟨fun key v found => kept key v (add?_keeps valid added found),?_⟩
    intro d member
    rcases List.mem_cons.mp member with rfl | tail
    · obtain ⟨v,holds,values⟩ := add?_ok added
      have present : next.values[d.key]? = some v := by simp [values]
      exact ⟨v,Condition.matched?_eq_some_iff.mpr
        ⟨kept _ _ present,(Condition.matched?_eq_some_iff.mp holds).2⟩⟩
    · exact later d tail

end Match

/-- A rule that fires proposes its own decision, and its conditions hold of the matched values. -/
theorem ResolvedRule.fire?_sound {r : ResolvedRule} {s : Snapshot} {c : Candidate}
    (fired : r.fire? target s = some c) :
    c.rule = r.name ∧ c.decision = r.decision ∧
      ∀ d ∈ r.conditions, ∃ v, d.matched? c.values = some v := by
  unfold fire? at fired
  split at fired
  · cases fired
  · obtain ⟨m,matched,rfl⟩ := Option.map_eq_some_iff.mp fired
    have valid : Match.empty.ReadFrom s := by intro key v found; simp [Match.empty] at found
    exact ⟨rfl,rfl,(Match.foldlM_add? valid matched).2⟩

theorem Candidate.least?_mem {cs : List Candidate} {c : Candidate} (least : least? cs = some c) :
    c ∈ cs := by
  cases cs with
  | nil => cases least
  | cons first rest =>
    cases least
    apply foldl_choice_mem
    intro a b
    unfold better
    split
    · exact .inr rfl
    · exact .inl rfl

/-- A verdict other than leaving things alone is that of a rule that fired. -/
theorem arbitrate_winner {cs : List Candidate} (active : (arbitrate cs).decision ≠ .none) :
    ∃ c ∈ cs, (arbitrate cs).winner = some c ∧ (arbitrate cs).decision = c.decision := by
  cases least : Candidate.least? cs with
  | none => simp [arbitrate,least] at active
  | some c => exact ⟨c,Candidate.least?_mem least,by simp [arbitrate,least],by simp [arbitrate,least]⟩

end GeoFleet
