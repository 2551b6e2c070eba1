import GeoFleet.Proofs.Store.Frames
import GeoFleet.Tracker

/-! Calls that count decisions, start the count over or drop it, one after another. What they leave of
one target is what its own calls make of its record, in turn; calls on other targets do not matter. -/
namespace GeoFleet

def Store.Filed (s : Store) : Prop :=
  ∀ (t : String) (a : Activity), s.activities[t]? = some a → a.target = t

theorem Store.filed_empty : Store.empty.Filed := by
  intro t a found
  simp [empty] at found

namespace Activity

inductive Call where
  | record (target : String) (kind : Kind) (d : Decision) (now : Nat)
  | restart (target : String) (now : Nat)
  | forget (target : String)

deriving instance DecidableEq for Update

inductive Answer where
  | recorded (u : Update)
  | restarted (a : Option Activity)
  | forgotten (existed : Bool)
  deriving DecidableEq

namespace Call

def target : Call → String
  | .record target _ _ _ | .restart target _ | .forget target => target

def isForget : Call → Bool
  | .forget _ => true
  | .record _ _ _ _ | .restart _ _ => false

/-- A call with nothing else going on meanwhile. -/
def perform (c : Call) (s : Store) : Answer × Store :=
  match c with
  | .record target kind d now =>
    let (u, after) := s.recordDecision target kind d now
    (.recorded u, after)
  | .restart target now =>
    let (a, after) := s.restartCount target now
    (.restarted a, after)
  | .forget target =>
    let (existed, after) := s.deleteActivity target
    (.forgotten existed, after)

def leaves : Call → Option Activity → Option Activity
  | .record target kind d now, before => some ⟨target, kind, d, nextCount before d, now⟩
  | .restart _ now, before => before.map (·.restarted now)
  | .forget _, _ => none

theorem perform_activities (c : Call) {s : Store} (filed : s.Filed) (t : String) :
    (c.perform s).2.activities[t]? =
      if t = c.target then c.leaves s.activities[t]? else s.activities[t]? := by
  cases c with
  | record target kind d now =>
    change (s.activities.insert target _)[t]? = _
    by_cases own : t = target
    · subst own; simp [target,leaves]
    · exact (getElem?_insert_ne (Ne.symm own)).trans (if_neg own).symm
  | restart target now => exact s.restartCount_activities target now (filed target) t
  | forget target =>
    change (s.activities.erase target)[t]? = _
    by_cases own : t = target
    · subst own; simp [target,leaves]
    · exact (getElem?_erase_ne (Ne.symm own)).trans (if_neg own).symm

theorem perform_filed (c : Call) {s : Store} (filed : s.Filed) : (c.perform s).2.Filed := by
  intro t a found
  rw [c.perform_activities filed] at found
  split at found
  · rename_i own
    subst own
    cases c with
    | record target kind d now => cases found; rfl
    | restart target now =>
      obtain ⟨before,present,rfl⟩ := Option.map_eq_some_iff.mp found
      exact filed _ before present
    | forget target => cases found
  · exact filed t a found

end Call

def after (calls : List Call) (s : Store) : Store := calls.foldl (fun s c => (c.perform s).2) s

theorem after_filed (calls : List Call) {s : Store} (filed : s.Filed) : (after calls s).Filed := by
  induction calls generalizing s with
  | nil => exact filed
  | cons c calls ih => exact ih (c.perform_filed filed)

/-- The record of a target is what its own calls make of it. -/
theorem after_activities (calls : List Call) {s : Store} (filed : s.Filed) (t : String) :
    (after calls s).activities[t]? =
      (calls.filter (·.target = t)).foldl (fun a c => c.leaves a) s.activities[t]? := by
  induction calls generalizing s with
  | nil => rfl
  | cons c calls ih =>
    have step := ih (c.perform_filed filed)
    rw [c.perform_activities filed] at step
    by_cases own : c.target = t
    · rw [List.filter_cons_of_pos (by simpa using own)]
      rw [if_pos own.symm] at step
      exact step
    · rw [List.filter_cons_of_neg (by simpa using own)]
      rw [if_neg (Ne.symm own)] at step
      exact step

end Activity

end GeoFleet
