import Mathlib.Data.List.DropRight
import GeoFleet.Proofs.Activity.Calls

/-! What the count of a record says of the past. Over any sequence of calls it is the length of the
run that the decisions of its target end in: the history begins anew when the target is dropped, and
starting the count over leaves a single decision to do nothing. -/
namespace GeoFleet.Activity

/-- How many decisions at the end of a history are the given one. -/
def row (d : Decision) (history : List Decision) : Nat := (history.rtakeWhile (· = d)).length

theorem row_concat_self (d : Decision) (history : List Decision) :
    row d (history ++ [d]) = row d history + 1 := by
  simp [row,List.rtakeWhile_concat_pos]

theorem row_concat_other {d e : Decision} (other : e ≠ d) (history : List Decision) :
    row d (history ++ [e]) = 0 := by
  simp [row,other]

def remember (history : List Decision) : Call → List Decision
  | .record _ _ d _ => history ++ [d]
  | .restart _ _ => if history = [] then [] else [.none]
  | .forget _ => []

/-- The decisions of a target that count, the latest last. -/
def history (t : String) (calls : List Call) : List Decision :=
  (calls.filter (·.target = t)).foldl remember []

/-- A record sums up a history: its decision is the last one, and its count the length of the run
that the history ends in. -/
def SumsUp : Option Activity → List Decision → Prop
  | none, history => history = []
  | some a, history =>
    (∃ earlier, history = earlier ++ [a.decision]) ∧ a.count = min (row a.decision history) countLimit

theorem SumsUp.nextCount {record : Option Activity} {history : List Decision}
    (sums : SumsUp record history) (d : Decision) :
    nextCount record d = min (row d (history ++ [d])) countLimit := by
  rw [row_concat_self]
  cases record with
  | none =>
    have fresh : history = [] := sums
    subst fresh
    rfl
  | some a =>
    obtain ⟨⟨earlier,ends⟩,count⟩ := sums
    by_cases same : a.decision = d
    · subst same
      simp only [Activity.nextCount,if_true,count]
      omega
    · have short : row d history = 0 := by rw [ends]; exact row_concat_other same earlier
      simp [Activity.nextCount,same,short,countLimit]

theorem SumsUp.step {record : Option Activity} {history : List Decision} (sums : SumsUp record history)
    (c : Call) : SumsUp (c.leaves record) (remember history c) := by
  cases c with
  | record target kind d now => exact ⟨⟨history,rfl⟩,sums.nextCount d⟩
  | restart target now =>
    cases record with
    | none =>
      have fresh : history = [] := sums
      subst fresh
      rfl
    | some a =>
      obtain ⟨⟨earlier,ends⟩,_⟩ := sums
      have known : history ≠ [] := by rw [ends]; simp
      simp only [remember,if_neg known]
      refine ⟨⟨[],rfl⟩,?_⟩
      change 1 = min (row .none ([] ++ [.none])) countLimit
      rw [row_concat_self]
      decide
  | forget target => rfl

theorem SumsUp.run {record : Option Activity} {past : List Decision} (sums : SumsUp record past)
    (calls : List Call) :
    SumsUp (calls.foldl (fun a c => c.leaves a) record) (calls.foldl remember past) := by
  induction calls generalizing record past with
  | nil => exact sums
  | cons c calls ih => exact ih (sums.step c)

theorem after_sums_up (calls : List Call) (t : String) :
    SumsUp (after calls .empty).activities[t]? (history t calls) := by
  rw [after_activities calls Store.filed_empty]
  have fresh : SumsUp Store.empty.activities[t]? [] := by simp [Store.empty,SumsUp]
  exact fresh.run _

theorem SumsUp.count_pos {a : Activity} {history : List Decision} (sums : SumsUp (some a) history) :
    1 ≤ a.count := by
  obtain ⟨⟨earlier,ends⟩,count⟩ := sums
  have long : 1 ≤ row a.decision history := by rw [ends,row_concat_self]; omega
  have limit : 1 ≤ countLimit := by decide
  omega

theorem SumsUp.none_iff {record : Option Activity} {history : List Decision}
    (sums : SumsUp record history) : record = none ↔ history = [] := by
  cases record with
  | none => exact ⟨fun _ => sums,fun _ => rfl⟩
  | some a =>
    obtain ⟨⟨earlier,ends⟩,_⟩ := sums
    simp [ends]

/-- A decision differs from the one before exactly when the count starts at one. -/
theorem changed_iff {s : Store} {t : String}
    (counted : ∀ a, s.activities[t]? = some a → 1 ≤ a.count) (kind : Kind) (d : Decision) (now : Nat) :
    (s.recordDecision t kind d now).1.changed = true ↔
      (s.recordDecision t kind d now).1.current.count = 1 := by
  change s.activities[t]?.all (fun p => p.decision ≠ d) = true ↔ nextCount s.activities[t]? d = 1
  cases found : s.activities[t]? with
  | none => simp [nextCount]
  | some a =>
    have positive := counted a found
    by_cases same : a.decision = d
    · have more : min (a.count + 1) countLimit ≠ 1 := by
        have limit : 2 ≤ countLimit := by decide
        omega
      simp [nextCount,same,more]
    · simp [nextCount,same]

/-- After any sequence of calls, the record of a target is what its own calls made of it. Recording a
decision counts how many decisions in a row, with this one, were the same, and reports a change exactly
when there is one; starting the count over leaves a single decision to do nothing, and nothing where
there is no record. -/
theorem counts_are_run_lengths (calls : List Call) (t : String) :
    let s := after calls .empty
    s.activities[t]? = (after (calls.filter (·.target = t)) .empty).activities[t]? ∧
    (s.activities[t]? = none ↔ history t calls = []) ∧
    (∀ a, s.activities[t]? = some a → 1 ≤ a.count) ∧
    (∀ (kind : Kind) (d : Decision) (now : Nat),
      let update := (s.recordDecision t kind d now).1
      update.previous = s.activities[t]? ∧
      update.current = ⟨t,kind,d,min (row d (history t calls ++ [d])) countLimit,now⟩ ∧
      (s.recordDecision t kind d now).2.activities[t]? = some update.current ∧
      (update.changed = true ↔ update.current.count = 1)) ∧
    ∀ now : Nat,
      (s.activities[t]? = none → s.restartCount t now = (none,s)) ∧
      ∀ a, s.activities[t]? = some a →
        (s.restartCount t now).1 = some ⟨t,a.kind,.none,1,now⟩ ∧
        (s.restartCount t now).2.activities[t]? = some ⟨t,a.kind,.none,1,now⟩ := by
  intro s
  have filed : s.Filed := after_filed calls Store.filed_empty
  have sums : SumsUp s.activities[t]? (history t calls) := after_sums_up calls t
  have counted : ∀ a, s.activities[t]? = some a → 1 ≤ a.count := by
    intro a found
    rw [found] at sums
    exact sums.count_pos
  refine ⟨?_,sums.none_iff,counted,?_,?_⟩
  · rw [after_activities _ Store.filed_empty,after_activities _ Store.filed_empty,List.filter_filter]
    simp
  · intro kind d now update
    refine ⟨rfl,?_,?_,changed_iff counted kind d now⟩
    · change Activity.mk t kind d (nextCount s.activities[t]? d) now = _
      rw [sums.nextCount]
    · exact Std.ExtTreeMap.getElem?_insert_self
  · intro now
    constructor
    · intro absent
      simp [Store.restartCount,absent]
    · intro a found
      have own : a.target = t := filed t a found
      have fresh : a.restarted now = ⟨t,a.kind,.none,1,now⟩ := by rw [← own]; rfl
      rw [s.restartCount_activities t now (filed t),if_pos rfl,found,← fresh]
      refine ⟨?_,rfl⟩
      simp [Store.restartCount,found]

end GeoFleet.Activity
