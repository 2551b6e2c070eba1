import Mathlib.Data.List.Permutation
import GeoFleet.Proofs.Activity.Tracker

/-! When calls on activities are serialized. Calls on one target keep out of each other's way as long
as they share its lock, and then their answers are those of some order of the calls, one at a time.
A forget that throws the lock away while a call still waits for it lets a later call in beside that
one; for this it takes a forget with two other calls on its target, and no less. -/
namespace GeoFleet.Tracker

open Activity (Call Answer)

/-- No two calls on one target are between their load and their write. -/
def Exclusive (calls : Nat → Call) (p : Tracker) : Prop :=
  ∀ i j, i ≠ j → (calls i).target = (calls j).target →
    ¬((p.stage i).isInside = true ∧ (p.stage j).isInside = true)

/-- No forget has two other calls beside it on its target. -/
def Uncrowded (calls : Nat → Call) : Prop :=
  ∀ f i j, i ≠ f → j ≠ f → i ≠ j → (calls f).isForget = true → (calls i).target = (calls f).target →
    (calls j).target ≠ (calls f).target

def Dropped (calls : Nat → Call) (p : Tracker) (target : String) : Prop :=
  ∃ f, (calls f).isForget = true ∧ (calls f).target = target ∧ (p.stage f).isReturned = true

/-- Whoever is past a lock has it, and whoever has a handle shares the lock of its target with all that
come later, unless a forget threw that lock away. -/
structure Locked (calls : Nat → Call) (p : Tracker) : Prop where
  held : ∀ k h, (p.stage k).held? = some h → p.holder h = some k
  shared : ∀ k h, (p.stage k).handle? = some h →
    p.locks[(calls k).target]? = some h ∨ Dropped calls p (calls k).target

theorem handle_of_held {stage : Stage} (held : stage.held? = some h) : stage.handle? = some h := by
  cases stage <;> first | exact held | cases held

theorem held_of_inside {stage : Stage} (inside : stage.isInside = true) : ∃ h, stage.held? = some h := by
  cases stage <;> first | exact ⟨_,rfl⟩ | cases inside

theorem Dropped.enter {p q : Tracker} {target : String} (dropped : Dropped calls p target)
    (same : q.stage = p.stage) (running : (p.stage k).isReturned = false) (stage : Stage) :
    Dropped calls (q.enter k stage) target := by
  obtain ⟨f,forget,own,returned⟩ := dropped
  refine ⟨f,forget,own,?_⟩
  have apart : f ≠ k := by
    rintro rfl
    rw [running] at returned
    cases returned
  rw [enter_other _ _ _ apart,same]
  exact returned

/-- A step that leaves the map alone keeps the locks in order if the call has the lock that its new
stage asks for, and takes none from another. -/
theorem Locked.enter {p q : Tracker} (locked : Locked calls p) (stages : q.stage = p.stage)
    (locks : q.locks = p.locks) (running : (p.stage k).isReturned = false) {stage : Stage}
    (own : ∀ h, stage.held? = some h → q.holder h = some k)
    (others : ∀ other h, other ≠ k → p.holder h = some other → q.holder h = some other)
    (handle : ∀ h, stage.handle? = some h → (p.stage k).handle? = some h) :
    Locked calls (q.enter k stage) := by
  constructor
  · intro other h held
    by_cases same : other = k
    · subst same
      rw [enter_same] at held
      exact own h held
    · rw [enter_other _ _ _ same,stages] at held
      exact others other h same (locked.held other h held)
  · intro other h handled
    have before : (p.stage other).handle? = some h := by
      by_cases same : other = k
      · subst same
        rw [enter_same] at handled
        exact handle h handled
      · rwa [enter_other _ _ _ same,stages] at handled
    rw [enter_locks,locks]
    exact (locked.shared other h before).imp_right fun dropped => dropped.enter stages running stage

/-- A new handle is shared from the start; nobody had one for its target, or had lost the lock. -/
theorem Locked.reserve {p : Tracker} (locked : Locked calls p) (reached : p.stage k = .called) :
    Locked calls ((p.reserve (calls k).target).enter k (.waiting (p.handleOf (calls k).target))) := by
  have running : (p.stage k).isReturned = false := by rw [reached]; rfl
  constructor
  · intro other h held
    by_cases same : other = k
    · subst same
      rw [enter_same] at held
      cases held
    · rw [enter_other _ _ _ same,reserve_stage] at held
      rw [enter_holder,reserve_holder]
      exact locked.held other h held
  · intro other h handled
    rw [enter_locks,reserve_locks]
    by_cases same : other = k
    · subst same
      rw [enter_same] at handled
      cases handled
      exact .inl (if_pos rfl)
    · rw [enter_other _ _ _ same,reserve_stage] at handled
      rcases locked.shared other h handled with present | dropped
      · left
        split
        · rename_i equal
          rw [equal] at present
          rw [handleOf,present]
          rfl
        · exact present
      · exact .inr (dropped.enter (p.reserve_stage _) running _)

/-- A forget that throws a lock away has returned then, which all that still have its handle can tell. -/
theorem Locked.dismiss {p : Tracker} (locked : Locked calls p) (reached : p.stage k = .released answer) :
    Locked calls ((p.dismiss (calls k)).enter k (.returned answer)) := by
  have running : (p.stage k).isReturned = false := by rw [reached]; rfl
  constructor
  · intro other h held
    by_cases same : other = k
    · subst same
      rw [enter_same] at held
      cases held
    · rw [enter_other _ _ _ same,dismiss_stage] at held
      rw [enter_holder,dismiss_holder]
      exact locked.held other h held
  · intro other h handled
    by_cases same : other = k
    · subst same
      rw [enter_same] at handled
      cases handled
    · rw [enter_other _ _ _ same,dismiss_stage] at handled
      rw [enter_locks,dismiss_locks]
      by_cases throws : (calls k).isForget = true ∧ (calls other).target = (calls k).target
      · refine .inr ⟨k,throws.1,throws.2.symm,?_⟩
        rw [enter_same]
        rfl
      · rw [if_neg throws]
        exact (locked.shared other h handled).imp_right
          fun dropped => dropped.enter (p.dismiss_stage _) running _

theorem advance_locked {p : Tracker} (locked : Locked calls p) (k : Nat) :
    Locked calls (advance calls k p) := by
  cases reached : p.stage k with
  | called => simpa [advance,reached] using locked.reserve reached
  | waiting h =>
    cases holder : p.holder h with
    | some other => simpa [advance,reached,holder] using locked
    | none =>
      simp only [advance,reached,holder]
      refine locked.enter (p.withHolder_stage h _) rfl (by rw [reached]; rfl) ?_ ?_ ?_
      · intro own held; cases held; exact withHolder_same _ _ _
      · intro other lock apart taken
        have different : lock ≠ h := by rintro rfl; rw [holder] at taken; cases taken
        rwa [withHolder_other _ _ _ different]
      · intro own handled; rw [reached]; exact handled
  | entered h =>
    simp only [advance,reached]
    have mine := locked.held k h (by rw [reached]; rfl)
    refine locked.enter rfl rfl (by rw [reached]; rfl) ?_ (fun _ _ _ taken => taken) ?_
    · intro own held; cases held; exact mine
    · intro own handled; rw [reached]; exact handled
  | loaded h record =>
    simp only [advance,reached]
    have mine := locked.held k h (by rw [reached]; rfl)
    refine locked.enter (p.withStore_stage ((calls k).conclude record p.store).2) rfl (by rw [reached]; rfl) ?_ (fun _ _ _ taken => taken) ?_
    · intro own held; cases held; exact mine
    · intro own handled; rw [reached]; exact handled
  | written h answer =>
    simp only [advance,reached]
    have mine := locked.held k h (by rw [reached]; rfl)
    refine locked.enter (p.withHolder_stage h _) rfl (by rw [reached]; rfl) ?_ ?_ ?_
    · intro own held; cases held
    · intro other lock apart taken
      have different : lock ≠ h := by
        rintro rfl
        rw [mine] at taken
        exact apart (Option.some.inj taken).symm
      rwa [withHolder_other _ _ _ different]
    · intro own handled; cases handled
  | released answer => simpa [advance,reached] using locked.dismiss reached
  | returned answer => simpa [advance,reached] using locked

theorem start_locked (calls : Nat → Call) (s : Store) : Locked calls (start s) := by
  constructor <;> intro k h absent <;> cases absent

theorem execute_locked {p : Tracker} (locked : Locked calls p) (steps : List Nat) :
    Locked calls (execute calls steps p) := by
  induction steps generalizing p with
  | nil => exact locked
  | cons k steps ih => exact ih (advance_locked locked k)

/-- Two calls that are inside on one target have different locks, so a forget has returned, and is
neither of the two. -/
theorem Locked.exclusive {p : Tracker} (locked : Locked calls p) (uncrowded : Uncrowded calls) :
    Exclusive calls p := by
  rintro i j apart target ⟨first,second⟩
  obtain ⟨g,left⟩ := held_of_inside first
  obtain ⟨h,right⟩ := held_of_inside second
  have outside : ∀ f k, (p.stage f).isReturned = true → (p.stage k).isInside = true → k ≠ f := by
    rintro f k returned inside rfl
    cases stage : p.stage k <;> simp [stage,Stage.isReturned,Stage.isInside] at returned inside
  have never : ∀ t, t = (calls i).target → ¬Dropped calls p t := by
    rintro t rfl ⟨f,forget,own,returned⟩
    exact uncrowded f i j (outside f i returned first) (outside f j returned second) apart forget own.symm
      (target.symm.trans own.symm)
  have mine := (locked.shared i g (handle_of_held left)).resolve_right (never _ rfl)
  have theirs := (locked.shared j h (handle_of_held right)).resolve_right (never _ target.symm)
  rw [target] at mine
  obtain rfl : g = h := Option.some.inj (mine.symm.trans theirs)
  exact apart (Option.some.inj ((locked.held i g left).symm.trans (locked.held j g right)))

/-- After a forget has come and gone, a call that took its handle before waits for a lock that the map
has no longer. -/
theorem outdated_handle {calls : Nat → Call} (apart : i ≠ f) (forget : (calls f).isForget = true)
    (target : (calls i).target = (calls f).target) (s : Store) :
    let p := execute calls (i :: List.replicate 6 f) (start s)
    p.stage i = .waiting 0 ∧ p.handleOf (calls f).target = 1 ∧ (∀ h, p.holder h = none) ∧
      ∀ k, k ≠ i → k ≠ f → p.stage k = .called := by
  intro p
  let early := ((start s).reserve (calls f).target).enter i (.waiting 0)
  have taken : advance calls i (start s) = early := by
    have taken := advance_called (k := i) calls (p := start s) rfl
    rwa [target] at taken
  have known : early.locks[(calls f).target]? = some 0 := by
    rw [enter_locks,reserve_locks,if_pos rfl]
    rfl
  have free : ∀ h, early.holder h = none := by
    intro h
    rw [enter_holder,reserve_holder]
    rfl
  have called : ∀ k, k ≠ i → early.stage k = .called := by
    intro k other
    rw [enter_other _ _ _ other,reserve_stage]
    rfl
  have gone : p = ((early.withStore ((calls f).perform early.store).2).dismiss (calls f)).enter f
      (.returned ((calls f).perform early.store).1) := by
    have alone := execute_alone calls (called f apart.symm) (free _)
    rw [reserve_known known] at alone
    rw [← alone,← taken,← execute_cons]
  rw [gone]
  refine ⟨?_,?_,?_,?_⟩
  · rw [enter_other _ _ _ apart,dismiss_stage,withStore_stage,enter_same]
  · have handles : early.handles = 1 := by simp [early,reserve,start]
    rw [handleOf,enter_locks,dismiss_locks,if_pos ⟨forget,rfl⟩,enter_handles,dismiss_handles,
      withStore_handles,handles]
    rfl
  · intro h
    rw [enter_holder,dismiss_holder,withStore_holder]
    exact free h
  · intro k other different
    rw [enter_other _ _ _ different,dismiss_stage,withStore_stage]
    exact called k other

/-- Such a call and one that takes its handle after the forget meet inside. -/
theorem meet_inside {calls : Nat → Call} (first : i ≠ f) (second : j ≠ f) (apart : i ≠ j)
    (forget : (calls f).isForget = true) (left : (calls i).target = (calls f).target)
    (right : (calls j).target = (calls f).target) (s : Store) :
    ¬Exclusive calls (execute calls (i :: List.replicate 6 f ++ [j,j,j,i,i]) (start s)) := by
  obtain ⟨waits,fresh,free,called⟩ := outdated_handle first forget left s
  rw [execute_append]
  generalize execute calls (i :: List.replicate 6 f) (start s) = p at waits fresh free called
  have taken := advance_called calls (called j apart.symm second)
  rw [right,fresh] at taken
  have entered := execute_inside calls (k := j) (h := 1) (p := advance calls j p)
    (by rw [taken,enter_same]) (by rw [taken,enter_holder,reserve_holder]; exact free 1)
  have joined := execute_inside calls (k := i) (h := 0) (p := execute calls [j,j] (advance calls j p))
    (by rw [entered,enter_other _ _ _ apart,withHolder_stage,taken,enter_other _ _ _ apart,reserve_stage]
        exact waits)
    (by rw [entered,enter_holder,withHolder_other _ _ _ (by decide),taken,enter_holder,reserve_holder]
        exact free 0)
  have steps : [j,j,j,i,i] = j :: ([j,j] ++ [i,i]) := rfl
  rw [steps,execute_cons,execute_append,joined]
  intro exclusive
  apply exclusive i j apart (left.trans right.symm)
  rw [enter_same,enter_other _ _ _ apart.symm,withHolder_stage,entered,enter_same]
  exact ⟨rfl,rfl⟩

def inTurn (calls : Nat → Call) : List Nat → Store → Store
  | [], s => s
  | k :: earlier, s => ((calls k).perform (inTurn calls earlier s)).2

theorem inTurn_filed (calls : Nat → Call) (order : List Nat) {s : Store} (filed : s.Filed) :
    (inTurn calls order s).Filed := by
  induction order with
  | nil => exact filed
  | cons k order ih => exact (calls k).perform_filed ih

/-- The calls that have written, the latest first, are those of an order in which, performed one at a
time, they leave the same store and answer the same. -/
structure Serial (calls : Nat → Call) (s : Store) (order : List Nat) (p : Tracker) : Prop where
  store : p.store = inTurn calls order s
  once : order.Nodup
  answered : ∀ k, k ∈ order ↔ (p.stage k).answer?.isSome = true
  answers : ∀ k earlier, k :: earlier <:+ order →
    (p.stage k).answer? = some ((calls k).perform (inTurn calls earlier s)).1

/-- What was loaded and is still to be used is what the store holds. -/
def Current (calls : Nat → Call) (p : Tracker) : Prop :=
  ∀ k h record, p.stage k = .loaded h record → p.store.activities[(calls k).target]? = record

/-- A step that writes nothing keeps the order. -/
theorem Serial.enter {p q : Tracker} (serial : Serial calls s order p) (store : q.store = p.store)
    (stages : q.stage = p.stage) {stage : Stage} (answer : stage.answer? = (p.stage k).answer?) :
    Serial calls s order (q.enter k stage) := by
  have same : ∀ other, ((q.enter k stage).stage other).answer? = (p.stage other).answer? := by
    intro other
    by_cases own : other = k
    · subst own; rw [enter_same,answer]
    · rw [enter_other _ _ _ own,stages]
  constructor
  · exact store.trans serial.store
  · exact serial.once
  · intro other; rw [same other]; exact serial.answered other
  · intro other earlier before; rw [same other]; exact serial.answers other earlier before

theorem Current.enter {p q : Tracker} (current : Current calls p) (store : q.store = p.store)
    (stages : q.stage = p.stage) {stage : Stage}
    (loaded : ∀ h record, stage = .loaded h record → p.store.activities[(calls k).target]? = record) :
    Current calls (q.enter k stage) := by
  intro other h record reached
  rw [enter_store,store]
  by_cases own : other = k
  · subst own
    rw [enter_same] at reached
    exact loaded h record reached
  · rw [enter_other _ _ _ own,stages] at reached
    exact current other h record reached

/-- A call that writes what it loaded is the latest of the order. -/
theorem Serial.write {p : Tracker} (serial : Serial calls s order p)
    (reached : p.stage k = .loaded h record) :
    Serial calls s (k :: order) ((p.withStore ((calls k).perform p.store).2).enter k
      (.written h ((calls k).perform p.store).1)) := by
  have fresh : k ∉ order := by
    rw [serial.answered k,reached]
    exact Bool.false_ne_true
  constructor
  · rw [enter_store,withStore_store,serial.store]
    rfl
  · exact List.nodup_cons.mpr ⟨fresh,serial.once⟩
  · intro other
    by_cases own : other = k
    · subst own
      rw [enter_same]
      exact iff_of_true List.mem_cons_self rfl
    · rw [enter_other _ _ _ own,withStore_stage,List.mem_cons,or_iff_right own]
      exact serial.answered other
  · intro other earlier before
    rcases List.suffix_cons_iff.mp before with whole | within
    · obtain ⟨rfl,rfl⟩ := List.cons.inj whole
      rw [enter_same,serial.store]
      rfl
    · have own : other ≠ k := by
        rintro rfl
        exact fresh (within.subset List.mem_cons_self)
      rw [enter_other _ _ _ own,withStore_stage]
      exact serial.answers other earlier within

/-- What other calls have loaded stays current through a write, as none of them is on its target. -/
theorem Current.write {p : Tracker} (current : Current calls p) (filed : p.store.Filed)
    (exclusive : Exclusive calls p) (reached : p.stage k = .loaded h record) (answer : Answer) :
    Current calls ((p.withStore ((calls k).perform p.store).2).enter k (.written h answer)) := by
  intro other lock kept loaded
  by_cases own : other = k
  · subst own
    rw [enter_same] at loaded
    cases loaded
  · rw [enter_other _ _ _ own,withStore_stage] at loaded
    have apart : (calls other).target ≠ (calls k).target := by
      intro target
      exact exclusive other k own target ⟨by rw [loaded]; rfl,by rw [reached]; rfl⟩
    rw [enter_store,withStore_store,(calls k).perform_activities filed,if_neg apart]
    exact current other lock kept loaded

theorem advance_serial {p : Tracker} (filed : p.store.Filed) (exclusive : Exclusive calls p)
    (serial : Serial calls s order p) (current : Current calls p) (k : Nat) :
    ∃ order, Serial calls s order (advance calls k p) ∧ Current calls (advance calls k p) := by
  cases reached : p.stage k with
  | called =>
    rw [advance_called calls reached]
    refine ⟨order,serial.enter (p.reserve_store _) (p.reserve_stage _) (by rw [reached]; rfl),
      current.enter (p.reserve_store _) (p.reserve_stage _) ?_⟩
    intro h record loading; cases loading
  | waiting h =>
    cases holder : p.holder h with
    | some other => exact ⟨order,by simpa [advance,reached,holder] using ⟨serial,current⟩⟩
    | none =>
      simp only [advance,reached,holder]
      refine ⟨order,serial.enter (p.withHolder_store h _) (p.withHolder_stage h _) (by rw [reached]; rfl),
        current.enter (p.withHolder_store h _) (p.withHolder_stage h _) ?_⟩
      intro h record loading; cases loading
  | entered h =>
    simp only [advance,reached]
    refine ⟨order,serial.enter rfl rfl (by rw [reached]; rfl),current.enter rfl rfl ?_⟩
    intro h record loading; cases loading; rfl
  | loaded h record =>
    have performed : (calls k).conclude record p.store = (calls k).perform p.store := by
      rw [← current k h record reached,Call.conclude_current]
    simp only [advance,reached,performed]
    exact ⟨k :: order,serial.write reached,current.write filed exclusive reached _⟩
  | written h answer =>
    simp only [advance,reached]
    refine ⟨order,serial.enter (p.withHolder_store h _) (p.withHolder_stage h _) (by rw [reached]; rfl),
      current.enter (p.withHolder_store h _) (p.withHolder_stage h _) ?_⟩
    intro h record loading; cases loading
  | released answer =>
    simp only [advance,reached]
    refine ⟨order,serial.enter (p.dismiss_store _) (p.dismiss_stage _) (by rw [reached]; rfl),
      current.enter (p.dismiss_store _) (p.dismiss_stage _) ?_⟩
    intro h record loading; cases loading
  | returned answer => exact ⟨order,by simpa [advance,reached] using ⟨serial,current⟩⟩

theorem execute_serial {p : Tracker} {s : Store} (filed : s.Filed) (steps : List Nat)
    (exclusive : ∀ before, before <+: steps → Exclusive calls (execute calls before p))
    (serial : Serial calls s order p) (current : Current calls p) :
    ∃ order, Serial calls s order (execute calls steps p) := by
  induction steps generalizing p order with
  | nil => exact ⟨order,serial⟩
  | cons k steps ih =>
    have now : p.store.Filed := serial.store ▸ inTurn_filed calls order filed
    obtain ⟨next,serial,current⟩ :=
      advance_serial now (exclusive [] List.nil_prefix) serial current k
    refine ih ?_ serial current
    intro before earlier
    exact exclusive (k :: before) (List.cons_prefix_cons.mpr ⟨rfl,earlier⟩)

theorem start_serial (calls : Nat → Call) (s : Store) : Serial calls s [] (start s) := by
  refine ⟨rfl,List.nodup_nil,?_,?_⟩
  · intro k
    exact iff_of_false List.not_mem_nil Bool.false_ne_true
  · intro k earlier before
    cases List.suffix_nil.mp before

/-- Whatever calls run at once, on whatever targets: no two on one target are ever both between their
load and their write, in no store and under no interleaving, exactly when no forget among them has two
other calls beside it on its target. And wherever a run keeps them apart, the answers and the store are
those of the calls performed one at a time, in some order. -/
theorem serialized_iff (calls : Nat → Call) :
    ((∀ (s : Store) (steps : List Nat), Exclusive calls (execute calls steps (start s))) ↔
      Uncrowded calls) ∧
    ∀ (s : Store) (steps : List Nat), s.Filed →
      (∀ before, before <+: steps → Exclusive calls (execute calls before (start s))) →
      ∃ order, Serial calls s order (execute calls steps (start s)) := by
  refine ⟨⟨?_,?_⟩,?_⟩
  · intro always f i j first second apart forget left right
    exact meet_inside first second apart forget left right .empty (always _ _)
  · intro uncrowded s steps
    exact (execute_locked (start_locked calls s) steps).exclusive uncrowded
  · intro s steps filed exclusive
    apply execute_serial filed steps exclusive (start_serial calls s)
    intro k h record absent
    cases absent

/-- Records of one host need no forget to come to their turns. -/
theorem records_take_turns :
    let calls : Nat → Call := fun k => .record "h1" .host .start k
    ∃ order, Serial calls .empty order (execute calls [0,1,2,0,1,0,2,0,0,1,1,0,2,1,1,2] (start .empty)) := by
  intro calls
  have uncrowded : Uncrowded calls := by
    intro f i j _ _ _ forget
    cases forget
  exact (serialized_iff calls).2 .empty _ Store.filed_empty
    fun before _ => (serialized_iff calls).1.mpr uncrowded .empty before

def crowd : Nat → Call
  | 1 => .forget "h1"
  | k => .record "h1" .host .start k

/-- The first record waits for the lock that the forget throws away, and the second one gets another.
Both find no record, so both count one, and so does the store: in no order of the three does the forget
find nothing while one record alone is counted. -/
theorem both_records_count_one :
    ¬Exclusive crowd (execute crowd (0 :: List.replicate 6 1 ++ [2,2,2,0,0]) (start .empty)) ∧
    let p := execute crowd (0 :: List.replicate 6 1 ++ [2,2,2,0,0] ++ [2,2,2,0,0,0]) (start .empty)
    (∀ k < 3, (p.stage k).isReturned = true) ∧
    p.store.activities["h1"]? = some ⟨"h1",.host,.start,1,0⟩ ∧
    ∀ order, ¬Serial crowd .empty order p := by
  refine ⟨meet_inside (by decide) (by decide) (by decide) (by decide) (by decide) (by decide) .empty,?_⟩
  intro p
  have returned : ∀ k < 3, (p.stage k).isReturned = true := by decide +kernel
  have stored : p.store.activities["h1"]? = some ⟨"h1",.host,.start,1,0⟩ := by decide +kernel
  refine ⟨returned,stored,?_⟩
  intro order serial
  have members : ∀ k, k ∈ order ↔ k ∈ [0,1,2] := by
    intro k
    rw [serial.answered]
    by_cases listed : k ∈ [0,1,2]
    · have answered : ∀ k ∈ [0,1,2], (p.stage k).answer?.isSome = true := by decide +kernel
      exact iff_of_true (answered k listed) listed
    · have idle : p.stage k = .called := by
        refine execute_other crowd (mt ?_ listed) _
        have taken : ∀ k ∈ 0 :: List.replicate 6 1 ++ [2,2,2,0,0] ++ [2,2,2,0,0,0], k ∈ [0,1,2] := by decide
        exact taken k
      rw [idle]
      exact iff_of_false Bool.false_ne_true listed
  have arranged := (List.perm_ext_iff_of_nodup serial.once (by decide)).mpr members
  have store := congrArg (·.activities["h1"]?) serial.store
  rw [stored] at store
  have told : (p.stage 1).answer? = some (.forgotten false) := by decide +kernel
  have orders : ∀ order ∈ List.permutations' [0,1,2],
      some ⟨"h1",.host,.start,1,0⟩ = (inTurn crowd order .empty).activities["h1"]? → order = [0,1,2] := by
    decide +kernel
  obtain rfl := orders order (List.mem_permutations'.mpr arranged) store
  have found := told.symm.trans (serial.answers 1 [2] (List.suffix_cons 0 [1,2]))
  revert found
  decide +kernel

end GeoFleet.Tracker
