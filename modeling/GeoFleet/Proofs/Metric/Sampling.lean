import GeoFleet.Metric.Source
import GeoFleet.Proofs.Collections
import GeoFleet.Proofs.Metric.Flight

/-! Sampling many fields at once. Each field is fetched on its own, under a timeout of its own, and the answers
are put together as they come in. A snapshot has what was answered in time and nothing else; no order of the
answers, and no field that is missing or late, makes a difference to another field. -/
namespace GeoFleet.Source

variable {s : Source} {timeout : Duration} {target query : String} {as bs : List (String × Option Float)}
  {rs : List Request}

theorem arrives_iff : s.arrives timeout target = true ↔
    ∀ millis, s.delay target = some millis → millis < timeout.millis := by
  cases delayed : s.delay target <;> simp [arrives,delayed]

theorem fetch_eq_some_iff : s.fetch timeout target query = some v ↔
    (∀ millis, s.delay target = some millis → millis < timeout.millis) ∧ s.answer target query = some v := by
  rw [fetch,← arrives_iff]
  split
  · rename_i arrives; simp [arrives]
  · rename_i late; simp [late]

theorem gather_concat (as : List (String × Option Float)) (field : String) (value : Option Float) :
    gather (as ++ [(field,value)]) = value.elim (gather as) ((gather as).insert field ·) := by
  simp [gather]

/-- Answers can be put together in pieces. -/
theorem gather_append (as bs : List (String × Option Float)) : gather (as ++ bs) = gather as ∪ gather bs := by
  apply Std.ExtTreeMap.ext_getElem?
  intro field
  rw [Std.ExtTreeMap.getElem?_union]
  induction bs using List.reverseRecOn with
  | nil => simp [gather]
  | append_singleton bs last ih =>
    obtain ⟨name,value⟩ := last
    rw [← List.append_assoc,gather_concat,gather_concat]
    cases value with
    | none => exact ih
    | some v =>
      simp only [Option.elim_some]
      by_cases same : name = field
      · subst same; simp
      · rw [getElem?_insert_ne same,getElem?_insert_ne same,ih]

theorem gather_fills :
    Fills (fun s (field,value) => value.elim s (s.insert field ·) : Snapshot → String × Option Float → Snapshot)
      Prod.fst Prod.snd := by
  constructor
  · rintro m ⟨field,value⟩ free
    cases value <;> simp [free]
  · rintro m ⟨field,value⟩ other apart
    cases value with
    | none => rfl
    | some v => exact getElem?_insert_ne apart

/-- Where no field is answered twice, each has the value of its answer. -/
theorem getElem?_gather_eq_some_iff (distinct : (as.map Prod.fst).Nodup) :
    (gather as)[field]? = some v ↔ (field,some v) ∈ as := by
  rw [gather,gather_fills.getElem?_eq_some_iff distinct]
  constructor
  · rintro ⟨⟨_,_⟩,listed,rfl,rfl⟩; exact listed
  · intro listed; exact ⟨_,listed,rfl,rfl⟩

/-- Answers of different fields can come in any order. -/
theorem gather_perm (reordered : bs.Perm as) (distinct : (as.map Prod.fst).Nodup) : gather bs = gather as :=
  gather_fills.perm reordered distinct

theorem answers_fields (s : Source) (timeout : Duration) (target : String) (rs : List Request) :
    (s.answers timeout target rs).map Prod.fst = rs.map (·.field) := by
  simp [answers]

theorem fetchAll_eq_some_iff (distinct : (rs.map (·.field)).Nodup) :
    (s.fetchAll timeout target rs)[field]? = some v ↔
      ∃ r ∈ rs, r.field = field ∧ s.fetch timeout target r.query = some v := by
  rw [fetchAll,getElem?_gather_eq_some_iff (by rwa [answers_fields]),answers,List.mem_map]
  simp only [Prod.mk.injEq]

theorem fetchAll_perm {rs' : List Request} (reordered : rs'.Perm rs) (distinct : (rs.map (·.field)).Nodup) :
    s.fetchAll timeout target rs' = s.fetchAll timeout target rs := by
  have fields : ((s.answers timeout target rs).map Prod.fst).Nodup := by rwa [answers_fields]
  exact gather_perm (reordered.map _) fields

/-- Fields can be sampled in groups. -/
theorem fetchAll_flatten (parts : List (List Request)) :
    s.fetchAll timeout target parts.flatten = (parts.map (s.fetchAll timeout target)).foldl (· ∪ ·) ∅ := by
  induction parts using List.reverseRecOn with
  | nil => rfl
  | append_singleton parts last ih =>
    rw [List.flatten_append,List.flatten_singleton,List.map_append,List.foldl_append,← ih]
    simp only [fetchAll,answers,List.map_append,gather_append,List.map_singleton,List.foldl_cons,List.foldl_nil]

/-- What a fetch has come to at a point in time. An answer that is there counts, and only while it is not the
timeout is looked at. -/
def await (s : Source) (timeout : Duration) (target query : String) (clock : Nat) : Option (Option Float) :=
  if (s.delay target).all (· ≤ clock) then some (s.answer target query)
  else if timeout.millis ≤ clock then some none
  else none

def endsAt (s : Source) (timeout : Duration) (target : String) : Nat :=
  min ((s.delay target).getD 0) timeout.millis

/-- A fetch that is not answered at the very moment of its timeout comes to what was answered before. -/
theorem await_ends (apart : s.delay target ≠ some timeout.millis) (query : String) :
    Flight.Ends (s.await timeout target) query (s.endsAt timeout target) (s.fetch timeout target query) := by
  cases delayed : s.delay target with
  | none => constructor <;> simp [await,endsAt,fetch,arrives,delayed]
  | some millis =>
    have other : millis ≠ timeout.millis := by simpa [delayed] using apart
    constructor
    · intro clock early
      simp only [endsAt,delayed,Option.getD_some] at early
      have unanswered : ¬millis ≤ clock := by omega
      have in_time : ¬timeout.millis ≤ clock := by omega
      simp [await,delayed,unanswered,in_time]
    · by_cases answered : millis < timeout.millis
      · have first : min millis timeout.millis = millis := by omega
        simp [await,endsAt,fetch,arrives,delayed,answered,first]
      · have first : min millis timeout.millis = timeout.millis := by omega
        have late : ¬millis ≤ timeout.millis := by omega
        simp [await,endsAt,fetch,arrives,delayed,answered,first,late]

def sample (s : Source) (timeout : Duration) (target : String) (r : Request) (clock : Nat) :
    Option (String × Option Float) :=
  (s.await timeout target r.query clock).map (r.field,·)

theorem sample_ends (apart : s.delay target ≠ some timeout.millis) (r : Request) :
    Flight.Ends (s.sample timeout target) r (s.endsAt timeout target)
      (r.field,s.fetch timeout target r.query) := by
  have ends := await_ends apart r.query
  constructor
  · intro clock early
    rw [sample,ends.waits clock early]
    rfl
  · rw [sample,ends.finishes]
    rfl

/-- A snapshot of different fields has the value of each field that is answered in time, and no others. Any
order in which the fetches come to an end leads to it; if no answer comes at the very moment of the timeout,
they all do by then, whatever runs between. So it is put together of the snapshots of any groups of the fields. -/
theorem snapshot_exact (s : Source) (timeout : Duration) (target : String) {rs : List Request}
    (distinct : (rs.map (·.field)).Nodup) :
    (∀ field v, (s.fetchAll timeout target rs)[field]? = some v ↔ ∃ r ∈ rs, r.field = field ∧
      (∀ millis, s.delay target = some millis → millis < timeout.millis) ∧
      s.answer target r.query = some v) ∧
    (∀ done, done.Perm (s.answers timeout target rs) → gather done = s.fetchAll timeout target rs) ∧
    (s.delay target ≠ some timeout.millis → ∀ run, Flight.Run (s.sample timeout target) rs run →
      (∃ n, (run n).pending = []) ∧ ∀ n, (run n).clock ≤ timeout.millis ∧
        ((run n).pending = [] → gather (run n).landed = s.fetchAll timeout target rs)) ∧
    ∀ parts : List (List Request), parts.flatten.Perm rs →
      s.fetchAll timeout target rs = (parts.map (s.fetchAll timeout target)).foldl (· ∪ ·) ∅ := by
  have fields : ((s.answers timeout target rs).map Prod.fst).Nodup := by rwa [answers_fields]
  refine ⟨?_,fun done reordered => gather_perm reordered fields,?_,?_⟩
  · intro field v
    simp only [fetchAll_eq_some_iff distinct,fetch_eq_some_iff]
  · intro apart run runs
    have by_timeout : ∀ r ∈ rs, s.endsAt timeout target ≤ timeout.millis := fun _ _ => Nat.min_le_right _ _
    obtain ⟨ends,lands⟩ := runs.lands (fun r _ => sample_ends apart r) by_timeout
    exact ⟨ends,fun n => ⟨(lands n).1,fun done => gather_perm ((lands n).2 done) fields⟩⟩
  · intro parts split
    rw [← fetchAll_perm split distinct,fetchAll_flatten]

/-- A field without a value leaves the others alone, and from a target that is slower than the timeout there
is nothing at all, however the fetches are run. -/
theorem missing_field_is_left_out :
    let s : Source :=
      { answer := fun _ query => if query = "q-cpu" then some 85.0 else if query = "q-disk" then some 40.0 else none
        delay := fun target => if target = "slow" then some 30000 else some 100 }
    let rs : List Request := [⟨"cpu","q-cpu"⟩,⟨"ram","q-ram"⟩,⟨"disk","q-disk"⟩]
    (rs.map (·.field)).Nodup ∧ (s.fetchAll ⟨1000⟩ "host" rs)["cpu"]? = some 85.0 ∧
      (s.fetchAll ⟨1000⟩ "host" rs)["ram"]? = none ∧
      ∃ run, Flight.Run (s.sample ⟨1000⟩ "slow") rs run ∧ ∃ n, gather (run n).landed = ∅ := by
  intro s rs
  have distinct : (rs.map (·.field)).Nodup := by decide
  obtain ⟨answered,_⟩ := snapshot_exact s ⟨1000⟩ "host" distinct
  obtain ⟨late,_,runs_end,_⟩ := snapshot_exact s ⟨1000⟩ "slow" distinct
  refine ⟨distinct,(answered _ _).mpr ⟨⟨"cpu","q-cpu"⟩,by simp [rs],rfl,by simp [s],rfl⟩,?_,?_⟩
  · rw [Option.eq_none_iff_forall_ne_some]
    intro v found
    obtain ⟨r,member,own,_,value⟩ := (answered _ _).mp found
    simp only [rs,List.mem_cons,List.not_mem_nil,or_false] at member
    rcases member with rfl | rfl | rfl
    · exact absurd own (by decide)
    · cases value
    · exact absurd own (by decide)
  · obtain ⟨run,runs⟩ := Flight.exists_run (s.sample ⟨1000⟩ "slow") rs
    obtain ⟨⟨n,done⟩,results⟩ := runs_end (by decide) run runs
    refine ⟨run,runs,n,((results n).2 done).trans ?_⟩
    apply Std.ExtTreeMap.ext_getElem?
    intro field
    rw [Std.ExtTreeMap.getElem?_empty,Option.eq_none_iff_forall_ne_some]
    intro v found
    obtain ⟨_,_,_,in_time,_⟩ := (late _ _).mp found
    exact absurd (in_time 30000 rfl) (by decide)

end GeoFleet.Source
