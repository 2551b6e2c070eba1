import GeoFleet.Proofs.Rule.Recall

/-! Observations that fail partway. The samples of a snapshot join the statistics one by one, each in a
transaction of its own, and statistics that cannot be read back end the observation. What was taken in
until then stays, so that another attempt takes it in once more; nothing else has changed. -/
namespace GeoFleet

namespace FieldStats

variable {target field : String} {sample : Sample}

theorem stored?_count {s back : FieldStats} (stored : s.stored? = some back) : back.count = s.count := by
  obtain ⟨_,_,rest⟩ := Option.bind_eq_some_iff.mp stored
  obtain ⟨_,_,rest⟩ := Option.bind_eq_some_iff.mp rest
  obtain ⟨_,_,rest⟩ := Option.bind_eq_some_iff.mp rest
  obtain ⟨_,_,rest⟩ := Option.bind_eq_some_iff.mp rest
  cases rest
  rfl

/-- Statistics are never the same after a sample, as they count it. -/
theorem stored?_next_ne (earlier : FieldStats) :
    (next target field (some earlier) sample).stored? ≠ some earlier := by
  intro same
  have count := stored?_count same
  simp [next,fold] at count

end FieldStats

namespace Store

variable {s after left : Store} {target field : String} {now : Nat}

/-- A field has statistics that cannot be read back. -/
def Damaged (s : Store) (target field : String) : Prop :=
  s.fieldStats[Key.fieldStats target field]? = some none

/-- Some samples have joined the statistics of their fields, and nothing else is different. -/
structure Joined (s : Store) (target : String) (samples : List (String × Float)) (now : Nat)
    (left : Store) : Prop where
  rows : ∀ sample ∈ samples, left.fieldStats[Key.fieldStats target sample.1]? =
    some (FieldStats.next target sample.1 (s.history? target sample.1) ⟨sample.2,now⟩).stored?
  others : ∀ key, (∀ sample ∈ samples, Key.fieldStats target sample.1 ≠ key) →
    left.fieldStats[key]? = s.fieldStats[key]?
  rest : left = { s with fieldStats := left.fieldStats }

theorem Joined.nil (s : Store) : s.Joined target [] now s :=
  ⟨by simp,fun _ _ => rfl,rfl⟩

theorem Joined.cons {rest : List (String × Float)} (first : s.Joined target [(field,value)] now after)
    (later : after.Joined target rest now left) (apart : ∀ sample ∈ rest, field ≠ sample.1) :
    s.Joined target ((field,value) :: rest) now left := by
  have keys : ∀ sample ∈ rest, Key.fieldStats target field ≠ Key.fieldStats target sample.1 :=
    fun sample member same => apart sample member (Key.fieldStats_injective same)
  have before : ∀ sample ∈ rest, after.history? target sample.1 = s.history? target sample.1 := by
    intro sample member
    rw [history?,history?,first.others _ (by simpa using keys sample member)]
  refine ⟨?_,?_,?_⟩
  · intro sample member
    rcases List.mem_cons.mp member with rfl | member
    · rw [later.others _ fun sample member => (keys sample member).symm]
      exact first.rows _ List.mem_cons_self
    · rw [later.rows sample member,before sample member]
  · intro key others
    rw [later.others key fun sample member => others sample (List.mem_cons_of_mem _ member)]
    exact first.others key (by simpa using others (field,value) List.mem_cons_self)
  · rw [later.rest,first.rest]

theorem foldSample_damaged (damaged : s.Damaged target field) (value : Float) (now : Nat) :
    s.foldSample target field value now = .error .unreadable := by
  have read : s.fieldStats.read? (Key.fieldStats target field) = .error .unreadable := by
    rw [Table.read?,damaged]
  rw [foldSample,read]; rfl

theorem foldSample_joined (readable : ¬s.Damaged target field) (value : Float) (now : Nat) :
    ∃ after, s.foldSample target field value now = .ok (s.history? target field,after) ∧
      s.Joined target [(field,value)] now after := by
  have read : s.fieldStats.read? (Key.fieldStats target field) = .ok (s.history? target field) := by
    rw [Table.read?,history?]
    split
    · rename_i absent; rw [absent]; rfl
    · rename_i damaged; exact absurd damaged readable
    · rename_i stats present; rw [present]; rfl
  refine ⟨_,by rw [foldSample,read]; rfl,?_,?_,rfl⟩
  · intro sample member
    cases List.mem_singleton.mp member
    rw [Std.ExtTreeMap.getElem?_insert_self]
    cases s.history? target field <;> rfl
  · intro key others
    exact getElem?_insert_ne (others _ List.mem_cons_self)

/-- The statistics of a field are the first, among those of some samples, that are damaged. -/
structure Stops (s : Store) (target : String) (samples before : List (String × Float)) (field : String) :
    Prop where
  split : ∃ value rest, samples = before ++ (field,value) :: rest
  readable : ∀ sample ∈ before, ¬s.Damaged target sample.1
  damaged : s.Damaged target field

theorem Stops.cons {samples before : List (String × Float)} {value : Float}
    (stops : after.Stops target samples before stop) (readable : ¬s.Damaged target field)
    (same : ∀ sample ∈ samples, (after.Damaged target sample.1 ↔ s.Damaged target sample.1)) :
    s.Stops target ((field,value) :: samples) ((field,value) :: before) stop := by
  obtain ⟨last,rest,split⟩ := stops.split
  subst split
  refine ⟨⟨last,rest,rfl⟩,?_,?_⟩
  · intro sample member
    rcases List.mem_cons.mp member with rfl | member
    · exact readable
    · exact mt (same sample (List.mem_append_left _ member)).mpr (stops.readable sample member)
  · exact (same (stop,last) (List.mem_append_right _ List.mem_cons_self)).mp stops.damaged

/-- An observation gets as far as the first sample of a field with damaged statistics, if there is one. -/
theorem observeSamples_outcome (s : Store) (target : String) (now : Nat) {samples : List (String × Float)}
    (distinct : samples.Pairwise fun a b => a.1 ≠ b.1) (extended : Snapshot) :
    (∃ out left, observeSamples target now samples extended s = (.ok out,left) ∧
      (∀ sample ∈ samples, ¬s.Damaged target sample.1) ∧ s.Joined target samples now left) ∨
    ∃ before field left, observeSamples target now samples extended s = (.error .unreadable,left) ∧
      s.Stops target samples before field ∧ s.Joined target before now left := by
  induction samples generalizing s extended with
  | nil => exact .inl ⟨extended,s,rfl,by simp,.nil s⟩
  | cons sample rest ih =>
    obtain ⟨field,value⟩ := sample
    obtain ⟨apart,distinct⟩ := List.pairwise_cons.mp distinct
    by_cases damaged : s.Damaged target field
    · refine .inr ⟨[],field,s,?_,⟨⟨value,rest,rfl⟩,by simp,damaged⟩,.nil s⟩
      rw [observeSamples,foldSample_damaged damaged]
    · obtain ⟨after,folded,joined⟩ := foldSample_joined damaged value now
      have goes : observeSamples target now ((field,value) :: rest) extended s =
          observeSamples target now rest (extend extended field value (s.history? target field)) after := by
        rw [observeSamples,folded]
        cases s.history? target field <;> rfl
      -- The transaction for one field leaves the damage of the others as it is.
      have same : ∀ sample ∈ rest, (after.Damaged target sample.1 ↔ s.Damaged target sample.1) := by
        intro sample member
        have other : Key.fieldStats target field ≠ Key.fieldStats target sample.1 :=
          fun same => apart sample member (Key.fieldStats_injective same)
        rw [Damaged,Damaged,joined.others _ (by simpa using other)]
      rw [goes]
      rcases ih after distinct (extend extended field value (s.history? target field)) with
        ⟨out,left,done,readable,later⟩ | ⟨before,stop,left,failed,stops,later⟩
      · refine .inl ⟨out,left,done,?_,joined.cons later apart⟩
        intro sample member
        rcases List.mem_cons.mp member with rfl | member
        · exact damaged
        · exact mt (same sample member).mpr (readable sample member)
      · refine .inr ⟨(field,value) :: before,stop,left,failed,stops.cons damaged same,?_⟩
        obtain ⟨_,_,split⟩ := stops.split
        exact joined.cons later fun sample member => apart sample (split ▸ List.mem_append_left _ member)

/-- No prefix of the samples without the field that stops them goes beyond it. -/
theorem Stops.within {samples before earlier : List (String × Float)}
    (stops : s.Stops target samples before field) (part : earlier <+: samples)
    (free : ∀ sample ∈ earlier, sample.1 ≠ field) : earlier <+: before := by
  obtain ⟨value,rest,split⟩ := stops.split
  have front : before <+: samples := ⟨_,split.symm⟩
  rcases List.prefix_or_prefix_of_prefix part front with shorter | longer
  · exact shorter
  · obtain ⟨more,rfl⟩ := longer
    cases more with
    | nil => simp
    | cons sample more =>
      obtain ⟨others,whole⟩ := part
      rw [List.append_assoc,split] at whole
      obtain ⟨rfl,_⟩ := List.cons.inj (List.append_cancel_left whole)
      exact absurd rfl (free (field,value) (by simp))

theorem Joined.unchanged_iff {samples : List (String × Float)} (joined : s.Joined target samples now left)
    (readable : ∀ sample ∈ samples, ¬s.Damaged target sample.1) :
    left.fieldStats = s.fieldStats ↔ samples = [] := by
  constructor
  · intro same
    by_contra some_taken
    obtain ⟨sample,member⟩ := List.exists_mem_of_ne_nil samples some_taken
    have row := joined.rows sample member
    rw [same,history?] at row
    cases known : s.fieldStats[Key.fieldStats target sample.1]? with
    | none => rw [known] at row; cases row
    | some stats =>
      cases stats with
      | none => exact readable sample member known
      | some stats =>
        rw [known] at row
        exact FieldStats.stored?_next_ne stats (Option.some.inj row).symm
  · rintro rfl
    apply Std.ExtTreeMap.ext_getElem?
    intro key
    exact joined.others key (by simp)

/-- When an observation fails, statistics of a sampled field cannot be read back. The samples before it
have joined their statistics, as they do when nothing fails, and everything else is as it was. So nothing
has changed only if that field is the first one of the snapshot. Another attempt fails as well, and takes
the samples before it in once more, unless one of these has damaged the statistics of its field by now. The
database itself is assumed to work, so statistics that cannot be read back are all that fails. -/
theorem failed_observation {raw : Snapshot} {err : StoreError}
    (failed : (s.observe target raw now).1 = .error err) :
    err = .unreadable ∧ ∃ before field left, s.observe target raw now = (.error .unreadable,left) ∧
      s.Stops target raw.toList before field ∧ s.Joined target before now left ∧
      (left.fieldStats = s.fieldStats ↔ before = []) ∧
      ∀ later, ∃ again after, left.observe target raw later = (.error .unreadable,after) ∧
        again <+: before ∧ left.Joined target again later after ∧
        ((∀ sample ∈ before, ¬left.Damaged target sample.1) → again = before) := by
  rcases observeSamples_outcome s target now raw.distinct_fields raw with
    ⟨out,left,done,_⟩ | ⟨before,field,left,done,stops,joined⟩
  · rw [observe,done] at failed
    cases failed
  · rw [observe,done] at failed
    cases failed
    refine ⟨rfl,before,field,left,done,stops,joined,joined.unchanged_iff stops.readable,?_⟩
    obtain ⟨value,rest,split⟩ := stops.split
    have distinct := raw.distinct_fields
    rw [split,List.pairwise_append] at distinct
    have stuck : left.Damaged target field := by
      rw [Damaged,joined.others]
      · exact stops.damaged
      · intro sample member same
        exact distinct.2.2 sample member (field,value) List.mem_cons_self (Key.fieldStats_injective same)
    intro later
    rcases observeSamples_outcome left target later raw.distinct_fields raw with
      ⟨_,_,_,readable,_⟩ | ⟨again,stop,after,done,halts,rejoined⟩
    · exact absurd stuck (readable (field,value) (by simp [split]))
    · obtain ⟨_,_,split'⟩ := halts.split
      have shorter : again <+: before := by
        refine stops.within ⟨_,split'.symm⟩ ?_
        intro sample member same
        exact halts.readable sample member (same ▸ stuck)
      refine ⟨again,after,done,shorter,rejoined,?_⟩
      intro readable
      refine shorter.eq_of_length_le (halts.within ⟨_,split.symm⟩ ?_).length_le
      intro sample member same
      exact readable sample member (same ▸ halts.damaged)

end Store

namespace Monitor

theorem web_plain : Key.Plain "web-1" := by decide

def spoiledLoads : List Call := [.observe "web-1" ((∅ : Snapshot).insert "cpu" (0.0 / 0.0)) 1 web_plain]

/-- A load that can be taken in comes before one that cannot. -/
def loads : Snapshot := ((∅ : Snapshot).insert "bandwidth" 1.0).insert "cpu" 2.0

theorem spoiled_load_stays :
    ((after spoiledLoads .empty).observe "web-1" loads 2).1 = .error .unreadable ∧
      ∀ later, (((after spoiledLoads .empty).observe "web-1" loads 2).2.observe "web-1" loads later).1 =
        .error .unreadable := by
  have failed : ((after spoiledLoads .empty).observe "web-1" loads 2).1.toOption.isSome = false := by
    decide +kernel
  cases done : ((after spoiledLoads .empty).observe "web-1" loads 2).1 with
  | ok out => rw [done] at failed; cases failed
  | error err =>
    obtain ⟨rfl,before,field,left,whole,_,_,_,retried⟩ := Store.failed_observation done
    refine ⟨rfl,?_⟩
    intro later
    obtain ⟨again,after,more,_⟩ := retried later
    rw [whole,more]

/-- An observation that fails has counted the load before the one that it fails at, and does so again. -/
theorem failed_observation_counts :
    let s := after spoiledLoads .empty
    let once := s.observe "web-1" loads 2
    let twice := once.2.observe "web-1" loads 3
    let count := fun s : Store => (s.fieldStats? "web-1" "bandwidth").toOption.map (Option.map FieldStats.count)
    once.1.toOption.isSome = false ∧ twice.1.toOption.isSome = false ∧
      [s,once.2,twice.2].map count = [some none,some (some 1),some (some 2)] := by
  decide +kernel

end Monitor

end GeoFleet
