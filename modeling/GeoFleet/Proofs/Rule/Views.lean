import GeoFleet.Proofs.Catalog.Integrity
import GeoFleet.Proofs.Store.Frames

/-! Which view of which field a condition reads. A snapshot holds samples and derived views side by
side, and nothing keeps a field from going by the name of a view of another one. A condition reads
the view of its own field, whatever is sampled, exactly when no other sampled field has a view under
the key of the condition. -/
namespace GeoFleet

namespace ValueMode

def deviation? (value base : Float) : Option Float :=
  if base == 0.0 then none else some (Store.deviation value base)

def view? (m : ValueMode) (earlier : Option FieldStats) (value : Float) : Option Float :=
  match m with
  | .effective => some value
  | .average => earlier.map (·.average)
  | .deviationOnAverage => earlier.bind fun s => deviation? value s.average
  | .deviationOnLast => earlier.bind fun s => deviation? value s.last

theorem view?_none {m : ValueMode} (derived : m ≠ .effective) (value : Float) : m.view? none value = none := by
  cases m with
  | effective => exact absurd rfl derived
  | average => rfl
  | deviationOnAverage => rfl
  | deviationOnLast => rfl

theorem key_injective {m n : ValueMode} (same : m.key field = n.key field) : m = n := by
  have lists := congrArg String.toList same
  cases m <;> cases n <;> first | rfl | simp [key,name] at lists

end ValueMode

namespace Snapshot

def add (s : Snapshot) (key : String) : Option Float → Snapshot
  | none => s
  | some x => s.insert key x

theorem getElem?_add_self (s : Snapshot) (key : String) (x : Option Float) :
    (s.add key x)[key]? = x.or s[key]? := by
  cases x with
  | none => rfl
  | some x => simp [add]

theorem getElem?_add_ne (s : Snapshot) {key other : String} (apart : key ≠ other) (x : Option Float) :
    (s.add key x)[other]? = s[other]? := by
  cases x with
  | none => rfl
  | some x => exact getElem?_insert_ne apart

theorem distinct_fields (raw : Snapshot) : raw.toList.Pairwise fun a b => a.1 ≠ b.1 := by
  refine Std.ExtTreeMap.distinct_keys_toList.imp ?_
  intro a b apart same
  exact apart (by rw [same]; exact Std.ReflCmp.compare_self)

end Snapshot

namespace Store

theorem addViews_eq (s : Snapshot) (field : String) (value : Float) (earlier : FieldStats) :
    addViews s field value earlier =
      ((s.add (ValueMode.average.key field) (ValueMode.average.view? earlier value)).add
        (ValueMode.deviationOnAverage.key field) (ValueMode.deviationOnAverage.view? earlier value)).add
        (ValueMode.deviationOnLast.key field) (ValueMode.deviationOnLast.view? earlier value) := by
  simp only [addViews,ValueMode.view?,ValueMode.deviation?,Option.map_some,Option.bind_some]
  split <;> split <;> rfl

theorem addViews_other (s : Snapshot) {field key : String} (value : Float) (earlier : FieldStats)
    (apart : ∀ m : ValueMode, m ≠ .effective → m.key field ≠ key) :
    (addViews s field value earlier)[key]? = s[key]? := by
  rw [addViews_eq,Snapshot.getElem?_add_ne _ (apart _ (by simp)),
    Snapshot.getElem?_add_ne _ (apart _ (by simp)),Snapshot.getElem?_add_ne _ (apart _ (by simp))]

theorem addViews_own (s : Snapshot) (field : String) (value : Float) (earlier : FieldStats)
    {m : ValueMode} (derived : m ≠ .effective) :
    (addViews s field value earlier)[m.key field]? = (m.view? earlier value).or s[m.key field]? := by
  have apart : ∀ {n : ValueMode}, n ≠ m → n.key field ≠ m.key field := by
    intro n other same
    exact other (ValueMode.key_injective same)
  rw [addViews_eq]
  cases m with
  | effective => exact absurd rfl derived
  | average =>
    rw [Snapshot.getElem?_add_ne _ (apart (by simp)),Snapshot.getElem?_add_ne _ (apart (by simp)),
      Snapshot.getElem?_add_self]
  | deviationOnAverage =>
    rw [Snapshot.getElem?_add_ne _ (apart (by simp)),Snapshot.getElem?_add_self,
      Snapshot.getElem?_add_ne _ (apart (by simp))]
  | deviationOnLast =>
    rw [Snapshot.getElem?_add_self,Snapshot.getElem?_add_ne _ (apart (by simp)),
      Snapshot.getElem?_add_ne _ (apart (by simp))]

/-- The statistics of the samples of a field so far; none without samples, or when they cannot be
read back. -/
def history? (s : Store) (target field : String) : Option FieldStats :=
  s.fieldStats[Key.fieldStats target field]?.join

theorem foldSample_history {s next : Store} (done : s.foldSample target field value now = .ok (previous,next)) :
    previous = s.history? target field ∧
      ∀ other, other ≠ field → next.history? target other = s.history? target other := by
  obtain ⟨known,read,rest⟩ := bind_eq_ok.mp done
  cases rest
  constructor
  · exact (Table.join_of_read? read).symm
  · intro other apart
    rw [history?,history?]
    refine congrArg Option.join (getElem?_insert_ne ?_)
    intro same
    exact apart (Key.fieldStats_injective same).symm

def extend (extended : Snapshot) (field : String) (value : Float) (earlier : Option FieldStats) : Snapshot :=
  earlier.elim extended (addViews extended field value)

theorem extend_other (extended : Snapshot) {field key : String} (value : Float) (earlier : Option FieldStats)
    (apart : ∀ m : ValueMode, m ≠ .effective → m.key field ≠ key) :
    (extend extended field value earlier)[key]? = extended[key]? := by
  cases earlier with
  | none => rfl
  | some earlier => exact addViews_other extended value earlier apart

theorem extend_own (extended : Snapshot) (field : String) (value : Float) (earlier : Option FieldStats)
    {m : ValueMode} (derived : m ≠ .effective) :
    (extend extended field value earlier)[m.key field]? =
      (m.view? earlier value).or extended[m.key field]? := by
  cases earlier with
  | none => rw [ValueMode.view?_none derived]; rfl
  | some earlier => exact addViews_own extended field value earlier derived

theorem observeSamples_cons {s after : Store} {extended out : Snapshot}
    (done : observeSamples target now ((field,value) :: rest) extended s = (.ok out,after)) :
    ∃ next : Store, (∀ other, other ≠ field → next.history? target other = s.history? target other) ∧
      observeSamples target now rest (extend extended field value (s.history? target field)) next =
        (.ok out,after) := by
  cases folded : s.foldSample target field value now with
  | error err => simp [observeSamples,folded] at done
  | ok pair =>
    obtain ⟨previous,next⟩ := pair
    obtain ⟨read,kept⟩ := foldSample_history folded
    refine ⟨next,kept,?_⟩
    rw [← read]
    cases previous with
    | none => simpa [observeSamples,folded,extend] using done
    | some earlier => simpa [observeSamples,folded,extend] using done

/-- Samples of fields without a derived view under a key leave what stands there. -/
theorem observeSamples_other {s after : Store} {extended out : Snapshot} {key : String}
    {samples : List (String × Float)}
    (apart : ∀ sample ∈ samples, ∀ m : ValueMode, m ≠ .effective → m.key sample.1 ≠ key)
    (done : observeSamples target now samples extended s = (.ok out,after)) :
    out[key]? = extended[key]? := by
  induction samples generalizing extended s with
  | nil => cases done; rfl
  | cons sample rest ih =>
    obtain ⟨field,value⟩ := sample
    obtain ⟨next,_,later⟩ := observeSamples_cons done
    rw [ih (fun sample member => apart sample (List.mem_cons_of_mem _ member)) later]
    exact extend_other extended value _ (apart (field,value) List.mem_cons_self)

/-- A derived view of a sampled field is taken by what was known before, whatever is sampled besides. -/
theorem observeSamples_view {s after : Store} {extended out : Snapshot} {field : String} {m : ValueMode}
    {samples : List (String × Float)} (derived : m ≠ .effective)
    (distinct : samples.Pairwise fun a b => a.1 ≠ b.1)
    (apart : ∀ sample ∈ samples, sample.1 ≠ field → ∀ n : ValueMode, n ≠ .effective →
      n.key sample.1 ≠ m.key field)
    (sampled : (field,value) ∈ samples)
    (done : observeSamples target now samples extended s = (.ok out,after)) :
    out[m.key field]? = (m.view? (s.history? target field) value).or extended[m.key field]? := by
  induction samples generalizing extended s with
  | nil => cases sampled
  | cons sample rest ih =>
    obtain ⟨f,v⟩ := sample
    obtain ⟨first,distinct⟩ := List.pairwise_cons.mp distinct
    obtain ⟨next,kept,later⟩ := observeSamples_cons done
    have apart_rest : ∀ sample ∈ rest, sample.1 ≠ field → ∀ n : ValueMode, n ≠ .effective →
        n.key sample.1 ≠ m.key field :=
      fun sample member => apart sample (List.mem_cons_of_mem _ member)
    rcases List.mem_cons.mp sampled with same | member
    · cases same
      rw [observeSamples_other (fun sample member => apart_rest sample member (first sample member).symm) later]
      exact extend_own extended field value _ derived
    · have other : f ≠ field := first (field,value) member
      rw [ih distinct apart_rest member later,kept field (Ne.symm other)]
      rw [extend_other extended v _ (apart (f,v) List.mem_cons_self other)]

end Store

namespace Condition

/-- What a condition is meant to read: the view of the sample of its own field, if there is one. -/
def view? (c : Condition) (s : Store) (target : String) (raw : Snapshot) : Option Float :=
  raw[c.field]?.bind (c.mode.view? (s.history? target c.field))

/-- No field but its own has a view under the key of a condition. -/
def Alone (c : Condition) (fields : List String) : Prop :=
  ∀ field ∈ fields, field ≠ c.field → ∀ m : ValueMode, m.key field ≠ c.key

theorem view?_effective {c : Condition} (effective : c.mode = .effective) (s : Store) (target : String)
    (raw : Snapshot) : c.view? s target raw = raw[c.field]? := by
  rw [view?,effective]
  cases raw[c.field]? with
  | none => rfl
  | some value => rfl

theorem Alone.reads {c : Condition} (alone : c.Alone fields) {s after : Store} {raw extended : Snapshot}
    (listed : ∀ field ∈ raw.keys, field ∈ fields)
    (done : s.observe target raw now = (.ok extended,after)) :
    extended[c.key]? = c.view? s target raw := by
  have listed : ∀ sample ∈ raw.toList, sample.1 ∈ fields := by
    intro sample member
    apply listed
    rw [Std.ExtTreeMap.mem_keys,Std.ExtTreeMap.mem_iff_isSome_getElem?,
      Std.ExtTreeMap.mem_toList_iff_getElem?_eq_some.mp member]
    rfl
  by_cases effective : c.mode = .effective
  · have own : c.key = c.field := by rw [key,effective]; rfl
    rw [view?_effective effective,← own]
    refine Store.observeSamples_other ?_ done
    intro sample member m derived
    by_cases same : sample.1 = c.field
    · rw [key,effective,same]
      exact fun equal => derived (ValueMode.key_injective equal)
    · exact alone sample.1 (listed sample member) same m
  · have apart : ∀ sample ∈ raw.toList, sample.1 ≠ c.field → ∀ m : ValueMode, m ≠ .effective →
        m.key sample.1 ≠ c.key :=
      fun sample member other m _ => alone sample.1 (listed sample member) other m
    -- The key of a derived view is no sampled field, so the snapshot starts without a value there.
    have fresh : raw[c.key]? = none := by
      cases present : raw[c.key]? with
      | none => rfl
      | some x =>
        have member := Std.ExtTreeMap.mem_toList_iff_getElem?_eq_some.mpr present
        have other : c.key ≠ c.field := fun same => effective (ValueMode.key_injective (n := .effective) same)
        exact absurd rfl (alone c.key (listed (c.key,x) member) other .effective)
    cases present : raw[c.field]? with
    | none =>
      rw [view?,present]
      refine (Store.observeSamples_other ?_ done).trans fresh
      intro sample member
      apply apart sample member
      intro same
      rw [← same,Std.ExtTreeMap.mem_toList_iff_getElem?_eq_some.mp member] at present
      cases present
    | some value =>
      have member := Std.ExtTreeMap.mem_toList_iff_getElem?_eq_some.mpr present
      have view : extended[c.key]? = (c.mode.view? (s.history? target c.field) value).or raw[c.key]? :=
        Store.observeSamples_view effective raw.distinct_fields apart member done
      rw [fresh,Option.or_none] at view
      rw [view?,present]
      exact view

section OneField

def onceSampled (field : String) : Store :=
  { Store.empty with
    fieldStats := (∅ : Table FieldStats).insert (Key.fieldStats "" field) (some (.first "" field 1.0 0)) }

def onlySample (field : String) : Snapshot := (∅ : Snapshot).insert field 1.0

theorem view?_isSome (m : ValueMode) (field : String) :
    (m.view? (some (.first "" field 1.0 0)) 1.0).isSome = true := by
  have based : ((FieldStats.first "" "" 1.0 0).average == 0.0) = false := by decide +kernel
  have same : (FieldStats.first "" field 1.0 0).average = (FieldStats.first "" "" 1.0 0).average := rfl
  have last : ((FieldStats.first "" field 1.0 0).last == 0.0) = false := by
    change ((1.0 : Float) == 0.0) = false
    decide +kernel
  cases m with
  | effective => rfl
  | average => rfl
  | deviationOnAverage => simp [ValueMode.view?,ValueMode.deviation?,same,based]
  | deviationOnLast => simp [ValueMode.view?,ValueMode.deviation?,last]

theorem toList_onlySample (field : String) : (onlySample field).toList = [(field,1.0)] := by
  have length : (onlySample field).toList.length = 1 := by
    rw [onlySample,Std.ExtTreeMap.length_toList,Std.ExtTreeMap.size_insert]
    simp
  have member : (field,(1.0 : Float)) ∈ (onlySample field).toList :=
    Std.ExtTreeMap.mem_toList_iff_getElem?_eq_some.mpr (by simp [onlySample])
  obtain ⟨row,same⟩ := List.length_eq_one_iff.mp length
  rw [same,List.mem_singleton] at member
  rw [same,member]

theorem observe_onlySample (field : String) :
    ∃ after, (onceSampled field).observe "" (onlySample field) 0 =
      (.ok (Store.addViews (onlySample field) field 1.0 (.first "" field 1.0 0)),after) := by
  have folded : ∃ next, (onceSampled field).foldSample "" field 1.0 0 =
      .ok (some (.first "" field 1.0 0),next) := by
    refine ⟨_,bind_eq_ok.mpr ⟨some (.first "" field 1.0 0),?_,rfl⟩⟩
    simp [onceSampled,Table.read?]
  obtain ⟨next,folded⟩ := folded
  refine ⟨next,?_⟩
  rw [Store.observe,toList_onlySample]
  simp only [Store.observeSamples,folded]

/-- A field with a view under the key of a condition on another field puts a value there, although
the condition's own field is not sampled. -/
theorem disturbed {c : Condition} {field : String} {m : ValueMode} (other : field ≠ c.field)
    (same : m.key field = c.key) : ∃ extended after,
      (onceSampled field).observe "" (onlySample field) 0 = (.ok extended,after) ∧
      extended[c.key]? ≠ c.view? (onceSampled field) "" (onlySample field) := by
  obtain ⟨after,done⟩ := observe_onlySample field
  refine ⟨_,after,done,?_⟩
  have absent : c.view? (onceSampled field) "" (onlySample field) = none := by
    rw [view?,onlySample,getElem?_insert_ne other]
    simp
  have present : (Store.addViews (onlySample field) field 1.0 (.first "" field 1.0 0))[m.key field]?.isSome =
      true := by
    by_cases effective : m = .effective
    · subst effective
      have kept : (Store.addViews (onlySample field) field 1.0 (.first "" field 1.0 0))[field]? =
          (onlySample field)[field]? := by
        apply Store.addViews_other
        intro n derived equal
        exact derived (ValueMode.key_injective (n := .effective) equal)
      rw [ValueMode.key,kept,onlySample]
      simp
    · rw [Store.addViews_own _ _ _ _ effective,Option.isSome_or,view?_isSome]
      rfl
  rw [absent,← same]
  intro gone
  rw [gone] at present
  cases present

end OneField

/-- A condition reads the view of its own field, in every pass over some of a list of fields and
whatever was sampled before, exactly when none of the other fields has a view under its key. -/
theorem reads_own_view_iff (c : Condition) (fields : List String) :
    (∀ (s after : Store) (target : String) (raw extended : Snapshot) (now : Nat),
      (∀ field ∈ raw.keys, field ∈ fields) → s.observe target raw now = (.ok extended,after) →
      extended[c.key]? = c.view? s target raw) ↔ c.Alone fields := by
  constructor
  · intro reads field listed other m same
    obtain ⟨extended,after,done,differs⟩ := disturbed other same
    apply differs
    refine reads _ after "" _ extended 0 ?_ done
    intro sampled member
    obtain rfl : field = sampled := by simpa [onlySample] using member
    exact listed
  · intro alone s after target raw extended now listed done
    exact alone.reads listed done

section Clash

/-- A field named like the average of another one, and a rule on that average. -/
def clashingFields : List Catalog.Edit := [
  .addField ⟨"cpu", none⟩,
  .addField ⟨"cpu-avg-val", none⟩,
  .addCondition ⟨"busy", "cpu", .greater, 80.0, .average⟩,
  .addCondition ⟨"burst", "cpu-avg-val", .greater, 95.0, .effective⟩,
  .addRule ⟨"spread-when-busy", .container, 1, .replicate, true, ["busy"]⟩,
  .addRule ⟨"note-bursts", .container, 2, .none, true, ["burst"]⟩]

/-- The sample of a field satisfies a condition on the average of another field, which was neither
sampled now nor ever before. -/
theorem sample_passes_for_average :
    let c : Condition := ⟨"busy","cpu",.greater,80.0,.average⟩
    let t : Target := .ofContainer "web-1" "web" none ⟨none,"10.0.0.1",none,none,.europe⟩
    let raw : Snapshot := (∅ : Snapshot).insert "cpu-avg-val" 90.0
    (∃ listed, (Catalog.history clashingFields).rulesFor t = .ok listed ∧ ∃ r ∈ listed, c ∈ r.conditions) ∧
    c.view? .empty t.id raw = none ∧
    ∃ extended after, Store.empty.observe t.id raw 1000 = (.ok extended,after) ∧
      c.matched? extended = some 90.0 := by
  intro c t raw
  have applies : ((Catalog.history clashingFields).rulesFor t).toOption.any
      (fun listed => listed.any (·.conditions.contains c)) = true := by decide +kernel
  have matched : (Store.empty.observe t.id raw 1000).1.toOption.bind (c.matched? ·) = some 90.0 := by
    decide +kernel
  refine ⟨?_,by decide +kernel,?_⟩
  · cases listing : (Catalog.history clashingFields).rulesFor t with
    | error err => rw [listing] at applies; cases applies
    | ok listed =>
      rw [listing] at applies
      obtain ⟨r,member,carries⟩ := List.any_eq_true.mp applies
      exact ⟨listed,rfl,r,member,List.contains_iff_mem.mp carries⟩
  · cases done : Store.empty.observe t.id raw 1000 with
    | mk result after =>
      rw [done] at matched
      cases result with
      | error err => cases matched
      | ok extended => exact ⟨extended,after,rfl,matched⟩

end Clash

end Condition

end GeoFleet
