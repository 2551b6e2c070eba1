import GeoFleet.Proofs.Daemon.Stages
import GeoFleet.Proofs.Engine.Silence

/-! Runs of a daemon without metrics. A run that reaches its pass adds one record to each of its targets in
the store, and a run that fails adds none, wherever it fails. So after any number of runs, whatever their
configurations, a record tells how many of them had the target. -/
namespace GeoFleet

/-- The records in the store at a place, which are none where there is no store. -/
def Disk.activities (d : Disk) (place : String) : Activities := ((d.storeAt? place).getD .empty).activities

theorem Disk.activities_of_storeAt? {d : Disk} (found : d.storeAt? place = some s) :
    d.activities place = s.activities := by
  rw [activities,found]; rfl

theorem Disk.activities_congr {d next : Disk} (same : next.storeAt? place = d.storeAt? place) :
    next.activities place = d.activities place := by
  rw [activities,activities,same]

theorem Engine.ofConfig_sound {c : Config} {store : Store} {e : Engine} (built : ofConfig c store = .ok e) :
    e.store = store ∧ e.Keyed ∧ ∀ t, ∃ rules, e.catalog.rulesFor t = .ok rules := by
  obtain ⟨catalog,settings,admission,moves,_,reached⟩ := Session.ofConfig_reached built
  have keyed := Session.run_keyed moves (keyed_new catalog settings c.policy admission store)
  rw [reached] at keyed
  have own := built.symm.trans (ofConfig_withStore built store)
  refine ⟨?_,keyed,fun t => (Session.ofConfig_built built).whole.lists t⟩
  rw [Except.ok.inj own]
  rfl

namespace Daemon

variable {o : Options} {d : Disk}

/-- A run fails and leaves all records, or it makes its pass over the engine of its configuration. -/
theorem run_cases (textless : d.Textless o.storePlace) (now : Nat) :
    (run o now d).2.Textless o.storePlace ∧
    ((∃ failure, (run o now d).1.failure = some failure ∧
      (run o now d).2.activities o.storePlace = d.activities o.storePlace ∧
      ∀ store, d.storeAt? o.storePlace = some store →
        ∃ store, (run o now d).2.storeAt? o.storePlace = some store) ∨
    ∃ c e, (run o now d).1.failure = none ∧ Config.ofFile d o.config = .ok c ∧
      Engine.ofConfig c ((d.storeAt? o.storePlace).getD .empty) = .ok e ∧
      (run o now d).2.storeAt? o.storePlace =
        some (e.evaluateAll ⟨.silent,now,fun _ => .ok ()⟩).2.store) := by
  rcases run_stages o now d with ⟨failure,failed,grows⟩ | ⟨c,interval,store,next,opened,result⟩
  · obtain ⟨textless',kept⟩ := textless.grows grows
    exact ⟨textless',.inl ⟨failure,failed,Disk.activities_congr kept,fun store known => ⟨store,kept.trans known⟩⟩⟩
  · obtain ⟨own,present⟩ := opened_store textless opened
    rcases result with ⟨failure,failed,same⟩ | ⟨e,built,done,same⟩
    · rw [same]
      have held : next.storeAt? o.storePlace = some store := Disk.storeAt?_of_store? present
      refine ⟨Disk.textless_of_store? present,.inl ⟨failure,failed,?_,fun _ _ => ⟨store,held⟩⟩⟩
      rw [Disk.activities_of_storeAt? held,own,Disk.activities]
    · rw [same]
      obtain ⟨_,saved⟩ := Disk.saveStore_found present (e.evaluateAll ⟨.silent,now,fun _ => .ok ()⟩).2.store
      exact ⟨Disk.textless_of_store? saved,
        .inr ⟨c,e,done,(openStore_ok_iff.mp opened).1,own ▸ built,Disk.storeAt?_of_store? saved⟩⟩

end Daemon

namespace Config

def kindAt? (c : Config) (id : String) : Option Kind :=
  if c.containers.any (·.id = id) then some .container
  else if c.hosts.any fun h => !h.standby && h.publicAddress = id then some .host
  else none

theorem targetAt?_summary {c : Config} (housed : ∀ k ∈ c.containers, ∃ h, c.hostAt? k.host = some h)
    (id : String) : (c.targetAt? id).map (fun t => (t.id,t.kind)) = (c.kindAt? id).map (id,·) := by
  unfold targetAt? kindAt?
  -- Containers are registered after the hosts, so a container of the name decides the kind.
  cases last : c.containers.reverse.find? (·.id = id) with
  | some k =>
    have listed := List.mem_reverse.mp (List.mem_of_find?_eq_some last)
    have named : k.id = id := by simpa using List.find?_some last
    obtain ⟨h,known⟩ := housed k listed
    have present : c.containers.any (·.id = id) = true :=
      List.any_eq_true.mpr ⟨k,listed,by simpa using named⟩
    simp [known,present,Target.ofContainer,named]
  | none =>
    have absent : c.containers.any (·.id = id) = false := by
      rw [List.any_eq_false]
      intro k listed
      exact List.find?_eq_none.mp last k (List.mem_reverse.mpr listed)
    cases first : c.hosts.reverse.find? fun h => !h.standby && h.publicAddress = id with
    | some h =>
      have listed := List.mem_reverse.mp (List.mem_of_find?_eq_some first)
      have running := List.find?_some first
      have present : (c.hosts.any fun h => !h.standby && h.publicAddress = id) = true :=
        List.any_eq_true.mpr ⟨h,listed,running⟩
      have named : h.publicAddress = id := by simpa using (Bool.and_eq_true_iff.mp running).2
      simp [absent,present,Target.ofHost,Config.HostEntry.host,named]
    | none =>
      have nobody : (c.hosts.any fun h => !h.standby && h.publicAddress = id) = false := by
        rw [List.any_eq_false]
        intro h listed
        exact List.find?_eq_none.mp first h (List.mem_reverse.mpr listed)
      simp [absent,nobody]

end Config

namespace Daemon

variable {o : Options} {d : Disk}

def noted (id : String) (previous : Option Activity) (pass : Config × Nat) : Option Activity :=
  ((pass.1.kindAt? id).map fun kind =>
    ⟨id,kind,.none,Activity.nextCount previous .none,pass.2⟩).or previous

def sightings (id : String) (passes : List (Config × Nat)) : List (Kind × Nat) :=
  passes.filterMap fun pass => (pass.1.kindAt? id).map fun kind => (kind,pass.2)

/-- The record of a target after some passes: how many had it, as far as counts go, and the last of them. -/
def tally (id : String) (passes : List (Config × Nat)) : Option Activity :=
  (sightings id passes).getLast?.map fun last =>
    ⟨id,last.1,.none,min (sightings id passes).length Activity.countLimit,last.2⟩

theorem tally_concat (id : String) (passes : List (Config × Nat)) (pass : Config × Nat) :
    tally id (passes ++ [pass]) = noted id (tally id passes) pass := by
  cases found : pass.1.kindAt? id with
  | none => simp [tally,sightings,noted,found]
  | some kind =>
    have more : sightings id (passes ++ [pass]) = sightings id passes ++ [(kind,pass.2)] := by
      simp [sightings,found]
    have count : Activity.nextCount (tally id passes) .none =
        min ((sightings id passes).length + 1) Activity.countLimit := by
      unfold tally
      cases last : (sightings id passes).getLast? with
      | none =>
        rw [List.getLast?_eq_none_iff] at last
        simp [last,Activity.nextCount,Activity.countLimit]
      | some sighting =>
        simp only [Option.map_some,Activity.nextCount,if_true]
        omega
    rw [tally,more]
    simp [noted,found,count]

theorem foldl_noted (id : String) (passes : List (Config × Nat)) :
    passes.foldl (noted id) none = tally id passes := by
  induction passes using List.reverseRecOn with
  | nil => rfl
  | append_singleton passes pass ih => rw [List.foldl_append,List.foldl_cons,List.foldl_nil,ih,tally_concat]

/-- What a run does to the records: nothing, or it notes its pass in each of them. -/
theorem run_records (textless : d.Textless o.storePlace) (now : Nat) :
    (∃ failure, (run o now d).1.failure = some failure ∧
      (run o now d).2.activities o.storePlace = d.activities o.storePlace ∧
      ∀ store, d.storeAt? o.storePlace = some store →
        ∃ store, (run o now d).2.storeAt? o.storePlace = some store) ∨
    ∃ c, (run o now d).1.failure = none ∧ Config.ofFile d o.config = .ok c ∧
      (∃ store, (run o now d).2.storeAt? o.storePlace = some store) ∧
      ∀ id : String, ((run o now d).2.activities o.storePlace)[id]? =
        noted id (d.activities o.storePlace)[id]? (c,now) := by
  rcases (run_cases textless now).2 with failed | ⟨c,e,done,parsed,built,saved⟩
  · exact .inl failed
  · obtain ⟨own,keyed,lists⟩ := Engine.ofConfig_sound built
    obtain ⟨registry,inventory,known⟩ := Engine.ofConfig_getElem? built
    have summary := c.targetAt?_summary fun k listed => (inventory k.host) ▸ known k listed
    obtain ⟨store,passed,records⟩ :=
      Engine.evaluateAll_silent (w := ⟨.silent,now,fun _ => .ok ()⟩) keyed lists rfl
    refine .inr ⟨c,done,parsed,⟨_,saved⟩,?_⟩
    intro id
    rw [Disk.activities_of_storeAt? saved,passed]
    change store.activities[id]? = _
    rw [records id,own,registry id,noted]
    have rested := congrArg (Option.map fun named : String × Kind => (⟨named.1,named.2,.none,
      Activity.nextCount (d.activities o.storePlace)[id]? .none,now⟩ : Activity)) (summary id)
    rw [Option.map_map,Option.map_map] at rested
    exact congrArg (fun found : Option Activity => found.or (d.activities o.storePlace)[id]?) rested

/-- A run, and the files that are written before it. -/
structure Launch where
  texts : List (String × String)
  options : Options
  now : Nat

namespace Launch

def prepare (l : Launch) (d : Disk) : Disk := d.writeAll l.texts

def go (l : Launch) (d : Disk) : Run × Disk := run l.options l.now (l.prepare d)

def after (launches : List Launch) (d : Disk) : Disk := launches.foldl (fun d l => (l.go d).2) d

def pass? (l : Launch) (d : Disk) : Option (Config × Nat) :=
  match (l.go d).1.failure with
  | some _ => none
  | none => (Config.ofFile (l.prepare d) l.options.config).toOption.map (·,l.now)

def passes : List Launch → Disk → List (Config × Nat)
  | [], _ => []
  | l :: launches, d => (l.pass? d).toList ++ passes launches (l.go d).2

/-- The store of a run is at the place of that of others, and no file is written there. -/
structure Shares (l : Launch) (place : String) : Prop where
  shared : l.options.storePlace = place
  elsewhere : ∀ file ∈ l.texts, Disk.goalKey file.1 ≠ place

variable {l : Launch} {place : String}

/-- A run either fails and leaves all records, or its pass is noted in each of them. -/
theorem Shares.go (shares : l.Shares place) (textless : d.Textless place) :
    (l.go d).2.Textless place ∧
    ((l.go d).1.failure ≠ none ∧ l.pass? d = none ∧ (l.go d).2.activities place = d.activities place ∧
      (∀ store, d.storeAt? place = some store → ∃ store, (l.go d).2.storeAt? place = some store) ∨
    ∃ pass, (l.go d).1.failure = none ∧ l.pass? d = some pass ∧
      (∃ store, (l.go d).2.storeAt? place = some store) ∧
      ∀ id : String, ((l.go d).2.activities place)[id]? = noted id (d.activities place)[id]? pass) := by
  obtain ⟨ready,kept⟩ := textless.writeAll shares.elsewhere
  have records := Disk.activities_congr kept
  obtain rfl := shares.shared
  refine ⟨(run_cases ready l.now).1,?_⟩
  rcases run_records ready l.now with ⟨failure,failed,same,stays⟩ | ⟨c,done,parsed,saved,noted⟩
  · have failed : (l.go d).1.failure = some failure := failed
    refine .inl ⟨by rw [failed]; simp,by rw [pass?,failed],same.trans records,?_⟩
    intro store known
    exact stays store (kept.trans known)
  · have done : (l.go d).1.failure = none := done
    have parsed : Config.ofFile (l.prepare d) l.options.config = .ok c := parsed
    refine .inr ⟨(c,l.now),done,?_,saved,?_⟩
    · rw [pass?,done,parsed]; rfl
    · intro id
      exact (noted id).trans (congrArg (fun records : Activities => Daemon.noted id records[id]? (c,l.now)) records)

theorem after_records {launches : List Launch} (shared : ∀ l ∈ launches, l.Shares place)
    (textless : d.Textless place) :
    (after launches d).Textless place ∧
    (∀ id : String, ((after launches d).activities place)[id]? =
      (passes launches d).foldl (noted id) (d.activities place)[id]?) ∧
    ((∃ store, d.storeAt? place = some store) ∨ passes launches d ≠ [] →
      ∃ store, (after launches d).storeAt? place = some store) := by
  induction launches generalizing d with
  | nil => exact ⟨textless,fun id => rfl,fun known => known.resolve_right (by simp [passes])⟩
  | cons l launches ih =>
    obtain ⟨textless',result⟩ := (shared l List.mem_cons_self).go textless
    obtain ⟨textless'',records,present⟩ := ih (fun l member => shared l (List.mem_cons_of_mem _ member)) textless'
    refine ⟨textless'',?_,?_⟩
    · intro id
      rcases result with ⟨_,none_made,same,_⟩ | ⟨pass,_,made,_,noted⟩
      · rw [passes,none_made,← same]
        exact records id
      · rw [passes,made,Option.toList_some,List.cons_append,List.nil_append,List.foldl_cons,← noted id]
        exact records id
    · intro known
      apply present
      rcases result with ⟨_,none_made,_,stays⟩ | ⟨pass,_,_,saved,_⟩
      · rw [passes,none_made] at known
        exact known.imp_left fun ⟨store,found⟩ => stays store found
      · exact .inl saved

/-- Where no store was, the records tell nothing but the passes. -/
theorem after_tally {launches : List Launch} (fresh : d[place]? = none)
    (shared : ∀ l ∈ launches, l.Shares place) (id : String) :
    ((after launches d).activities place)[id]? = tally id (passes launches d) := by
  have none_yet : d.storeAt? place = none := by rw [Disk.storeAt?,fresh]
  have records := (after_records shared (Disk.textless_of_none fresh)).2.1
  rw [records id,← foldl_noted,Disk.activities,none_yet]
  simp [Store.empty]

/-- A run that makes its pass makes it again, if no file is written in between. -/
theorem Shares.pass?_again (shares : l.Shares place) (textless : d.Textless place)
    (unwritten : l.texts = []) {pass : Config × Nat} (made : l.pass? d = some pass) :
    l.pass? (l.go d).2 = some pass := by
  obtain rfl := shares.shared
  have settled : ∀ d : Disk, l.prepare d = d := fun d => by rw [prepare,unwritten]; rfl
  have go_eq : ∀ d : Disk, l.go d = run l.options l.now d := fun d => by rw [Launch.go,settled]
  cases ended : (l.go d).1.failure with
  | some failure => rw [pass?,ended] at made; cases made
  | none =>
    rw [go_eq] at ended
    obtain ⟨ended',reparsed⟩ := run_again textless ended l.now
    rw [← made]
    simp only [pass?,settled,go_eq,ended,ended',reparsed]

theorem passes_replicate (shares : l.Shares place) (textless : d.Textless place)
    (unwritten : l.texts = []) {pass : Config × Nat} (made : l.pass? d = some pass) (n : Nat) :
    passes (List.replicate n l) d = List.replicate n pass := by
  induction n generalizing d with
  | zero => rfl
  | succ n ih =>
    have later := ih (shares.go textless).1 (shares.pass?_again textless unwritten made)
    rw [List.replicate_succ,List.replicate_succ,passes,made,later]
    rfl

/-- A target that is there in each of some equal runs is counted as far as counts go. -/
theorem replicate_counts (fresh : d[place]? = none)
    (shares : l.Shares place) (unwritten : l.texts = []) {pass : Config × Nat} (made : l.pass? d = some pass)
    {id : String} (listed : pass.1.kindAt? id = some kind) {n : Nat} (some_run : 0 < n) :
    (sightings id (passes (List.replicate n l) d)).length = n ∧
    ((after (List.replicate n l) d).activities place)[id]? =
      some ⟨id,kind,.none,min n Activity.countLimit,pass.2⟩ := by
  have shared : ∀ other ∈ List.replicate n l, other.Shares place :=
    fun other member => List.eq_of_mem_replicate member ▸ shares
  have seen : sightings id (passes (List.replicate n l) d) = List.replicate n (kind,pass.2) := by
    rw [passes_replicate shares (Disk.textless_of_none fresh) unwritten made,sightings,List.filterMap_replicate]
    simp [listed]
  refine ⟨by rw [seen,List.length_replicate],?_⟩
  rw [after_tally fresh shared,tally,seen,List.length_replicate,List.getLast?_replicate,if_neg some_run.ne']
  rfl

end Launch

/-- Runs on one data folder without a store, however each of them spells it, each with a configuration of
its own and without metrics: afterwards the records are those of the targets of all runs that reached
their pass. A record has the kind and the time of the last of these that had the target, no decision, and
as its count how many had it, as far as counts go. A run that fails leaves all records as they were. -/
theorem runs_are_counted {place : String} {launches : List Launch} {d : Disk}
    (fresh : d[place]? = none) (shared : ∀ l ∈ launches, l.Shares place) :
    (∀ id : String, ((Launch.after launches d).activities place)[id]? = tally id (Launch.passes launches d)) ∧
    (Launch.passes launches d ≠ [] → ∃ store, (Launch.after launches d).storeAt? place = some store) ∧
    ∀ before l rest, launches = before ++ l :: rest → (l.go (Launch.after before d)).1.failure ≠ none →
      (Launch.after (before ++ [l]) d).activities place = (Launch.after before d).activities place := by
  have textless := Disk.textless_of_none fresh
  obtain ⟨_,_,present⟩ := Launch.after_records shared textless
  refine ⟨Launch.after_tally fresh shared,fun reached => present (.inr reached),?_⟩
  rintro before l rest rfl failed
  have earlier : ∀ l ∈ before, l.Shares place := fun l member => shared l (List.mem_append_left _ member)
  have readied := (Launch.after_records earlier textless).1
  rw [Launch.after,List.foldl_append]
  rcases ((shared l (by simp)).go readied).2 with ⟨_,_,same,_⟩ | ⟨_,done,_⟩
  · exact same
  · exact absurd done failed

section Sample

/-- The configuration is written anew before each run, the second time with a container on a host that is
not listed. The third run spells the data folder in another way. -/
def rewrites : List Launch := [
  ⟨[("geoscale.toml",Command.fleetText "10.0.0.1")],Command.fleetOptions,1000⟩,
  ⟨[("geoscale.toml",Command.fleetText "10.0.0.9")],Command.fleetOptions,2000⟩,
  ⟨[("geoscale.toml",Command.fleetText "10.0.0.1")],{ Command.fleetOptions with dataFolder := "./data/" },3000⟩]

theorem container_is_seen_twice :
    ((Launch.after rewrites ∅).activities Command.fleetOptions.storePlace)["web-1"]? =
      some ⟨"web-1",.container,.none,2,3000⟩ := by
  have elsewhere : Disk.goalKey "geoscale.toml" ≠ Command.fleetOptions.storePlace := by decide +kernel
  have shared : ∀ l ∈ rewrites, l.Shares Command.fleetOptions.storePlace := by
    intro l member
    simp only [rewrites,List.mem_cons,List.not_mem_nil,or_false] at member
    rcases member with rfl | rfl | rfl
    all_goals exact ⟨by decide +kernel,by simpa using elsewhere⟩
  have fresh : (∅ : Disk)[Command.fleetOptions.storePlace]? = none := by simp
  rw [(runs_are_counted fresh shared).1 "web-1"]
  decide +kernel

def repetition : Launch := ⟨[],Command.fleetOptions,1000⟩

/-- A count stays where it is once it has reached the limit, while the runs go on. -/
theorem count_stops_growing :
    let launches := List.replicate (Activity.countLimit + 1) repetition
    let d := Command.fleetDisk "10.0.0.1"
    let place := Command.fleetOptions.storePlace
    d[place]? = none ∧ (∀ l ∈ launches, l.Shares place) ∧
    (∀ pass ∈ Launch.passes launches d,
      (pass.1.hosts.map (·.publicAddress) ++ pass.1.containers.map (·.id)).Nodup) ∧
    (sightings "web-1" (Launch.passes launches d)).length = Activity.countLimit + 1 ∧
    ((Launch.after launches d).activities place)["web-1"]? =
      some ⟨"web-1",.container,.none,Activity.countLimit,1000⟩ := by
  have fresh : (Command.fleetDisk "10.0.0.1")[Command.fleetOptions.storePlace]? = none :=
    Option.isNone_iff_eq_none.mp (by decide +kernel)
  have shares : repetition.Shares Command.fleetOptions.storePlace := ⟨rfl,by simp [repetition]⟩
  -- One pass is evaluated; all others repeat it.
  have pass_ok : (repetition.pass? (Command.fleetDisk "10.0.0.1")).any (fun pass =>
      decide ((pass.1.hosts.map (·.publicAddress) ++ pass.1.containers.map (·.id)).Nodup ∧
        pass.1.kindAt? "web-1" = some .container ∧ pass.2 = 1000)) = true := by decide +kernel
  cases made : repetition.pass? (Command.fleetDisk "10.0.0.1") with
  | none => rw [made] at pass_ok; cases pass_ok
  | some pass =>
    rw [made] at pass_ok
    obtain ⟨distinct,kind,time⟩ := of_decide_eq_true pass_ok
    have passes := Launch.passes_replicate shares (Disk.textless_of_none fresh) rfl made (Activity.countLimit + 1)
    obtain ⟨seen,counted⟩ := Launch.replicate_counts fresh shares rfl made kind Activity.countLimit.succ_pos
    refine ⟨fresh,fun l member => List.eq_of_mem_replicate member ▸ shares,?_,seen,?_⟩
    · intro other member
      rw [passes] at member
      exact List.eq_of_mem_replicate member ▸ distinct
    · rw [counted,Nat.min_eq_right (Nat.le_succ _),time]

end Sample

end Daemon

end GeoFleet
