import GeoFleet.Proofs.Engine.Dispatch

/-! The hosts among the targets. While no workload goes by the address of a host, only starting a
host adds one to them and only stopping a host takes one away. -/
namespace GeoFleet

namespace Engine

def crew (e : Engine) : Std.ExtTreeMap String Target := e.registry.filter fun _ t => t.kind.isHost

theorem fleetSize_eq (e : Engine) : e.fleetSize = e.crew.size := by
  rw [fleetSize,fleet,List.length_map,targets,← values_filter e.registry (·.kind.isHost)]
  exact length_values _

theorem crew_eq_some_iff {e : Engine} {id : String} :
    e.crew[id]? = some t ↔ e.registry[id]? = some t ∧ t.kind = .host := by
  simp [crew,Option.filter_eq_some_iff,Kind.isHost]

theorem mem_fleet_of_crew {e : Engine} {id : String} (found : e.crew[id]? = some t) : t.host ∈ e.fleet := by
  obtain ⟨registered,host⟩ := crew_eq_some_iff.mp found
  apply List.mem_map.mpr
  refine ⟨t,List.mem_filter.mpr ⟨mem_values_iff.mpr ⟨id,registered⟩,?_⟩,rfl⟩
  simp [host,Kind.isHost]

/-- Ids are told apart: hosts are registered under addresses of the inventory, workloads are not. -/
structure Tidy (e : Engine) : Prop where
  keyed : e.Keyed
  known : e.Stocked
  hosts : ∀ (id : String) (t : Target), e.registry[id]? = some t → t.kind = .host →
    t.host.publicAddress = id ∧ e.inventory[id]?.isSome = true
  workloads : ∀ (id : String) (t : Target), e.registry[id]? = some t → t.kind ≠ .host →
    e.inventory[id]? = none

theorem Tidy.of_eq {e next : Engine} (tidy : e.Tidy) (registry : next.registry = e.registry)
    (inventory : next.inventory = e.inventory) : next.Tidy := by
  constructor
  · exact tidy.keyed.of_registry_eq registry
  · exact tidy.known.of_inventory_eq inventory
  · rw [registry,inventory]; exact tidy.hosts
  · rw [registry,inventory]; exact tidy.workloads

/-- What may be taken for granted of an action that is about to be followed. -/
structure Followable (e : Engine) (t : Target) (d : Decision) (landing : Option Host) : Prop where
  workload : t.kind ≠ .host → e.inventory[t.id]? = none
  host : t.kind = .host → d = .none ∨ d = .start ∨ d = .stop
  landing : ∀ h, landing = some h → e.inventory[h.publicAddress]? = some h

/-- What is registered under the id of a workload is a workload. -/
theorem Followable.registered_workload {e : Engine} {landing : Option Host}
    (followable : e.Followable t d landing) (tidy : e.Tidy) (workload : t.kind ≠ .host)
    (registered : e.registry[t.id]? = some other) : other.kind ≠ .host := by
  intro host
  have known := (tidy.hosts t.id other registered host).2
  rw [followable.workload workload] at known
  cases known

theorem Followable.migrates {e : Engine} {landing : Option Host}
    (followable : e.Followable t .migrate landing) : t.kind ≠ .host := by
  intro host
  rcases followable.host host with idle | start | stop
  · cases idle
  · cases start
  · cases stop

theorem register_inventory {e : Engine} (known : e.inventory[t.host.publicAddress]?.isSome = true) :
    (e.register t).inventory = e.inventory := by
  apply Std.ExtTreeMap.ext_getElem?
  intro address
  change (e.inventory.insertIfNew _ _)[address]? = _
  rw [Std.ExtTreeMap.getElem?_insertIfNew,if_neg]
  rintro ⟨_,absent⟩
  exact absent (Std.ExtTreeMap.mem_iff_isSome_getElem?.mpr known)

/-- Following an action adds no host to the inventory. -/
theorem follow_inventory (e : Engine) (t : Target) (d : Decision) {landing : Option Host}
    (known : ∀ h, landing = some h → e.inventory[h.publicAddress]? = some h) :
    (e.follow t d landing).inventory = e.inventory := by
  rcases e.follow_cases t d landing with ⟨_,same⟩ | ⟨h,_,landed,_,same⟩ | ⟨h,moved,_,_,_,same⟩ | ⟨_,_,same⟩
  · rw [same,deregister_inventory]
  · rw [same]
    exact register_inventory (by rw [Target.ofHost,known h landed]; rfl)
  · rw [same]
  · rw [same]

theorem Tidy.follow {e : Engine} (tidy : e.Tidy) (followable : e.Followable t d landing) :
    (e.follow t d landing).Tidy := by
  have inventory := e.follow_inventory t d followable.landing
  refine ⟨tidy.keyed.follow t d landing,tidy.known.follow t d landing,?_,?_⟩
  all_goals
    intro id other found
    rw [inventory]
    rcases e.follow_cases t d landing with
      ⟨_,same⟩ | ⟨h,_,landed,_,same⟩ | ⟨h,moved,migrate,landed,registered,same⟩ | ⟨_,_,same⟩
    all_goals rw [same] at found
  · rw [deregister_registry] at found
    exact tidy.hosts id other (getElem?_erase_eq_some found).2
  · rcases getElem?_insert_eq_some found with ⟨rfl,rfl⟩ | ⟨_,before⟩
    · intro _
      exact ⟨rfl,by rw [Target.ofHost,followable.landing h landed]; rfl⟩
    · exact tidy.hosts id other before
  · rcases getElem?_insert_eq_some found with ⟨rfl,rfl⟩ | ⟨_,before⟩
    · intro host
      subst migrate
      have kind : moved.kind = .host := host
      exact absurd kind (followable.registered_workload tidy followable.migrates registered)
    · exact tidy.hosts id other before
  · exact tidy.hosts id other found
  · rw [deregister_registry] at found
    exact tidy.workloads id other (getElem?_erase_eq_some found).2
  · rcases getElem?_insert_eq_some found with ⟨rfl,rfl⟩ | ⟨_,before⟩
    · intro workload
      exact absurd rfl workload
    · exact tidy.workloads id other before
  · rcases getElem?_insert_eq_some found with ⟨rfl,rfl⟩ | ⟨_,before⟩
    · exact tidy.workloads t.id moved registered
    · exact tidy.workloads id other before
  · exact tidy.workloads id other found

/-- The hosts change by stopping and starting a host, and by nothing else. -/
theorem follow_crew {e : Engine} (tidy : e.Tidy) (followable : e.Followable t d landing) :
    (t.kind = .host ∧ d = .stop ∧ (e.follow t d landing).crew = e.crew.erase t.id) ∨
    (∃ h, t.kind = .host ∧ d = .start ∧ landing = some h ∧
      (e.follow t d landing).crew = e.crew.insert h.publicAddress (.ofHost h)) ∨
    ((t.kind = .host → d ≠ .stop ∧ (d = .start → landing = none)) ∧
      (e.follow t d landing).crew = e.crew) := by
  rcases e.follow_cases t d landing with
    ⟨stop,same⟩ | ⟨h,start,landed,host,same⟩ | ⟨h,moved,migrate,landed,registered,same⟩ | ⟨moving,start,same⟩
  · have erased : (e.follow t d landing).crew = e.crew.erase t.id := by
      rw [same,crew,deregister_registry]
      exact filter_erase e.registry (·.kind.isHost) t.id
    by_cases host : t.kind = .host
    · exact .inl ⟨host,stop,erased⟩
    · refine .inr (.inr ⟨fun own => absurd own host,?_⟩)
      rw [erased]
      apply Std.ExtTreeMap.ext_getElem?
      intro id
      by_cases own : t.id = id
      · subst own
        cases found : e.crew[t.id]? with
        | none => simp
        | some other =>
          obtain ⟨registered,kind⟩ := crew_eq_some_iff.mp found
          exact absurd kind (followable.registered_workload tidy host registered)
      · rw [getElem?_erase_ne own]
  · refine .inr (.inl ⟨h,host,start,landed,?_⟩)
    rw [same]
    exact filter_insert_of_true e.registry h.publicAddress (by rfl)
  · subst migrate
    have workload := followable.migrates
    have unhosted : moved.kind.isHost = false := by
      have kind := followable.registered_workload tidy workload registered
      simpa [Kind.isHost] using kind
    refine .inr (.inr ⟨fun own => absurd own workload,?_⟩)
    rw [same]
    apply filter_insert_of_false
    · exact unhosted
    · intro old present
      rw [registered] at present
      cases present
      exact unhosted
  · refine .inr (.inr ⟨fun host => ⟨moving,fun first => start first (by simp [host,Kind.isHost])⟩,?_⟩)
    rw [same]

theorem Clears.landing_new {e : Engine} (tidy : e.Tidy) (clears : e.Clears w d (some h))
    (start : d.decision = .start) (host : d.target.kind = .host) : e.crew[h.publicAddress]? = none := by
  cases found : e.crew[h.publicAddress]? with
  | none => rfl
  | some running =>
    obtain ⟨registered,kind⟩ := crew_eq_some_iff.mp found
    have own := (tidy.hosts h.publicAddress running registered kind).1
    have apart := clears.lands.fresh h rfl start host running.host (mem_fleet_of_crew found)
    exact absurd own.symm apart

/-- A host that is started is not running yet, and its address is no workload's id. -/
theorem Clears.landing_vacant {e : Engine} (tidy : e.Tidy) (clears : e.Clears w d (some h))
    (start : d.decision = .start) (host : d.target.kind = .host) : e.registry[h.publicAddress]? = none := by
  cases found : e.registry[h.publicAddress]? with
  | none => rfl
  | some t =>
    by_cases running : t.kind = .host
    · have absent := clears.landing_new tidy start host
      rw [crew_eq_some_iff.mpr ⟨found,running⟩] at absent
      cases absent
    · have absent := tidy.workloads h.publicAddress t found running
      rw [place_known tidy.known clears.place h rfl] at absent
      cases absent

theorem Judged.followable {e after : Engine} {id : String} (tidy : e.Tidy)
    (built : Catalog.Built e.catalog) (found : e.registry[id]? = some t)
    (judged : e.Judged w t d after) (clears : after.Clears w d landing) :
    after.Followable d.target d.decision landing := by
  have target : d.target = t := judged.target
  obtain ⟨stats,rfl⟩ := judged.recorded
  constructor
  · intro workload
    rw [target] at workload ⊢
    rw [tidy.keyed id t found]
    exact tidy.workloads id t found workload
  · intro host
    rw [target] at host
    exact judged.host_decision built host
  · exact place_known (tidy.of_eq rfl rfl).known clears.place

def ActsOnHost (e : Engine) (w : Surroundings) (id : String) (d : Decision) : Prop :=
  e.crew[id]?.isSome = true ∧ ∃ report, (e.evaluate w id).1 = .ok report ∧
    report.evaluation.decision = d ∧ report.evaluation.outcome.isApplied = true

structure CrewFollows (e : Engine) (w : Surroundings) (id : String) : Prop where
  started : e.ActsOnHost w id .start → ∃ h, e.crew[h.publicAddress]? = none ∧
    (e.evaluate w id).2.crew = e.crew.insert h.publicAddress (.ofHost h)
  stopped : e.ActsOnHost w id .stop → (e.evaluate w id).2.crew = e.crew.erase id
  kept : ¬e.ActsOnHost w id .start → ¬e.ActsOnHost w id .stop → (e.evaluate w id).2.crew = e.crew

theorem CrewFollows.of_quiet {e : Engine} {id : String} (same : (e.evaluate w id).2.crew = e.crew)
    (never : ∀ report, (e.evaluate w id).1 = .ok report → report.evaluation.outcome.isApplied = false) :
    e.CrewFollows w id := by
  have idle : ∀ d, ¬e.ActsOnHost w id d := by
    rintro d ⟨_,report,done,_,applied⟩
    rw [never report done] at applied
    cases applied
  exact ⟨fun acts => absurd acts (idle _),fun acts => absurd acts (idle _),fun _ _ => same⟩

theorem actsOnHost_iff {e : Engine} {id : String} (found : e.registry[id]? = some t)
    (done : (e.evaluate w id).1 = .ok report) (applied : report.evaluation.outcome.isApplied = true) :
    e.ActsOnHost w id d ↔ report.evaluation.decision = d ∧ t.kind = .host := by
  constructor
  · rintro ⟨running,other,same,decides,_⟩
    rw [done] at same
    cases same
    obtain ⟨target,present⟩ := Option.isSome_iff_exists.mp running
    obtain ⟨registered,host⟩ := crew_eq_some_iff.mp present
    rw [found] at registered
    cases registered
    exact ⟨decides,host⟩
  · rintro ⟨decides,host⟩
    refine ⟨?_,report,done,decides,applied⟩
    exact Option.isSome_iff_exists.mpr ⟨t,crew_eq_some_iff.mpr ⟨found,host⟩⟩

theorem crew_follows {e : Engine} (tidy : e.Tidy) (built : Catalog.Built e.catalog) (w : Surroundings)
    (id : String) : e.CrewFollows w id := by
  rcases e.evaluate_cases w id with ⟨never,store,same⟩ | ⟨t,d,after,landing,found,judged,clears,result⟩
  · exact .of_quiet (by rw [same]; rfl) never
  · have target : d.target = t := judged.target
    have own : d.target.id = id := by rw [target]; exact tidy.keyed id t found
    have acts : ∀ decision, e.ActsOnHost w id decision ↔ d.decision = decision ∧ d.target.kind = .host := by
      intro decision
      rw [target]
      exact actsOnHost_iff found (by rw [result]) rfl
    have followable := judged.followable tidy built found clears
    obtain ⟨stats,recorded⟩ := judged.recorded
    have tidy_after : after.Tidy := tidy.of_eq (by rw [recorded]) (by rw [recorded])
    have crew_same : after.crew = e.crew := by rw [recorded]; rfl
    have settled : (after.settle (d.action landing) d.now).Tidy := tidy_after.of_eq rfl rfl
    have reached : (e.evaluate w id).2 =
        (after.settle (d.action landing) d.now).follow d.target d.decision landing := by rw [result]; rfl
    rcases follow_crew settled ⟨followable.workload,followable.host,followable.landing⟩ with
      ⟨host,stop,changed⟩ | ⟨h,host,start,landed,changed⟩ | ⟨other,changed⟩
    all_goals rw [← reached] at changed
    · constructor
      · intro begins
        have start := ((acts _).mp begins).1
        rw [stop] at start
        cases start
      · intro _
        rw [changed,own]
        exact congrArg (·.erase id) crew_same
      · intro _ never
        exact absurd ((acts _).mpr ⟨stop,host⟩) never
    · subst landed
      constructor
      · intro _
        refine ⟨h,?_,changed.trans (congrArg (·.insert h.publicAddress (.ofHost h)) crew_same)⟩
        rw [← crew_same]
        exact clears.landing_new tidy_after start host
      · intro ends
        have stop := ((acts _).mp ends).1
        rw [start] at stop
        cases stop
      · intro never _
        exact absurd ((acts _).mpr ⟨start,host⟩) never
    · constructor
      · intro begins
        obtain ⟨start,host⟩ := (acts _).mp begins
        obtain rfl := (other host).2 start
        -- A cleared start has found a host to land on.
        have absent := clears.lands.absent.mp rfl
        change d.decision = .stop at absent
        rw [start] at absent
        cases absent
      · intro ends
        obtain ⟨stop,host⟩ := (acts _).mp ends
        exact absurd stop (other host).1
      · intro _ _
        exact changed.trans crew_same

structure Hosted (entries : List Config.HostEntry) (e : Engine) : Prop extends Tidy e where
  only : ∀ (id : String) (t : Target), e.registry[id]? = some t → t.kind = .host
  listed : ∀ (address : String) (h : Host), e.inventory[address]? = some h →
    ∃ entry ∈ entries, entry.publicAddress = address

theorem addHost_inventory (e : Engine) (h : Host) (active : Bool) :
    (e.addHost h active).inventory = e.inventory.insert h.publicAddress h := by
  cases active with
  | false => rfl
  | true =>
    have present : (e.inventory.insert h.publicAddress h)[h.publicAddress]?.isSome = true := by simp
    exact register_inventory (e := { e with inventory := e.inventory.insert h.publicAddress h })
      (t := .ofHost h) present

theorem addHost_registry {e : Engine} {id : String} (found : (e.addHost h active).registry[id]? = some t) :
    (id = h.publicAddress ∧ t = .ofHost h) ∨ e.registry[id]? = some t := by
  cases active with
  | false => exact .inr found
  | true =>
    rcases getElem?_insert_eq_some found with ⟨own,same⟩ | ⟨_,before⟩
    · exact .inl ⟨own.symm,same.symm⟩
    · exact .inr before

theorem Hosted.addHost {e : Engine} (hosted : Hosted entries e) (entry : Config.HostEntry)
    (member : entry ∈ entries) (active : Bool) : Hosted entries (e.addHost entry.host active) := by
  have only : ∀ (id : String) (t : Target), (e.addHost entry.host active).registry[id]? = some t →
      t.kind = .host := by
    intro id t found
    rcases addHost_registry found with ⟨_,rfl⟩ | before
    · rfl
    · exact hosted.only id t before
  refine ⟨⟨hosted.keyed.addHost entry.host active,hosted.known.addHost entry.host active,?_,?_⟩,only,?_⟩
  · intro id t found host
    rw [addHost_inventory]
    rcases addHost_registry found with ⟨rfl,rfl⟩ | before
    · exact ⟨rfl,by simp⟩
    · obtain ⟨own,present⟩ := hosted.hosts id t before host
      refine ⟨own,?_⟩
      by_cases same : entry.host.publicAddress = id
      · simp [same]
      · rw [getElem?_insert_ne same]; exact present
  · intro id t found workload
    exact absurd (only id t found) workload
  · intro address h found
    rw [addHost_inventory] at found
    rcases getElem?_insert_eq_some found with ⟨own,_⟩ | ⟨_,before⟩
    · exact ⟨entry,member,own⟩
    · exact hosted.listed address h before

/-- A container registers on a known host, which adds no host. -/
theorem addContainer_ok {e next : Engine} (stocked : e.Stocked) (added : e.addContainer entry = .ok next) :
    next.inventory = e.inventory ∧ ∃ h, e.inventory[entry.host]? = some h ∧
      next = e.register (.ofContainer entry.id entry.service entry.app h) := by
  unfold Engine.addContainer at added
  split at added
  · cases added
  · rename_i h known
    cases added
    refine ⟨?_,h,known,rfl⟩
    apply register_inventory
    rw [Target.ofContainer,stocked entry.host h known,known]
    rfl

theorem Tidy.addContainer {e next : Engine} (tidy : e.Tidy) (apart : e.inventory[entry.id]? = none)
    (added : e.addContainer entry = .ok next) : next.Tidy ∧ next.inventory = e.inventory := by
  obtain ⟨inventory,h,known,rfl⟩ := addContainer_ok tidy.known added
  refine ⟨⟨tidy.keyed.register _,tidy.known.register _,?_,?_⟩,inventory⟩
  all_goals
    intro id t found
    rw [inventory]
    rcases getElem?_insert_eq_some found with ⟨own,rfl⟩ | ⟨_,before⟩
  · intro host; cases host
  · exact tidy.hosts id t before
  · intro _; rw [← own]; exact apart
  · exact tidy.workloads id t before

/-- Building an engine registers hosts under addresses of the inventory, and then workloads under ids
that are none. -/
theorem ofConfig_tidy {c : Config} {store : Store} (built : ofConfig c store = .ok e)
    (distinct : ∀ entry ∈ c.containers, ∀ h ∈ c.hosts, entry.id ≠ h.publicAddress) : e.Tidy := by
  obtain ⟨catalog,_,rest⟩ := bind_eq_ok.mp built
  obtain ⟨settings,_,rest⟩ := bind_eq_ok.mp rest
  obtain ⟨withTargets,added,same⟩ := bind_eq_ok.mp rest
  cases same
  have empty : Hosted c.hosts (new catalog settings c.policy (.ofConfig c.placement settings.fetchTimeout) store) := by
    refine ⟨⟨keyed_new _ _ _ _ _,?_,?_,?_⟩,?_,?_⟩
    all_goals intro id x found; simp [new] at found
  have hosted : Hosted c.hosts (c.hosts.foldl (fun e h => e.addHost h.host !h.standby)
      (new catalog settings c.policy (.ofConfig c.placement settings.fetchTimeout) store)) := by
    apply List.foldlRecOn
    · exact empty
    · intro e hosted entry member
      exact hosted.addHost entry member _
  have kept : withTargets.Tidy ∧ ∀ entry ∈ c.containers, withTargets.inventory[entry.id]? = none := by
    apply foldlM_invariant (fun e => e.Tidy ∧ ∀ entry ∈ c.containers, e.inventory[entry.id]? = none)
      _ _ added
    · rintro e entry member next ⟨tidy,apart⟩ step
      obtain ⟨tidy,inventory⟩ := tidy.addContainer (apart entry member) step
      exact ⟨tidy,inventory ▸ apart⟩
    · refine ⟨hosted.toTidy,?_⟩
      intro entry member
      by_contra taken
      obtain ⟨h,known⟩ := Option.ne_none_iff_exists'.mp taken
      obtain ⟨host,present,address⟩ := hosted.listed entry.id h known
      exact distinct entry member host present address.symm
  exact kept.1.of_eq rfl rfl

end Engine

end GeoFleet
