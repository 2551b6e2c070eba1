import GeoFleet.Command.Execution
import GeoFleet.Proofs.Engine.Configured

/-! What a configuration has to be for the commands to accept it. Checking it and running a daemon
on it ask for the same catalog and the same durations. Only running one also asks that every
container runs on a host of the configuration; a check calls a configuration valid without it. -/
namespace GeoFleet

namespace Config

structure Sound (c : Config) : Prop where
  catalog : ∃ catalog, Catalog.load c = .ok catalog
  interval : (Duration.interval? c.monitoring.interval).isSome = true
  fetchTimeout : (Duration.interval? c.monitoring.fetchTimeout).isSome = true

def Housed (c : Config) : Prop := ∀ k ∈ c.containers, ∃ h ∈ c.hosts, h.publicAddress = k.host

instance (c : Config) : Decidable c.Housed :=
  inferInstanceAs (Decidable (∀ k ∈ c.containers, ∃ h ∈ c.hosts, h.publicAddress = k.host))

theorem checkDuration_ok_iff (key text : String) :
    checkDuration key text = .ok () ↔ (Duration.interval? text).isSome = true := by
  unfold checkDuration
  split
  · rename_i valid; simp [valid]
  · rename_i invalid; simp [invalid]

theorem check_ok_iff (c : Config) (path : String) : (∃ lines, c.check path = .ok lines) ↔ c.Sound := by
  constructor
  · rintro ⟨lines,done⟩
    obtain ⟨catalog,loaded,rest⟩ := bind_eq_ok.mp done
    obtain ⟨_,durations,_⟩ := bind_eq_ok.mp rest
    obtain ⟨_,interval,timeout⟩ := bind_eq_ok.mp durations
    exact ⟨⟨catalog,mapError_eq_ok.mp loaded⟩,(checkDuration_ok_iff _ _).mp interval,
      (checkDuration_ok_iff _ _).mp timeout⟩
  · rintro ⟨⟨catalog,loaded⟩,interval,timeout⟩
    have durations : c.checkDurations = .ok () :=
      bind_eq_ok.mpr ⟨(),(checkDuration_ok_iff _ _).mpr interval,(checkDuration_ok_iff _ _).mpr timeout⟩
    exact ⟨c.report path catalog,bind_eq_ok.mpr ⟨catalog,mapError_eq_ok.mpr loaded,
      bind_eq_ok.mpr ⟨(),durations,rfl⟩⟩⟩

end Config

namespace Engine

theorem addHosts_inventory (hosts : List Config.HostEntry) (e : Engine) (address : String) :
    (hosts.foldl (fun e h => e.addHost h.host !h.standby) e).inventory[address]?.isSome = true ↔
      e.inventory[address]?.isSome = true ∨ ∃ h ∈ hosts, h.publicAddress = address := by
  rw [addHosts_known,Option.isSome_or,Option.isSome_map,Bool.or_eq_true,List.find?_isSome,or_comm]
  simp

/-- Containers are registered up to the first whose host is not known. -/
theorem addContainers_cases {e : Engine} (stocked : e.Stocked) (containers : List Config.ContainerEntry) :
    (∃ final, containers.foldlM addContainer e = .ok final ∧
      ∀ k ∈ containers, e.inventory[k.host]?.isSome = true) ∨
    ∃ k ∈ containers, containers.foldlM addContainer e = .error (.unknownHost k.id k.host) ∧
      e.inventory[k.host]? = none := by
  induction containers generalizing e with
  | nil => exact .inl ⟨e,rfl,fun _ member => by cases member⟩
  | cons k containers ih =>
    rw [List.foldlM_cons]
    cases known : e.inventory[k.host]? with
    | none =>
      refine .inr ⟨k,List.mem_cons_self,?_,known⟩
      simp only [addContainer,known]
      rfl
    | some h =>
      have added : e.addContainer k = .ok (e.register (.ofContainer k.id k.service k.app h)) := by
        simp only [addContainer,known]
      have inventory := (addContainer_ok stocked added).1
      rw [added]
      rcases ih (stocked.register (.ofContainer k.id k.service k.app h)) with
        ⟨final,done,housed⟩ | ⟨other,member,failed,unknown⟩
      · refine .inl ⟨final,done,?_⟩
        intro other member
        rcases List.mem_cons.mp member with rfl | later
        · rw [known]; rfl
        · rw [← inventory]; exact housed other later
      · exact .inr ⟨other,List.mem_cons_of_mem _ member,failed,inventory ▸ unknown⟩

/-- Where the catalog loads and the timeout is valid, building an engine is a matter of the hosts
that containers run on. -/
theorem ofConfig_cases {c : Config} {catalog : Catalog} (loaded : Catalog.load c = .ok catalog)
    (timeout : (Duration.interval? c.monitoring.fetchTimeout).isSome = true) (store : Store) :
    ((∃ e, ofConfig c store = .ok e) ∧ c.Housed) ∨
    ∃ k ∈ c.containers, ofConfig c store = .error (.unknownHost k.id k.host) ∧
      ∀ h ∈ c.hosts, h.publicAddress ≠ k.host := by
  obtain ⟨duration,parsed⟩ := Option.isSome_iff_exists.mp timeout
  let settings : Settings :=
    ⟨duration,c.monitoring.concurrency,c.placement.defaultFootprint,Settings.footprintsOf c.services⟩
  let hosted := c.hosts.foldl (fun e h => e.addHost h.host !h.standby)
    (new catalog settings c.policy (.ofConfig c.placement settings.fetchTimeout) store)
  have known : ∀ address, hosted.inventory[address]?.isSome = true ↔
      ∃ h ∈ c.hosts, h.publicAddress = address := by
    intro address
    rw [addHosts_inventory]
    simp [new]
  have unfolded : ofConfig c store = c.containers.foldlM addContainer hosted >>= fun e =>
      .ok { e with traffic := c.locations.foldl (fun t l => t.registerLocation l.key l.coordinate) e.traffic } := by
    simp only [ofConfig,loaded,Settings.ofConfig,parsed]
    rfl
  rw [unfolded]
  rcases addContainers_cases ((stocked_new _ _ _ _ _).addHosts c.hosts) c.containers with
    ⟨final,done,housed⟩ | ⟨k,member,failed,unknown⟩
  · refine .inl ⟨⟨_,bind_eq_ok.mpr ⟨final,done,rfl⟩⟩,?_⟩
    intro k member
    exact (known k.host).mp (housed k member)
  · refine .inr ⟨k,member,?_,?_⟩
    · rw [failed]; rfl
    · intro h listed same
      have present := (known k.host).mpr ⟨h,listed,same⟩
      rw [unknown] at present
      cases present

end Engine

namespace Daemon

/-- A run finds a configuration, without an interval of its own, and a store that opens. -/
structure Options.Ready (o : Options) (disk : Disk) (c : Config) : Prop where
  parsed : Config.ofFile disk o.config = .ok c
  interval : o.interval = none
  opens : ∃ folders store opened, disk.createFolders o.dataFolder = (.ok (),folders) ∧
    folders.openStore (Path.join o.dataFolder storeFile) = .ok (store,opened)

theorem intervalOf_ok_iff {o : Options} (own : o.interval = none) (c : Config) :
    (∃ interval, intervalOf o c = .ok interval) ↔
      (Duration.interval? c.monitoring.interval).isSome = true := by
  rw [intervalOf,own,Option.getD_none]
  cases Duration.interval? c.monitoring.interval with
  | none => simp
  | some interval => simp

theorem configure_result (c : Config) (store : Store) :
    (configure c store).2 = Engine.ofConfig c store := by
  unfold configure
  cases loaded : Catalog.load c with
  | error e => simp only [Engine.ofConfig,loaded]; rfl
  | ok catalog =>
    cases built : Engine.ofConfig c store with
    | error e => rfl
    | ok engine => rfl

theorem assemble_result (o : Options) (c : Config) (interval : Duration) (path : String) (store : Store) :
    (assemble o c interval path store).2 =
      ((Engine.ofConfig c store).mapError .engine).map (⟨·,interval,o.dryRun,path⟩) := by
  rw [← configure_result]
  unfold assemble
  rcases configure c store with ⟨log,result⟩
  cases result with
  | error e => rfl
  | ok engine => rfl

/-- With everything ready, a start fails for the interval or comes to building the engine. -/
theorem Options.Ready.start_result {o : Options} {disk : Disk} (ready : o.Ready disk c) :
    (∃ e, intervalOf o c = .error e ∧ (start o disk).result = .error e) ∨
    ∃ interval store, intervalOf o c = .ok interval ∧ (start o disk).result =
      ((Engine.ofConfig c store).mapError .engine).map
        (⟨·,interval,o.dryRun,Path.join o.dataFolder storeFile⟩) := by
  obtain ⟨folders,store,opened,made,opens⟩ := ready.opens
  cases chosen : intervalOf o c with
  | error e =>
    refine .inl ⟨e,rfl,?_⟩
    have failed : (Config.ofFile disk o.config >>= fun c => (intervalOf o c).map (c,·)) = .error e := by
      rw [ready.parsed]
      change (intervalOf o c).map (c,·) = _
      rw [chosen]; rfl
    simp only [start,openStore,failed]
  | ok interval =>
    refine .inr ⟨interval,store,rfl,?_⟩
    have read : (Config.ofFile disk o.config >>= fun c => (intervalOf o c).map (c,·)) = .ok (c,interval) := by
      rw [ready.parsed]
      change (intervalOf o c).map (c,·) = _
      rw [chosen]; rfl
    simp only [start,openStore,read,made,opens,assemble_result]

/-- The end of a start: the configuration is unsound, or a container has no host, or all is well. -/
theorem Options.Ready.start_cases {o : Options} {disk : Disk} (ready : o.Ready disk c) :
    ((∃ d, (start o disk).result = .ok d) ∧ c.Sound ∧ c.Housed) ∨
    (∃ e, (start o disk).result = .error e ∧ ¬c.Sound) ∨
    ∃ k ∈ c.containers, (start o disk).result = .error (.engine (.unknownHost k.id k.host)) ∧
      c.Sound ∧ ∀ h ∈ c.hosts, h.publicAddress ≠ k.host := by
  have timed := intervalOf_ok_iff ready.interval c
  rcases ready.start_result with ⟨e,chosen,failed⟩ | ⟨interval,store,chosen,result⟩
  · refine .inr (.inl ⟨e,failed,?_⟩)
    intro sound
    obtain ⟨interval,same⟩ := timed.mpr sound.interval
    rw [chosen] at same
    cases same
  · by_cases sound : c.Sound
    · obtain ⟨catalog,loaded⟩ := sound.catalog
      rcases Engine.ofConfig_cases loaded sound.fetchTimeout store with
        ⟨⟨e,built⟩,housed⟩ | ⟨k,member,failed,unhoused⟩
      · exact .inl ⟨⟨_,by rw [result,built]; rfl⟩,sound,housed⟩
      · exact .inr (.inr ⟨k,member,by rw [result,failed]; rfl,sound,unhoused⟩)
    · cases built : Engine.ofConfig c store with
      | error e => exact .inr (.inl ⟨.engine e,by rw [result,built]; rfl,sound⟩)
      | ok e =>
        obtain ⟨catalog,loaded,rest⟩ := bind_eq_ok.mp built
        obtain ⟨settings,timeout,_⟩ := bind_eq_ok.mp rest
        refine absurd ⟨⟨catalog,mapError_eq_ok.mp loaded⟩,timed.mp ⟨interval,chosen⟩,?_⟩ sound
        unfold Settings.ofConfig at timeout
        split at timeout
        · cases timeout
        · rename_i parsed; rw [parsed]; rfl

/-- Whether a run is ready can be tried out. -/
theorem Options.Ready.of_isSome {o : Options} {disk : Disk} (parsed : Config.ofFile disk o.config = .ok c)
    (interval : o.interval = none) (made : (disk.createFolders o.dataFolder).1.toOption.isSome = true)
    (opens : ((disk.createFolders o.dataFolder).2.openStore
      (Path.join o.dataFolder storeFile)).toOption.isSome = true) : o.Ready disk c := by
  obtain ⟨_,made⟩ := toOption_isSome_iff.mp made
  obtain ⟨⟨store,opened⟩,opens⟩ := toOption_isSome_iff.mp opens
  exact ⟨parsed,interval,_,store,opened,Prod.ext made rfl,opens⟩

end Daemon

def Ending.isDone : Ending → Bool
  | .done _ => true
  | _ => false

namespace Command

def Succeeds (command : Command) (now : Nat) (disk : Disk) : Prop :=
  (command.execute now disk).2.1.isDone = true

theorem check_succeeds_iff {disk : Disk} {path : String} (parsed : Config.ofFile disk path = .ok c)
    (now : Nat) : (check path).Succeeds now disk ↔ c.Sound := by
  rw [← c.check_ok_iff path]
  simp only [Succeeds,execute,parsed]
  cases checked : c.check path with
  | error e => simp [Ending.isDone]
  | ok lines => simp [Ending.isDone]

theorem execute_run (o : Daemon.Options) (now : Nat) (disk : Disk) :
    ((run o).execute now disk).2.1 =
      match (Daemon.start o disk).result with
      | .error e => .failed e
      | .ok _ => .done [] := by
  simp only [execute,Daemon.run]
  cases (Daemon.start o disk).result with
  | error e => rfl
  | ok d => rfl

/-- On a configuration that can be read, running a daemon succeeds exactly when checking does and every
container runs on a host of the configuration. Without such a host the check still succeeds, and the
run fails for a container that has none. -/
theorem run_succeeds_iff {o : Daemon.Options} {disk : Disk} (ready : o.Ready disk c) (now : Nat) :
    ((run o).Succeeds now disk ↔ (check o.config).Succeeds now disk ∧ c.Housed) ∧
    ((check o.config).Succeeds now disk → ¬c.Housed → ∃ k ∈ c.containers,
      (∀ h ∈ c.hosts, h.publicAddress ≠ k.host) ∧
      ((run o).execute now disk).2.1 = .failed (.engine (.unknownHost k.id k.host))) := by
  rw [check_succeeds_iff ready.parsed now,Succeeds,execute_run]
  rcases ready.start_cases with
    ⟨⟨d,started⟩,sound,housed⟩ | ⟨e,failed,unsound⟩ | ⟨k,member,failed,sound,unhoused⟩
  · rw [started]
    exact ⟨⟨fun _ => ⟨sound,housed⟩,fun _ => rfl⟩,fun _ unhoused => absurd housed unhoused⟩
  · rw [failed]
    exact ⟨⟨nofun,fun valid => absurd valid.1 unsound⟩,fun valid => absurd valid unsound⟩
  · rw [failed]
    constructor
    · refine ⟨nofun,?_⟩
      rintro ⟨_,housed⟩
      obtain ⟨h,listed,same⟩ := housed k member
      exact absurd same (unhoused h listed)
    · intro _ _
      exact ⟨k,member,unhoused,rfl⟩

section Sample

def fleetText (address : String) : String :=
  "[[hosts]]\npublic_address = \"10.0.0.1\"\nregion = \"EUROPE\"\n\n" ++
    "[[containers]]\nid = \"web-1\"\nservice = \"web\"\nhost = \"" ++ address ++ "\"\n"

def fleetDisk (address : String) : Disk := Disk.ofTexts [("geoscale.toml", fleetText address)]

def fleetOptions : Daemon.Options := ⟨"geoscale.toml", "data", none, false⟩

theorem housed_fleet_runs : (run fleetOptions).Succeeds 1000 (fleetDisk "10.0.0.1") := by
  have valid : (Config.ofFile (fleetDisk "10.0.0.1") "geoscale.toml").toOption.any
      (fun c => (c.check "geoscale.toml").toOption.isSome && decide c.Housed) = true := by decide +kernel
  cases parsed : Config.ofFile (fleetDisk "10.0.0.1") "geoscale.toml" with
  | error e => rw [parsed] at valid; cases valid
  | ok c =>
    rw [parsed] at valid
    obtain ⟨checks,housed⟩ := (Bool.and_eq_true _ _).mp valid
    have ready : fleetOptions.Ready (fleetDisk "10.0.0.1") c :=
      .of_isSome parsed rfl (by decide +kernel) (by decide +kernel)
    have sound := (c.check_ok_iff _).mp (toOption_isSome_iff.mp checks)
    exact (run_succeeds_iff ready 1000).1.mpr
      ⟨(check_succeeds_iff parsed 1000).mpr sound,of_decide_eq_true housed⟩

/-- A container on a host that is not listed passes the check, but not the run. -/
theorem unhoused_container_passes_check :
    (∃ c, fleetOptions.Ready (fleetDisk "10.0.0.9") c) ∧
    (check "geoscale.toml").Succeeds 1000 (fleetDisk "10.0.0.9") ∧
    ¬(run fleetOptions).Succeeds 1000 (fleetDisk "10.0.0.9") := by
  have valid : (Config.ofFile (fleetDisk "10.0.0.9") "geoscale.toml").toOption.any
      (fun c => (c.check "geoscale.toml").toOption.isSome && decide (¬c.Housed)) = true := by decide +kernel
  cases parsed : Config.ofFile (fleetDisk "10.0.0.9") "geoscale.toml" with
  | error e => rw [parsed] at valid; cases valid
  | ok c =>
    rw [parsed] at valid
    obtain ⟨checks,unhoused⟩ := (Bool.and_eq_true _ _).mp valid
    have ready : fleetOptions.Ready (fleetDisk "10.0.0.9") c :=
      .of_isSome parsed rfl (by decide +kernel) (by decide +kernel)
    have sound := (c.check_ok_iff _).mp (toOption_isSome_iff.mp checks)
    refine ⟨⟨c,ready⟩,(check_succeeds_iff parsed 1000).mpr sound,?_⟩
    rw [Succeeds,execute_run]
    rcases ready.start_cases with ⟨_,_,housed⟩ | ⟨e,failed,_⟩ | ⟨k,_,failed,_⟩
    · exact absurd housed (of_decide_eq_true unhoused)
    · rw [failed]; nofun
    · rw [failed]; nofun

end Sample

end Command

end GeoFleet
