import GeoFleet.Proofs.Engine.Crew

/-! The targets that an engine starts with. Hosts and containers of a configuration are registered one
after the other under one kind of name, and a later target takes the place of an earlier one of its
name. What is registered is therefore a matter of the last entries, and all that is listed is evaluated
only while the names are told apart. -/
namespace GeoFleet

namespace Config

/-- The host known under an address: that of the last entry with it, running or standing by. -/
def hostAt? (c : Config) (address : String) : Option Host :=
  (c.hosts.reverse.find? (·.publicAddress = address)).map (·.host)

/-- The target that the last entry of a name comes to. Containers come after hosts. -/
def targetAt? (c : Config) (id : String) : Option Target :=
  match c.containers.reverse.find? (·.id = id) with
  | some k => (c.hostAt? k.host).map (.ofContainer k.id k.service k.app)
  | none => (c.hosts.reverse.find? fun h => !h.standby && h.publicAddress = id).map (.ofHost ·.host)

/-- No container goes by the address of a host that is running, and no two containers share an id. -/
structure IdsApart (c : Config) : Prop where
  hosts : ∀ h ∈ c.hosts, h.standby = false → ∀ k ∈ c.containers, k.id ≠ h.publicAddress
  containers : ∀ a ∈ c.containers, ∀ b ∈ c.containers, a.id = b.id → a = b

theorem hostAt?_publicAddress {c : Config} (known : c.hostAt? address = some h) :
    h.publicAddress = address := by
  obtain ⟨entry,last,rfl⟩ := Option.map_eq_some_iff.mp known
  have address : entry.publicAddress = address := by simpa using List.find?_some last
  exact address

theorem targetAt?_eq_some {c : Config} {id : String} (found : c.targetAt? id = some t) :
    (∃ h ∈ c.hosts, h.standby = false ∧ h.publicAddress = id ∧ t = .ofHost h.host) ∨
    ∃ k ∈ c.containers, k.id = id ∧ ∃ h, c.hostAt? k.host = some h ∧
      t = .ofContainer k.id k.service k.app h := by
  unfold targetAt? at found
  split at found
  · rename_i k last
    obtain ⟨h,known,same⟩ := Option.map_eq_some_iff.mp found
    have listed := List.mem_reverse.mp (List.mem_of_find?_eq_some last)
    have named : k.id = id := by simpa using List.find?_some last
    exact .inr ⟨k,listed,named,h,known,same.symm⟩
  · obtain ⟨h,last,same⟩ := Option.map_eq_some_iff.mp found
    have listed := List.mem_reverse.mp (List.mem_of_find?_eq_some last)
    have running := List.find?_some last
    simp only [Bool.and_eq_true,Bool.not_eq_true',decide_eq_true_eq] at running
    exact .inl ⟨h,listed,running.1,running.2,same.symm⟩

/-- A running host whose address no container goes by is the target under it. -/
theorem targetAt?_host {c : Config} (listed : h ∈ c.hosts) (running : h.standby = false)
    (apart : ∀ k ∈ c.containers, k.id ≠ h.publicAddress) :
    ∃ last ∈ c.hosts, last.publicAddress = h.publicAddress ∧
      c.targetAt? h.publicAddress = some (.ofHost last.host) := by
  have no_container : c.containers.reverse.find? (·.id = h.publicAddress) = none := by
    apply List.find?_eq_none.mpr
    intro k member
    simpa using apart k (List.mem_reverse.mp member)
  obtain ⟨last,member,found,holds⟩ := exists_find?_reverse
    (p := fun entry => !entry.standby && entry.publicAddress = h.publicAddress) listed (by simp [running])
  simp only [Bool.and_eq_true,Bool.not_eq_true',decide_eq_true_eq] at holds
  refine ⟨last,member,holds.2,?_⟩
  rw [targetAt?,no_container]
  simp only
  rw [found]
  rfl

/-- A container is the target under its id when no other container has the id. -/
theorem targetAt?_container {c : Config} (listed : k ∈ c.containers)
    (apart : ∀ other ∈ c.containers, other.id = k.id → other = k) :
    c.targetAt? k.id = (c.hostAt? k.host).map (.ofContainer k.id k.service k.app) := by
  obtain ⟨last,member,found,holds⟩ := exists_find?_reverse (p := fun other => other.id = k.id) listed
    (by simp)
  have same := apart last member (by simpa using holds)
  subst same
  rw [targetAt?,found]

end Config

namespace Engine

/-- Nothing of a configuration is dropped: each running host is evaluated as a host under its address
and each container as a container under its id, with its own service, app and host. Nothing else is
evaluated. -/
structure Evaluates (e : Engine) (c : Config) : Prop where
  hosts : ∀ h ∈ c.hosts, h.standby = false →
    ∃ t, e.registry[h.publicAddress]? = some t ∧ t.kind = .host ∧ t.host.publicAddress = h.publicAddress
  containers : ∀ k ∈ c.containers, ∃ h, e.inventory[k.host]? = some h ∧
    e.registry[k.id]? = some (.ofContainer k.id k.service k.app h)
  others : ∀ (id : String) (t : Target), e.registry[id]? = some t →
    (∃ h ∈ c.hosts, h.standby = false ∧ h.publicAddress = id ∧ t = .ofHost h.host) ∨
    ∃ k ∈ c.containers, k.id = id ∧ ∃ h, e.inventory[k.host]? = some h ∧
      t = .ofContainer k.id k.service k.app h

theorem addHost_getElem? (e : Engine) (h : Host) (active : Bool) (id : String) :
    (e.addHost h active).registry[id]? =
      if active = true ∧ h.publicAddress = id then some (.ofHost h) else e.registry[id]? := by
  cases active with
  | false => simp [addHost]
  | true =>
    change (e.registry.insert h.publicAddress (.ofHost h))[id]? = _
    rw [Std.ExtTreeMap.getElem?_insert]
    simp [Std.LawfulEqCmp.compare_eq_iff_eq]

theorem addHosts_getElem? (hosts : List Config.HostEntry) (e : Engine) (id : String) :
    (hosts.foldl (fun e h => e.addHost h.host !h.standby) e).registry[id]? =
      ((hosts.reverse.find? fun h => !h.standby && h.publicAddress = id).map (.ofHost ·.host)).or
        e.registry[id]? := by
  induction hosts using List.reverseRecOn with
  | nil => simp
  | append_singleton hosts last ih =>
    rw [List.foldl_append,List.foldl_cons,List.foldl_nil,addHost_getElem?,ih,List.reverse_concat,
      List.find?_cons]
    have address : last.host.publicAddress = last.publicAddress := rfl
    rw [address]
    by_cases chosen : (!last.standby) = true ∧ last.publicAddress = id
    · rw [if_pos chosen]
      simp [chosen]
    · rw [if_neg chosen]
      have passed : (!last.standby && Decidable.decide (last.publicAddress = id)) = false := by
        simpa using chosen
      rw [passed]

theorem addHosts_known (hosts : List Config.HostEntry) (e : Engine) (address : String) :
    (hosts.foldl (fun e h => e.addHost h.host !h.standby) e).inventory[address]? =
      ((hosts.reverse.find? (·.publicAddress = address)).map (·.host)).or e.inventory[address]? := by
  induction hosts using List.reverseRecOn with
  | nil => simp
  | append_singleton hosts last ih =>
    rw [List.foldl_append,List.foldl_cons,List.foldl_nil,addHost_inventory,List.reverse_concat,
      List.find?_cons]
    by_cases same : last.publicAddress = address
    · subst same
      simp [Config.HostEntry.host]
    · have apart : last.host.publicAddress ≠ address := same
      rw [getElem?_insert_ne apart,ih]
      simp [same]

/-- Containers run on known hosts and leave the inventory as it is, and the last container of an id is
registered under it. -/
theorem addContainers_getElem? {e final : Engine} (stocked : e.Stocked)
    {containers : List Config.ContainerEntry} (done : containers.foldlM addContainer e = .ok final) :
    final.inventory = e.inventory ∧ (∀ k ∈ containers, ∃ h, e.inventory[k.host]? = some h) ∧
    ∀ id, final.registry[id]? =
      match containers.reverse.find? (·.id = id) with
      | some k => (e.inventory[k.host]?).map (.ofContainer k.id k.service k.app)
      | none => e.registry[id]? := by
  induction containers generalizing e with
  | nil => cases done; exact ⟨rfl,nofun,fun id => rfl⟩
  | cons first containers ih =>
    rw [List.foldlM_cons] at done
    obtain ⟨next,added,rest⟩ := bind_eq_ok.mp done
    obtain ⟨inventory,h,known,rfl⟩ := addContainer_ok stocked added
    obtain ⟨kept,housed,registry⟩ := ih (stocked.register _) rest
    rw [inventory] at kept housed
    refine ⟨kept,List.forall_mem_cons.mpr ⟨⟨h,known⟩,housed⟩,?_⟩
    intro id
    rw [registry,List.reverse_cons,List.find?_append]
    cases later : containers.reverse.find? (·.id = id) with
    | some k => simp [inventory]
    | none =>
      change (e.registry.insert first.id _)[id]? = _
      by_cases same : first.id = id
      · subst same
        simp [known]
      · rw [getElem?_insert_ne same]
        simp [same]

theorem ofConfig_steps {c : Config} {store : Store} (built : ofConfig c store = .ok e) :
    ∃ start final : Engine, start.Stocked ∧ start.registry = ∅ ∧ start.inventory = ∅ ∧
      c.containers.foldlM addContainer
        (c.hosts.foldl (fun e h => e.addHost h.host !h.standby) start) = .ok final ∧
      e.registry = final.registry ∧ e.inventory = final.inventory := by
  obtain ⟨catalog,_,rest⟩ := bind_eq_ok.mp built
  obtain ⟨settings,_,rest⟩ := bind_eq_ok.mp rest
  obtain ⟨final,containers,same⟩ := bind_eq_ok.mp rest
  cases same
  exact ⟨_,final,stocked_new _ _ _ _ _,rfl,rfl,containers,rfl,rfl⟩

/-- What an engine starts with, name by name and address by address. -/
theorem ofConfig_getElem? {c : Config} {store : Store} (built : ofConfig c store = .ok e) :
    (∀ id, e.registry[id]? = c.targetAt? id) ∧ (∀ address, e.inventory[address]? = c.hostAt? address) ∧
    ∀ k ∈ c.containers, ∃ h, e.inventory[k.host]? = some h := by
  obtain ⟨start,final,stocked,none_registered,none_known,done,registry,inventory⟩ := ofConfig_steps built
  obtain ⟨kept,housed,registered⟩ := addContainers_getElem? (stocked.addHosts c.hosts) done
  have known : ∀ address, e.inventory[address]? = c.hostAt? address := by
    intro address
    rw [inventory,kept,addHosts_known,none_known,Config.hostAt?]
    simp
  refine ⟨?_,known,by rw [inventory,kept]; exact housed⟩
  intro id
  rw [registry,registered,Config.targetAt?]
  cases c.containers.reverse.find? (·.id = id) with
  | some k =>
    simp only
    rw [← kept,← inventory,known]
  | none =>
    simp only
    rw [addHosts_getElem?,none_registered]
    simp

/-- What is evaluated under a name is one thing, so names that stand for two are told apart. -/
theorem Evaluates.idsApart {e : Engine} {c : Config} (evaluates : e.Evaluates c)
    (inventory : ∀ address, e.inventory[address]? = c.hostAt? address) : c.IdsApart := by
  constructor
  · intro h listed running k member same
    obtain ⟨t,found,host,_⟩ := evaluates.hosts h listed running
    obtain ⟨_,_,registered⟩ := evaluates.containers k member
    rw [same,found] at registered
    cases registered
    cases host
  · intro a first b second same
    obtain ⟨ha,known_a,registered_a⟩ := evaluates.containers a first
    obtain ⟨hb,known_b,registered_b⟩ := evaluates.containers b second
    rw [inventory] at known_a known_b
    rw [same,registered_b] at registered_a
    simp only [Target.ofContainer,Option.some.injEq,Target.mk.injEq] at registered_a
    obtain ⟨_,_,host,service,app⟩ := registered_a
    -- A target has its host in full, and a container only the address, which the host goes by.
    have address : a.host = b.host := by
      rw [← Config.hostAt?_publicAddress known_a,← host,Config.hostAt?_publicAddress known_b]
    cases a; cases b
    simp_all

/-- Names that are told apart leave each entry in place. -/
theorem evaluates_of_idsApart {e : Engine} {c : Config} (apart : c.IdsApart)
    (registry : ∀ id, e.registry[id]? = c.targetAt? id)
    (inventory : ∀ address, e.inventory[address]? = c.hostAt? address)
    (housed : ∀ k ∈ c.containers, ∃ h, e.inventory[k.host]? = some h) : e.Evaluates c := by
  refine ⟨?_,?_,?_⟩
  · intro h listed running
    obtain ⟨last,_,address,found⟩ := Config.targetAt?_host listed running (apart.hosts h listed running)
    exact ⟨.ofHost last.host,by rw [registry,found],rfl,address⟩
  · intro k member
    obtain ⟨h,known⟩ := housed k member
    refine ⟨h,known,?_⟩
    rw [registry,Config.targetAt?_container member fun other listed => apart.containers other listed k member,
      ← inventory,known]
    rfl
  · intro id t found
    rw [registry] at found
    simpa only [inventory] using Config.targetAt?_eq_some found

/-- An engine evaluates all that a configuration lists, and that alone, exactly when its names are told
apart. In any case the target of each id is what the last entry of the name comes to. -/
theorem ofConfig_evaluates_iff {c : Config} {store : Store} (built : ofConfig c store = .ok e) :
    (e.Evaluates c ↔ c.IdsApart) ∧ (∀ id, e.registry[id]? = c.targetAt? id) ∧
    ∀ address, e.inventory[address]? = c.hostAt? address := by
  obtain ⟨registry,inventory,housed⟩ := ofConfig_getElem? built
  refine ⟨⟨?_,?_⟩,registry,inventory⟩
  · intro evaluates
    exact evaluates.idsApart inventory
  · intro apart
    exact evaluates_of_idsApart apart registry inventory housed

section Sample

def pairedHosts (first second : String) : Config :=
  { Config.empty with
    hosts := [
      ⟨none, "10.0.0.1", none, .europe, none, none, none, false⟩,
      ⟨none, "10.0.0.2", none, .europe, none, none, none, true⟩]
    containers := [⟨first, "web", none, "10.0.0.1"⟩, ⟨second, "shop", none, "10.0.0.2"⟩] }

theorem pairedHosts_evaluated : ∃ e, ofConfig (pairedHosts "web-1" "shop-1") .empty = .ok e ∧
    e.Evaluates (pairedHosts "web-1" "shop-1") := by
  have builds : (ofConfig (pairedHosts "web-1" "shop-1") .empty).toOption.isSome = true := by
    decide +kernel
  obtain ⟨e,built⟩ := toOption_isSome_iff.mp builds
  refine ⟨e,built,(ofConfig_evaluates_iff built).1.mpr ?_⟩
  constructor
  · simp [pairedHosts]
  · simp [pairedHosts]

/-- A container that goes by the address of a running host takes its place, and of two containers with
one id the first is not evaluated. -/
theorem repeated_names_dropped :
    (∃ e, ofConfig (pairedHosts "web-1" "10.0.0.1") .empty = .ok e ∧ e.fleet = [] ∧
      ¬e.Evaluates (pairedHosts "web-1" "10.0.0.1")) ∧
    ∃ e, ofConfig (pairedHosts "web-1" "web-1") .empty = .ok e ∧
      (e.targets.filter (!·.kind.isHost)).map (·.service) = [some "shop"] ∧
      ¬e.Evaluates (pairedHosts "web-1" "web-1") := by
  have first : (ofConfig (pairedHosts "web-1" "10.0.0.1") .empty).toOption.any
      (·.fleet = []) = true := by decide +kernel
  have second : (ofConfig (pairedHosts "web-1" "web-1") .empty).toOption.any
      (fun e => (e.targets.filter (!·.kind.isHost)).map (·.service) = [some "shop"]) = true := by
    decide +kernel
  obtain ⟨e,built,none_left⟩ := toOption_any_iff.mp first
  obtain ⟨e',built',one_left⟩ := toOption_any_iff.mp second
  refine ⟨⟨e,built,of_decide_eq_true none_left,?_⟩,e',built',of_decide_eq_true one_left,?_⟩
  · intro evaluates
    have apart := evaluates.idsApart (ofConfig_getElem? built).2.1
    exact apart.hosts _ List.mem_cons_self rfl _ (List.mem_cons_of_mem _ List.mem_cons_self) rfl
  · intro evaluates
    have apart := evaluates.idsApart (ofConfig_getElem? built').2.1
    have same := apart.containers _ List.mem_cons_self _ (List.mem_cons_of_mem _ List.mem_cons_self) rfl
    have service := congrArg (·.service) same
    exact absurd service (by decide)

end Sample

end Engine

end GeoFleet
