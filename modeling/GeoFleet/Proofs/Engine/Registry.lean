import GeoFleet.Proofs.Engine.Session
import GeoFleet.Proofs.Placement.Selection

/-! Targets are registered under their own ids and hosts are known under their own addresses,
whatever happens to an engine. The host of every target is among the known ones. -/
namespace GeoFleet

namespace Engine

def Keyed (e : Engine) : Prop := ∀ (id : String) (t : Target), e.registry[id]? = some t → t.id = id

theorem Keyed.insert {e next : Engine} (keyed : e.Keyed) (t : Target)
    (same : next.registry = e.registry.insert t.id t) : next.Keyed := by
  intro id other found
  rw [same] at found
  rcases getElem?_insert_eq_some found with ⟨own,rfl⟩ | ⟨_,present⟩
  · exact own
  · exact keyed id other present

theorem Keyed.erase {e next : Engine} (keyed : e.Keyed) (gone : String)
    (same : next.registry = e.registry.erase gone) : next.Keyed := by
  intro id other found
  rw [same] at found
  exact keyed id other (getElem?_erase_eq_some found).2

theorem Keyed.of_registry_eq {e next : Engine} (keyed : e.Keyed) (same : next.registry = e.registry) :
    next.Keyed := by
  intro id other found
  exact keyed id other (same ▸ found)

theorem Keyed.register {e : Engine} (keyed : e.Keyed) (t : Target) : (e.register t).Keyed :=
  keyed.insert t rfl

theorem Keyed.addHost {e : Engine} (keyed : e.Keyed) (h : Host) (active : Bool) :
    (e.addHost h active).Keyed := by
  cases active with
  | true => exact keyed.insert (.ofHost h) rfl
  | false => exact keyed

theorem Keyed.deregister {e : Engine} (keyed : e.Keyed) (id : String) :
    (e.deregister id).2.Keyed := by
  rw [deregister_eq]
  split
  · exact keyed.erase id rfl
  · exact keyed

def Stocked (e : Engine) : Prop :=
  ∀ (address : String) (h : Host), e.inventory[address]? = some h → h.publicAddress = address

theorem Stocked.of_inventory_eq {e next : Engine} (stocked : e.Stocked)
    (same : next.inventory = e.inventory) : next.Stocked := by
  intro address h found
  exact stocked address h (same ▸ found)

theorem Stocked.register {e : Engine} (stocked : e.Stocked) (t : Target) : (e.register t).Stocked := by
  intro address h found
  change (e.inventory.insertIfNew _ _)[address]? = _ at found
  rw [Std.ExtTreeMap.getElem?_insertIfNew] at found
  split at found
  · rename_i new
    cases found
    exact Std.LawfulEqCmp.eq_of_compare new.1
  · exact stocked address h found

theorem Stocked.addHost {e : Engine} (stocked : e.Stocked) (h : Host) (active : Bool) :
    (e.addHost h active).Stocked := by
  have inserted : Stocked { e with inventory := e.inventory.insert h.publicAddress h } :=
    forall_insert stocked rfl
  cases active with
  | true => exact inserted.register (.ofHost h)
  | false => exact inserted

theorem Stocked.addHosts {e : Engine} (stocked : e.Stocked) (hosts : List Config.HostEntry) :
    (hosts.foldl (fun e h => e.addHost h.host !h.standby) e).Stocked := by
  refine List.foldlRecOn (motive := Stocked) hosts _ stocked ?_
  intro e stocked h _
  exact stocked.addHost h.host _

theorem Stocked.follow {e : Engine} (stocked : e.Stocked) (t : Target) (d : Decision)
    (landing : Option Host) : (e.follow t d landing).Stocked := by
  rcases e.follow_cases t d landing with ⟨_,same⟩ | ⟨h,_,_,_,same⟩ | ⟨h,moved,_,_,_,same⟩ | ⟨_,_,same⟩
  · rw [same]; exact stocked.of_inventory_eq (e.deregister_inventory t.id)
  · rw [same]; exact stocked.register (.ofHost h)
  · rw [same]; exact stocked
  · rw [same]; exact stocked

theorem Keyed.follow {e : Engine} (keyed : e.Keyed) (t : Target) (d : Decision)
    (landing : Option Host) : (e.follow t d landing).Keyed := by
  rcases e.follow_cases t d landing with ⟨_,same⟩ | ⟨h,_,_,_,same⟩ | ⟨h,moved,_,_,found,same⟩ | ⟨_,_,same⟩
  · rw [same]; exact keyed.deregister t.id
  · rw [same]; exact keyed.register (.ofHost h)
  · apply keyed.insert { moved with host := h }
    rw [same,← keyed t.id moved found]
  · rw [same]; exact keyed

theorem place_known {e : Engine} (stocked : e.Stocked) (placed : e.place s t d = .ok landing) :
    ∀ h, landing = some h → e.inventory[h.publicAddress]? = some h := by
  rintro h rfl
  rcases place_ok placed with ⟨absent,_⟩ | ⟨other,same,_,_,chosen⟩
  · cases absent
  · cases same
    obtain ⟨address,found⟩ := mem_values_iff.mp (Admission.nearest_ok chosen).1
    rw [stocked address h found]
    exact found

def Housed (e : Engine) : Prop :=
  ∀ (id : String) (t : Target), e.registry[id]? = some t → t.host.publicAddress ∈ e.inventory

theorem Housed.of_eq {e next : Engine} (housed : e.Housed) (registry : next.registry = e.registry)
    (inventory : next.inventory = e.inventory) : next.Housed := by
  intro id t found
  rw [inventory]
  exact housed id t (registry ▸ found)

/-- A target whose host is known takes a place in the registry, and no host is lost. -/
theorem Housed.insert {e next : Engine} (housed : e.Housed) (t : Target) (place : String)
    (registry : next.registry = e.registry.insert place t)
    (grown : ∀ address, address ∈ e.inventory → address ∈ next.inventory)
    (known : t.host.publicAddress ∈ next.inventory) : next.Housed := by
  intro id other found
  rw [registry] at found
  rcases getElem?_insert_eq_some found with ⟨_,rfl⟩ | ⟨_,before⟩
  · exact known
  · exact grown _ (housed id other before)

theorem Housed.register {e : Engine} (housed : e.Housed) (t : Target) : (e.register t).Housed :=
  housed.insert t t.id rfl (fun _ known => Std.ExtTreeMap.mem_insertIfNew.mpr (.inr known))
    Std.ExtTreeMap.mem_insertIfNew_self

theorem Housed.addHost {e : Engine} (housed : e.Housed) (h : Host) (active : Bool) :
    (e.addHost h active).Housed := by
  have inserted : Housed { e with inventory := e.inventory.insert h.publicAddress h } := by
    intro id t found
    exact Std.ExtTreeMap.mem_insert.mpr (.inr (housed id t found))
  cases active with
  | true => exact inserted.register (.ofHost h)
  | false => exact inserted

theorem Housed.deregister {e : Engine} (housed : e.Housed) (id : String) : (e.deregister id).2.Housed := by
  intro other t found
  rw [deregister_registry] at found
  rw [deregister_inventory]
  exact housed other t (getElem?_erase_eq_some found).2

theorem Housed.follow {e : Engine} (housed : e.Housed) (t : Target) (d : Decision)
    {landing : Option Host} (known : ∀ h, landing = some h → e.inventory[h.publicAddress]? = some h) :
    (e.follow t d landing).Housed := by
  rcases e.follow_cases t d landing with ⟨_,same⟩ | ⟨h,_,_,_,same⟩ | ⟨h,moved,_,landed,_,same⟩ | ⟨_,_,same⟩
  · rw [same]; exact housed.deregister t.id
  · rw [same]; exact housed.register (.ofHost h)
  · have lands : h.publicAddress ∈ e.inventory :=
      Std.ExtTreeMap.mem_iff_isSome_getElem?.mpr (by rw [known h landed]; rfl)
    rw [same]
    exact housed.insert { moved with host := h } t.id rfl (fun _ present => present) lands
  · rw [same]; exact housed

theorem keyed_new (catalog : Catalog) (settings : Settings) (policy : Config.Policy)
    (admission : Admission) (store : Store) : (new catalog settings policy admission store).Keyed := by
  intro id t found
  simp [new] at found

theorem stocked_new (catalog : Catalog) (settings : Settings) (policy : Config.Policy)
    (admission : Admission) (store : Store) : (new catalog settings policy admission store).Stocked := by
  intro address h found
  simp [new] at found

theorem housed_new (catalog : Catalog) (settings : Settings) (policy : Config.Policy)
    (admission : Admission) (store : Store) : (new catalog settings policy admission store).Housed := by
  intro id t found
  simp [new] at found

end Engine

namespace Session

/-- A step registers, adds a host, drops a target, follows an action that lands on a known host if on
any, or leaves the registry and the inventory as they are; what all of these keep, every step keeps. -/
theorem step_invariant (property : Engine → Prop)
    (aside : ∀ e next, next.registry = e.registry → next.inventory = e.inventory → property e → property next)
    (register : ∀ e t, property e → property (e.register t))
    (addHost : ∀ e h active, property e → property (e.addHost h active))
    (deregister : ∀ e id, property e → property (e.deregister id).2)
    (follow : ∀ e t d landing, (e.Stocked → ∀ h, landing = some h → e.inventory[h.publicAddress]? = some h) →
      property e → property (e.follow t d landing))
    (s : Session) (m : Move) (holds : property s.engine) : property (s.step m).engine := by
  cases m with
  | register t => exact register _ t holds
  | addHost h active => exact addHost _ h active holds
  | edit o => exact aside s.engine _ rfl rfl holds
  | traffic t => exact aside s.engine _ rfl rfl holds
  | deregister id =>
    rcases s.step_deregister id with same | ⟨t,_,_,same⟩
    · rw [same]; exact holds
    · rw [same]; exact deregister _ id holds
  | decide w id =>
    rcases s.step_decide w id with ⟨stats,same⟩ | ⟨t,d,after,_,_,judged,same⟩
    · rw [same]; exact aside s.engine _ rfl rfl holds
    · rw [same]
      obtain ⟨stats,rfl⟩ := judged.recorded
      exact aside s.engine _ rfl rfl holds
  | act w id =>
    cases found : s.pending[id]? with
    | none => simpa [step,found] using holds
    | some d =>
      rw [step_act found]
      rcases s.engine.act_cases w d with ⟨outcome,_,same,_⟩ | ⟨landing,message,_,same⟩ | ⟨landing,clears,_,same⟩
      · rw [same]; exact holds
      · rw [same]; exact holds
      · rw [same]
        have known : s.engine.Stocked → ∀ h, landing = some h → s.engine.inventory[h.publicAddress]? = some h :=
          fun stocked => Engine.place_known stocked clears.place
        exact follow _ _ _ _ known (aside s.engine _ rfl rfl holds)

theorem step_keyed (s : Session) (m : Move) (keyed : s.engine.Keyed) : (s.step m).engine.Keyed :=
  step_invariant Engine.Keyed (fun _ _ registry _ keyed => keyed.of_registry_eq registry)
    (fun _ t keyed => keyed.register t) (fun _ h active keyed => keyed.addHost h active)
    (fun _ id keyed => keyed.deregister id) (fun _ t d landing _ keyed => keyed.follow t d landing) s m keyed

theorem step_stocked (s : Session) (m : Move) (stocked : s.engine.Stocked) : (s.step m).engine.Stocked :=
  step_invariant Engine.Stocked (fun _ _ _ inventory stocked => stocked.of_inventory_eq inventory)
    (fun _ t stocked => stocked.register t) (fun _ h active stocked => stocked.addHost h active)
    (fun e id stocked => stocked.of_inventory_eq (e.deregister_inventory id))
    (fun _ t d landing _ stocked => stocked.follow t d landing) s m stocked

/-- An action lands on a known host because the inventory holds hosts under their own addresses. -/
theorem step_housed (s : Session) (m : Move) (holds : s.engine.Stocked ∧ s.engine.Housed) :
    (s.step m).engine.Stocked ∧ (s.step m).engine.Housed := by
  refine step_invariant (fun e => e.Stocked ∧ e.Housed) ?_ ?_ ?_ ?_ ?_ s m holds
  · rintro e next registry inventory ⟨stocked,housed⟩
    exact ⟨stocked.of_inventory_eq inventory,housed.of_eq registry inventory⟩
  · rintro e t ⟨stocked,housed⟩
    exact ⟨stocked.register t,housed.register t⟩
  · rintro e h active ⟨stocked,housed⟩
    exact ⟨stocked.addHost h active,housed.addHost h active⟩
  · rintro e id ⟨stocked,housed⟩
    exact ⟨stocked.of_inventory_eq (e.deregister_inventory id),housed.deregister id⟩
  · rintro e t d landing known ⟨stocked,housed⟩
    exact ⟨stocked.follow t d landing,housed.follow t d (known stocked)⟩

theorem run_keyed (moves : List Move) {e : Engine} (keyed : e.Keyed) :
    (run moves (start e)).engine.Keyed :=
  run_invariant (fun s => s.engine.Keyed) step_keyed keyed moves

theorem run_stocked (moves : List Move) {e : Engine} (stocked : e.Stocked) :
    (run moves (start e)).engine.Stocked :=
  run_invariant (fun s => s.engine.Stocked) step_stocked stocked moves

theorem run_housed (moves : List Move) {e : Engine} (stocked : e.Stocked) (housed : e.Housed) :
    (run moves (start e)).engine.Housed :=
  (run_invariant (fun s => s.engine.Stocked ∧ s.engine.Housed) step_housed ⟨stocked,housed⟩ moves).2

end Session

end GeoFleet
