import Mathlib.Data.List.ReduceOption
import GeoFleet.Engine.Settings
import GeoFleet.Proofs.Collections

/-! Footprints of services. A configuration looks a service up in its list and takes what the first entry of
that name states. The settings of the engine are a map that keeps what the last entry states that states
anything. A service with several entries tells the two apart. -/
namespace GeoFleet

namespace Config

def statements (services : List ServiceEntry) (name : String) : List (Option Nat) :=
  (services.filter (·.name = name)).map (·.expectedMemory)

@[simp] theorem statements_nil (name : String) : statements [] name = [] := rfl

theorem statements_concat (services : List ServiceEntry) (e : ServiceEntry) (name : String) :
    statements (services ++ [e]) name =
      statements services name ++ if e.name = name then [e.expectedMemory] else [] := by
  by_cases same : e.name = name <;> simp [statements,List.filter_append,same]

/-- The first entry counts, also when it states nothing. -/
theorem footprintOf_some (c : Config) (name : String) : c.footprintOf (some name) =
    (statements c.services name).head?.join.getD c.placement.defaultFootprint := by
  simp only [footprintOf,statements,List.head?_map,List.head?_filter,Option.bind_some]
  cases c.services.find? (·.name = name) <;> rfl

end Config

namespace Settings

open Config (statements)

theorem footprintsOf_concat (services : List Config.ServiceEntry) (e : Config.ServiceEntry) :
    footprintsOf (services ++ [e]) =
      e.expectedMemory.elim (footprintsOf services) ((footprintsOf services).insert e.name ·) := by
  simp [footprintsOf]

/-- The last entry that states a footprint counts. -/
theorem getElem?_footprintsOf (services : List Config.ServiceEntry) (name : String) :
    (footprintsOf services)[name]? = (statements services name).reduceOption.getLast? := by
  induction services using List.reverseRecOn with
  | nil => simp [footprintsOf]
  | append_singleton services e ih =>
    rw [footprintsOf_concat,Config.statements_concat,List.reduceOption_append]
    cases stated : e.expectedMemory with
    | none => by_cases same : e.name = name <;> simp [same,ih]
    | some m =>
      by_cases same : e.name = name
      · simp [same]
      · simp [same,getElem?_insert_ne same,ih]

theorem ofConfig_footprintOf {c : Config} {s : Settings} (accepted : ofConfig c = .ok s) (name : String) :
    s.footprintOf (some name) =
      (statements c.services name).reduceOption.getLast?.getD c.placement.defaultFootprint := by
  unfold ofConfig at accepted
  split at accepted
  · cases accepted
  · cases accepted
    simp [footprintOf,getElem?_footprintsOf]

theorem ofConfig_footprintOf_none {c : Config} {s : Settings} (accepted : ofConfig c = .ok s) :
    s.footprintOf none = c.footprintOf none := by
  unfold ofConfig at accepted
  split at accepted
  · cases accepted
  · cases accepted; rfl

/-- A service without any stated footprint has the default in both. -/
theorem agree_on_iff {c : Config} {s : Settings} (accepted : ofConfig c = .ok s) (name : String) :
    s.footprintOf (some name) = c.footprintOf (some name) ↔
      ∀ m, (statements c.services name).reduceOption.getLast? = some m →
        (statements c.services name).head?.join.getD c.placement.defaultFootprint = m := by
  rw [ofConfig_footprintOf accepted,Config.footprintOf_some]
  cases last : (statements c.services name).reduceOption.getLast? with
  | none =>
    have silent : (statements c.services name).head?.join = none := by
      rw [List.getLast?_eq_none_iff] at last
      refine Option.eq_none_iff_forall_ne_some.mpr fun m stated => ?_
      have first := List.mem_of_head? (Option.join_eq_some_iff.mp stated)
      simpa [last] using List.reduceOption_mem_iff.mpr first
    simp [silent]
  | some m => simp [eq_comm]

/-- Settings agree with the configuration they were made from exactly when no service's last stated
footprint differs from what its first entry stands for. They agree on a service whose entries all say the
same, so on every service if names are not repeated. -/
theorem footprints_agree_iff {c : Config} {s : Settings} (accepted : ofConfig c = .ok s) :
    ((∀ service, s.footprintOf service = c.footprintOf service) ↔
      ∀ name m, (statements c.services name).reduceOption.getLast? = some m →
        (statements c.services name).head?.join.getD c.placement.defaultFootprint = m) ∧
    ∀ name, (∀ m ∈ statements c.services name, ∀ m' ∈ statements c.services name, m = m') →
      s.footprintOf (some name) = c.footprintOf (some name) := by
  constructor
  · constructor
    · intro agree name
      exact (agree_on_iff accepted name).mp (agree (some name))
    · intro alike service
      cases service with
      | none => exact ofConfig_footprintOf_none accepted
      | some name => exact (agree_on_iff accepted name).mpr (alike name)
  · intro name alike
    refine (agree_on_iff accepted name).mpr fun m last => ?_
    have stated := List.reduceOption_mem_iff.mp (List.mem_of_getLast? last)
    obtain ⟨first,rest,listed⟩ := List.exists_cons_of_ne_nil (List.ne_nil_of_mem stated)
    have same : first = some m := alike first (by simp [listed]) (some m) stated
    simp [listed,same]

def pair (second : String) : Config :=
  { Config.empty with services := [⟨"web",some 100⟩,⟨second,some 200⟩] }

theorem two_services_agree : ∃ s, ofConfig (pair "db") = .ok s ∧
    s.footprintOf (some "db") = (pair "db").footprintOf (some "db") := by
  refine ⟨_,rfl,(footprints_agree_iff rfl).2 "db" ?_⟩
  decide +kernel

/-- The settings keep the second entry of a service, where its configuration reads the first. -/
theorem repeated_service_differs : ¬∀ c s, ofConfig c = .ok s →
    ∀ service, s.footprintOf service = c.footprintOf service := by
  intro agree
  have same := agree (pair "web") _ rfl (some "web")
  revert same
  decide +kernel

end Settings

end GeoFleet
