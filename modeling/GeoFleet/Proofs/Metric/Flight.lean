import Mathlib.Data.List.Perm.Basic
import Mathlib.Logic.Function.Iterate
import Mathlib.Tactic.Choose
import Mathlib.Tactic.Push

/-! Work that goes on at once, under one clock. Whoever is found finished hands in what has come of it, in
any order; the clock goes on as soon as nobody is. So everybody hands in at the very moment when they are
finished, however long the others take, and what is handed in depends on nothing but that moment. -/
namespace GeoFleet

/-- Some work under way: the time, who is not finished yet, and what was handed in so far. -/
structure Flight (ι α : Type) where
  clock : Nat
  pending : List ι
  landed : List α

namespace Flight

variable {ι α : Type} {poll : ι → Nat → Option α} {items : List ι} {f g : Flight ι α}

def start (items : List ι) : Flight ι α := ⟨0,items,[]⟩

/-- What may happen next. A poll at the time of the clock tells what has come of an item, if it is finished. -/
inductive Step (poll : ι → Nat → Option α) : Flight ι α → Flight ι α → Prop where
  | land {clock : Nat} {before after : List ι} {i : ι} {landed : List α} {result : α}
      (finished : poll i clock = some result) :
      Step poll ⟨clock,before ++ i :: after,landed⟩ ⟨clock,before ++ after,landed ++ [result]⟩
  | wait {clock : Nat} {pending : List ι} {landed : List α} (left : pending ≠ [])
      (waiting : ∀ i ∈ pending, poll i clock = none) :
      Step poll ⟨clock,pending,landed⟩ ⟨clock + 1,pending,landed⟩
  /-- Nothing is left to wait for. -/
  | rest {clock : Nat} {landed : List α} : Step poll ⟨clock,[],landed⟩ ⟨clock,[],landed⟩

/-- A run that never stops for as long as something can happen. -/
structure Run (poll : ι → Nat → Option α) (items : List ι) (run : Nat → Flight ι α) : Prop where
  first : run 0 = start items
  next : ∀ n, Step poll (run n) (run (n + 1))

theorem exists_step (poll : ι → Nat → Option α) (f : Flight ι α) : ∃ g, Step poll f g := by
  obtain ⟨clock,pending,landed⟩ := f
  by_cases left : pending = []
  · subst left
    exact ⟨_,.rest⟩
  · by_cases waiting : ∀ i ∈ pending, poll i clock = none
    · exact ⟨_,.wait left waiting⟩
    · push Not at waiting
      obtain ⟨i,member,finished⟩ := waiting
      obtain ⟨before,after,rfl⟩ := List.append_of_mem member
      obtain ⟨result,finished⟩ := Option.ne_none_iff_exists'.mp finished
      exact ⟨_,.land finished⟩

theorem exists_run (poll : ι → Nat → Option α) (items : List ι) : ∃ run, Run poll items run := by
  choose next steps using exists_step poll
  exact ⟨fun n => next^[n] (start items),rfl,fun n => by
    rw [Function.iterate_succ_apply']
    exact steps _⟩

structure Ends (poll : ι → Nat → Option α) (i : ι) (time : Nat) (result : α) : Prop where
  waits : ∀ clock < time, poll i clock = none
  finishes : poll i time = some result

/-- Nobody is late, and what was handed in has come of those who are not under way any more. -/
structure OnTime (items : List ι) (time : ι → Nat) (result : ι → α) (f : Flight ι α) : Prop where
  listed : ∀ i ∈ f.pending, i ∈ items
  due : ∀ i ∈ f.pending, f.clock ≤ time i
  /-- It takes no longer than the slowest does. -/
  within : ∀ limit, (∀ i ∈ items, time i ≤ limit) → f.clock ≤ limit
  results : (f.landed ++ f.pending.map result).Perm (items.map result)

variable {time : ι → Nat} {result : ι → α} {limit : Nat}

theorem start_onTime (items : List ι) (time : ι → Nat) (result : ι → α) :
    (start items).OnTime items time result :=
  ⟨fun _ member => member,fun _ _ => Nat.zero_le _,fun _ _ => Nat.zero_le _,.refl _⟩

/-- Whoever is found finished is so just now. -/
theorem OnTime.now (ends : ∀ i ∈ items, Ends poll i (time i) (result i)) (valid : f.OnTime items time result)
    {i : ι} (member : i ∈ f.pending) (finished : poll i f.clock = some handed) :
    f.clock = time i ∧ handed = result i := by
  have ending := ends i (valid.listed i member)
  have now : f.clock = time i := by
    by_contra apart
    have early : f.clock < time i := Nat.lt_of_le_of_ne (valid.due i member) apart
    rw [ending.waits _ early] at finished
    cases finished
  rw [now,ending.finishes] at finished
  exact ⟨now,(Option.some.inj finished).symm⟩

/-- Whoever is not finished yet has time left. -/
theorem OnTime.later (ends : ∀ i ∈ items, Ends poll i (time i) (result i)) (valid : f.OnTime items time result)
    {i : ι} (member : i ∈ f.pending) (waiting : poll i f.clock = none) : f.clock < time i := by
  refine Nat.lt_of_le_of_ne (valid.due i member) ?_
  intro now
  rw [now,(ends i (valid.listed i member)).finishes] at waiting
  cases waiting

theorem Step.onTime (ends : ∀ i ∈ items, Ends poll i (time i) (result i)) (valid : f.OnTime items time result)
    (step : Step poll f g) : g.OnTime items time result := by
  cases step with
  | @land clock before after i landed handed finished =>
    have own : i ∈ before ++ i :: after := List.mem_append_right _ List.mem_cons_self
    have others : before ++ after ⊆ before ++ i :: after :=
      ((List.sublist_cons_self i after).append_left before).subset
    obtain ⟨_,rfl⟩ := valid.now ends own finished
    have moved : (landed ++ [result i] ++ (before ++ after).map result).Perm
        (landed ++ (before ++ i :: after).map result) := by
      simpa using (List.perm_middle.symm).append_left landed
    exact ⟨fun j member => valid.listed j (others member),fun j member => valid.due j (others member),
      valid.within,moved.trans valid.results⟩
  | wait left waiting =>
    have later := fun i member => valid.later ends member (waiting i member)
    refine ⟨valid.listed,later,?_,valid.results⟩
    intro limit slowest
    obtain ⟨i,member⟩ := List.exists_mem_of_ne_nil _ left
    exact Nat.le_trans (later i member) (slowest i (valid.listed i member))
  | rest => exact valid

/-- Each step hands something in or comes closer to the time of the slowest. -/
theorem Step.nearer (ends : ∀ i ∈ items, Ends poll i (time i) (result i)) (slowest : ∀ i ∈ items, time i ≤ limit)
    (valid : f.OnTime items time result) (step : Step poll f g) (left : f.pending ≠ []) :
    g.pending.length + (limit - g.clock) < f.pending.length + (limit - f.clock) := by
  have after := (step.onTime ends valid).within limit slowest
  cases step with
  | land finished =>
    simp only [List.length_append,List.length_cons]
    omega
  | wait _ waiting =>
    simp only at after ⊢
    omega
  | rest => exact absurd rfl left

theorem Run.onTime {run : Nat → Flight ι α} (runs : Run poll items run)
    (ends : ∀ i ∈ items, Ends poll i (time i) (result i)) (n : Nat) : (run n).OnTime items time result := by
  induction n with
  | zero => rw [runs.first]; exact start_onTime items time result
  | succ n ih => exact (runs.next n).onTime ends ih

theorem Run.nearer {run : Nat → Flight ι α} (runs : Run poll items run)
    (ends : ∀ i ∈ items, Ends poll i (time i) (result i)) (slowest : ∀ i ∈ items, time i ≤ limit) (n : Nat) :
    (run n).pending = [] ∨ n + ((run n).pending.length + (limit - (run n).clock)) ≤ items.length + limit := by
  induction n with
  | zero => rw [runs.first]; right; simp [start]
  | succ n ih =>
    have step := runs.next n
    by_cases left : (run n).pending = []
    · left
      generalize run n = f,run (n + 1) = g at *
      cases step with
      | land => simp at left
      | wait some_left => exact absurd left some_left
      | rest => rfl
    · have closer := step.nearer ends slowest (runs.onTime ends n) left
      have before := ih.resolve_left left
      right
      omega

/-- However a run goes, it gets everything in by the time of the slowest, and what is handed in is what comes
of each item at its own time. -/
theorem Run.lands {run : Nat → Flight ι α} (runs : Run poll items run)
    (ends : ∀ i ∈ items, Ends poll i (time i) (result i)) (slowest : ∀ i ∈ items, time i ≤ limit) :
    (∃ n, (run n).pending = []) ∧
      ∀ n, (run n).clock ≤ limit ∧ ((run n).pending = [] → (run n).landed.Perm (items.map result)) := by
  constructor
  · refine ⟨items.length + limit + 1,(runs.nearer ends slowest _).resolve_right ?_⟩
    omega
  · intro n
    have valid := runs.onTime ends n
    refine ⟨valid.within limit slowest,?_⟩
    intro done
    have results := valid.results
    rwa [done,List.map_nil,List.append_nil] at results

end Flight

end GeoFleet
