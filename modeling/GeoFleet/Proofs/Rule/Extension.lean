import GeoFleet.Proofs.Rule.Views

/-! The snapshot that rules see. Where the statistics of a target can be read, observing it does not fail,
and each sample gets the views that the statistics of its own field give, as they were before the pass. -/
namespace GeoFleet

namespace Store

def Readable (s : Store) (target : String) : Prop :=
  ∀ field, ∃ stats, s.fieldStats? target field = .ok stats

theorem fieldStats?_history {s : Store} (read : s.fieldStats? target field = .ok stats) :
    s.history? target field = stats :=
  Table.join_of_read? read

def extended (s : Store) (target : String) (raw : Snapshot) : Snapshot :=
  raw.toList.foldl (fun x sample => extend x sample.1 sample.2 (s.history? target sample.1)) raw

theorem foldSample_readable {s : Store} (read : s.fieldStats? target field = .ok stats) (value : Float)
    (now : Nat) : ∃ next, s.foldSample target field value now = .ok (stats,next) ∧
      ∀ other, other ≠ field → next.fieldStats? target other = s.fieldStats? target other := by
  have read : s.fieldStats.read? (Key.fieldStats target field) = .ok stats := read
  refine ⟨_,by rw [foldSample,read]; rfl,?_⟩
  intro other apart
  have elsewhere : Key.fieldStats target field ≠ Key.fieldStats target other :=
    fun same => apart (Key.fieldStats_injective same).symm
  simp only [fieldStats?,Table.read?,getElem?_insert_ne elsewhere]

theorem observeSamples_readable {s : Store} (past : String → Option FieldStats) (now : Nat)
    {samples : List (String × Float)} (distinct : samples.Pairwise fun a b => a.1 ≠ b.1)
    (readable : ∀ sample ∈ samples, s.fieldStats? target sample.1 = .ok (past sample.1)) (out : Snapshot) :
    (observeSamples target now samples out s).1 =
      .ok (samples.foldl (fun x sample => extend x sample.1 sample.2 (past sample.1)) out) := by
  induction samples generalizing s out with
  | nil => rfl
  | cons sample rest ih =>
    obtain ⟨field,value⟩ := sample
    obtain ⟨first,distinct⟩ := List.pairwise_cons.mp distinct
    obtain ⟨next,folded,kept⟩ := foldSample_readable (readable (field,value) List.mem_cons_self) value now
    have readable : ∀ sample ∈ rest, next.fieldStats? target sample.1 = .ok (past sample.1) := by
      intro sample member
      rw [kept sample.1 (first sample member).symm]
      exact readable sample (List.mem_cons_of_mem _ member)
    cases known : past field with
    | none => simpa [observeSamples,folded,known,extend] using ih distinct readable out
    | some earlier =>
      simpa [observeSamples,folded,known,extend] using ih distinct readable (addViews out field value earlier)

/-- Observing a target whose statistics can be read gives its extended snapshot. -/
theorem Readable.observe {s : Store} (readable : s.Readable target) (raw : Snapshot) (now : Nat) :
    (s.observe target raw now).1 = .ok (s.extended target raw) := by
  refine observeSamples_readable (s.history? target) now raw.distinct_fields ?_ raw
  intro sample _
  obtain ⟨stats,read⟩ := readable sample.1
  rw [read,fieldStats?_history read]

/-- A target without statistics has no views. -/
theorem extended_unknown {s : Store} (unknown : ∀ field, s.fieldStats[Key.fieldStats target field]? = none)
    (raw : Snapshot) : s.extended target raw = raw := by
  have bare : ∀ (samples : List (String × Float)) (out : Snapshot), samples.foldl
      (fun x sample => extend x sample.1 sample.2 (s.history? target sample.1)) out = out := by
    intro samples out
    induction samples with
    | nil => rfl
    | cons sample rest ih => rw [List.foldl_cons,history?,unknown]; exact ih
  exact bare raw.toList raw

theorem readable_unknown {s : Store} (unknown : ∀ field, s.fieldStats[Key.fieldStats target field]? = none) :
    s.Readable target :=
  fun field => ⟨none,by simp only [fieldStats?,Table.read?,unknown field]⟩

end Store

end GeoFleet
