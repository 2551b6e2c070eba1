import GeoFleet.Proofs.Catalog.Relation
import GeoFleet.Proofs.Rule.Bids

/-! Which rules are listed for a target. Hosts are known by their address, workloads by their id, service
and app, and all these names share one relation of associations. A rule looks its targets up under the
name that belongs to its own kind, so that equal names of another kind never reach it. -/
namespace GeoFleet.Catalog

inductive Covers (R : Set (String × String)) (r : Rule) (t : Target) : Prop where
  | host (sort : r.kind = .host) (own : t.kind = .host)
      (meant : r.generic = true ∨ (r.name,t.host.publicAddress) ∈ R)
  | container (sort : r.kind = .container) (workload : t.kind ≠ .host)
      (meant : r.generic = true ∨ (r.name,t.id) ∈ R)
  | service (sort : r.kind = .service) (workload : t.kind ≠ .host)
      (meant : r.generic = true ∨ ∃ name, t.service = some name ∧ (r.name,name) ∈ R)
  | app (sort : r.kind = .app) (workload : t.kind ≠ .host)
      (meant : r.generic = true ∨ ∃ name, t.app = some name ∧ (r.name,name) ∈ R)

structure Current (c : Catalog) (r : Rule) (resolved : ResolvedRule) : Prop where
  listed : c.rules[r.name]? = some r
  meaning : ResolvedRule.Of r resolved
  defined : List.Forall₂ (fun (condition : String) (d : Condition) => c.conditions[condition]? = some d)
    r.conditions resolved.conditions

variable {c : Catalog} {R : Set (String × String)} {r : Rule} {t : Target} {resolved : ResolvedRule}

theorem Covers.sort_iff (covers : Covers R r t) : r.kind = .host ↔ t.kind = .host := by
  cases covers with
  | host sort own _ => exact iff_of_true sort own
  | container sort workload _ | service sort workload _ | app sort workload _ =>
    exact iff_of_false (by simp [sort]) workload

/-- What reaches a target without being for all is associated with its name for the kind of the rule. -/
theorem Covers.associated (covers : Covers R r t) (some_only : r.generic = false) :
    ∃ name, t.nameFor r.kind = some name ∧ (r.name,name) ∈ R := by
  cases covers with
  | host sort _ meant => exact ⟨_,by rw [sort]; rfl,meant.resolve_left (by simp [some_only])⟩
  | container sort _ meant => exact ⟨_,by rw [sort]; rfl,meant.resolve_left (by simp [some_only])⟩
  | service sort _ meant => rw [sort]; exact meant.resolve_left (by simp [some_only])
  | app sort _ meant => rw [sort]; exact meant.resolve_left (by simp [some_only])

theorem covers_iff : Covers R r t ↔ (r.kind = .host ↔ t.kind = .host) ∧
    (r.generic = true ∨ ∃ name, t.nameFor r.kind = some name ∧ (r.name,name) ∈ R) := by
  constructor
  · intro covers
    refine ⟨covers.sort_iff,?_⟩
    cases everywhere : r.generic with
    | true => exact .inl rfl
    | false => exact .inr (covers.associated everywhere)
  · rintro ⟨sort,meant⟩
    cases kind : r.kind with
    | host =>
      rw [kind] at meant
      exact .host kind (sort.mp kind) (by simpa [Target.nameFor] using meant)
    | container =>
      rw [kind] at meant sort
      exact .container kind (by simpa using sort) (by simpa [Target.nameFor] using meant)
    | service =>
      rw [kind] at meant sort
      exact .service kind (by simpa using sort) meant
    | app =>
      rw [kind] at meant sort
      exact .app kind (by simpa using sort) meant

theorem Mirrors.applies_iff (mirrors : c.Mirrors R) : c.applies t r = true ↔ Covers R r t := by
  simp only [Catalog.applies_iff,covers_iff,mirrors.byTarget]

theorem Whole.current_iff (whole : c.Whole) (listed : c.rules[r.name]? = some r) :
    c.resolve r.name = .ok resolved ↔ c.Current r resolved := by
  have current : ∀ {found}, c.resolve r.name = .ok found → c.Current r found := fun done =>
    ⟨listed,whole.resolve_of listed done,resolve_conditions listed done⟩
  refine ⟨current,?_⟩
  -- What is resolved and what is current agree part by part, so they are one.
  intro known
  obtain ⟨found,done⟩ := whole.resolves listed
  have other := current done
  have conditions : List.Forall₂ Eq found.conditions resolved.conditions := by
    refine forall₂_join other.defined known.defined ?_
    intro condition _ d e left right
    exact Option.some.inj (left.symm.trans right)
  rw [List.forall₂_eq_eq_eq] at conditions
  have same : found = resolved := by
    obtain ⟨name,kind,priority,decision,_⟩ := other.meaning
    obtain ⟨name',kind',priority',decision',_⟩ := known.meaning
    cases found; cases resolved
    simp_all
  rw [done,same]

theorem Whole.resolve_name (whole : c.Whole) (done : c.resolve name = .ok resolved) : resolved.name = name := by
  obtain ⟨r,found,same,_⟩ := resolve_ok done
  exact same.trans (whole.named name r found)

/-- Wherever operations lead, the rules of a target can be listed: once each, by name and as they are
defined at the moment, those that are for all targets of its sort and those associated with the name
that it has for the kind of the rule. No rule for hosts is listed for a workload and no other for a
host, and an association never reaches a target under its name for another kind. -/
theorem rules_listed_exactly (operations : List Edit) (t : Target) :
    let c := history operations
    ∃ listed, c.rulesFor t = .ok listed ∧
      (listed.map (·.name)).Pairwise (fun a b => Text.bytes a < Text.bytes b) ∧
      (∀ resolved, resolved ∈ listed ↔ ∃ r, c.Current r resolved ∧ Covers (related operations) r t) ∧
      ∀ resolved ∈ listed, (resolved.kind = .host ↔ t.kind = .host) ∧
        ∀ r, c.Current r resolved → r.generic = false →
          ∃ name, t.nameFor r.kind = some name ∧ (r.name,name) ∈ related operations := by
  intro c
  have whole : c.Whole := (history_built operations).whole
  have mirrors : c.Mirrors (related operations) := mirrors_related operations
  obtain ⟨listed,listing⟩ := whole.lists t
  obtain ⟨sound,complete⟩ := whole.mem_rulesFor listing
  have exactly : ∀ resolved, resolved ∈ listed ↔
      ∃ r, c.Current r resolved ∧ Covers (related operations) r t := by
    intro resolved
    constructor
    · intro member
      obtain ⟨r,applies,done⟩ := sound resolved member
      have covers := Catalog.applies_iff.mpr ⟨applies.sort,applies.meant⟩
      exact ⟨r,(whole.current_iff applies.listed).mp done,mirrors.applies_iff.mp covers⟩
    · rintro ⟨r,current,covers⟩
      obtain ⟨sort,meant⟩ := Catalog.applies_iff.mp (mirrors.applies_iff.mpr covers)
      obtain ⟨found,member,done⟩ := complete r ⟨current.listed,sort,meant⟩
      rw [(whole.current_iff current.listed).mpr current] at done
      cases done
      exact member
  refine ⟨listed,listing,?_,exactly,?_⟩
  · rw [List.pairwise_map]
    apply pairwise_of_forall₂ (forall₂_of_mapM_ok listing) (List.pairwise_map.mp (whole.names_ordered _))
    intro a b x y less first second
    rw [whole.resolve_name first,whole.resolve_name second]
    exact less
  · intro resolved member
    obtain ⟨r,current,covers⟩ := (exactly resolved).mp member
    refine ⟨by rw [current.meaning.kind]; exact covers.sort_iff,?_⟩
    intro other again some_only
    have same : other = r := by
      have names : other.name = r.name := again.meaning.name.symm.trans current.meaning.name
      have found := again.listed
      rw [names,current.listed] at found
      exact (Option.some.inj found).symm
    subst same
    exact covers.associated some_only

end GeoFleet.Catalog
