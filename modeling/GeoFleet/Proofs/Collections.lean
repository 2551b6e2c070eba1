import Mathlib.Data.List.Forall2
import Mathlib.Data.List.Induction
import Std.Data.ExtTreeMap

/-! Facts about lists and ordered maps that the developments below share: what a successful
traversal or fold leaves, and which values a map lists. -/
namespace GeoFleet

theorem bind_eq_ok {x : Except ε α} {f : α → Except ε β} :
    x >>= f = .ok b ↔ ∃ a, x = .ok a ∧ f a = .ok b := by
  cases x with
  | error err =>
    constructor
    · intro h; cases h
    · rintro ⟨a,h,_⟩; cases h
  | ok a =>
    constructor
    · intro h; exact ⟨a,rfl,h⟩
    · rintro ⟨a,h,rest⟩; cases h; exact rest

theorem exists_bind_ok {x : Except ε α} {f : α → Except ε β} (first : ∃ a, x = .ok a)
    (rest : ∀ a, ∃ b, f a = .ok b) : ∃ b, (x >>= f) = .ok b := by
  obtain ⟨a,done⟩ := first
  obtain ⟨b,then_done⟩ := rest a
  exact ⟨b,bind_eq_ok.mpr ⟨a,done,then_done⟩⟩

theorem mapError_eq_ok {x : Except ε α} {f : ε → ε'} : x.mapError f = .ok a ↔ x = .ok a := by
  cases x with
  | error err =>
    constructor
    · intro h; cases h
    · intro h; cases h
  | ok b =>
    constructor
    · intro h; cases h; rfl
    · intro h; cases h; rfl

theorem toOption_isSome_iff {x : Except ε α} : x.toOption.isSome = true ↔ ∃ a, x = .ok a := by
  cases x with
  | error err => simp [Except.toOption]
  | ok a => simp [Except.toOption]

theorem toOption_any_iff {x : Except ε α} {p : α → Bool} :
    x.toOption.any p = true ↔ ∃ a, x = .ok a ∧ p a = true := by
  cases x with
  | error err => simp [Except.toOption]
  | ok a => simp [Except.toOption]

/-- A traversal that succeeds relates its elements to its results one by one. -/
theorem forall₂_of_mapM_ok {f : α → Except ε β} {l : List α} {out : List β}
    (done : l.mapM f = .ok out) : List.Forall₂ (fun a b => f a = .ok b) l out := by
  induction l generalizing out with
  | nil => cases done; exact .nil
  | cons a l ih =>
    rw [List.mapM_cons] at done
    obtain ⟨b,head,rest⟩ := bind_eq_ok.mp done
    obtain ⟨bs,tail,same⟩ := bind_eq_ok.mp rest
    cases same
    exact .cons head (ih tail)

/-- A traversal succeeds when every step does. -/
theorem exists_mapM_ok {f : α → Except ε β} {l : List α} (each : ∀ a ∈ l, ∃ b, f a = .ok b) :
    ∃ out, l.mapM f = .ok out := by
  induction l with
  | nil => exact ⟨[],rfl⟩
  | cons a l ih =>
    have tail := ih fun a member => each a (List.mem_cons_of_mem _ member)
    rw [List.mapM_cons]
    exact exists_bind_ok (each a List.mem_cons_self) fun b => exists_bind_ok tail fun bs => ⟨b :: bs,rfl⟩

theorem forall₂_of_mapM_some {f : α → Option β} {l : List α} {out : List β}
    (done : l.mapM f = some out) : List.Forall₂ (fun a b => f a = some b) l out := by
  induction l generalizing out with
  | nil => cases done; exact .nil
  | cons a l ih =>
    rw [List.mapM_cons] at done
    obtain ⟨b,head,rest⟩ := Option.bind_eq_some_iff.mp done
    obtain ⟨bs,tail,same⟩ := Option.bind_eq_some_iff.mp rest
    cases same
    exact .cons head (ih tail)

theorem exists_mapM_some {f : α → Option β} {l : List α} (each : ∀ a ∈ l, ∃ b, f a = some b) :
    ∃ out, l.mapM f = some out := by
  induction l with
  | nil => exact ⟨[],rfl⟩
  | cons a l ih =>
    obtain ⟨b,head⟩ := each a List.mem_cons_self
    obtain ⟨bs,tail⟩ := ih fun a member => each a (List.mem_cons_of_mem _ member)
    exact ⟨b :: bs,by simp [List.mapM_cons,head,tail]⟩

theorem exists_right_of_forall₂ {R : α → β → Prop} {l : List α} {out : List β}
    (related : List.Forall₂ R l out) (member : a ∈ l) : ∃ b ∈ out, R a b := by
  induction related with
  | nil => simp at member
  | @cons first b rest bs head _ ih =>
    rcases List.mem_cons.mp member with rfl | later
    · exact ⟨b,List.mem_cons_self,head⟩
    · obtain ⟨b,present,holds⟩ := ih later
      exact ⟨b,List.mem_cons_of_mem _ present,holds⟩

theorem exists_left_of_forall₂ {R : α → β → Prop} {l : List α} {out : List β}
    (related : List.Forall₂ R l out) (member : b ∈ out) : ∃ a ∈ l, R a b :=
  exists_right_of_forall₂ (R := flip R) related.flip member

/-- An order of a list becomes an order of a list that is related to it. -/
theorem pairwise_of_forall₂ {R : α → β → Prop} {S : α → α → Prop} {T : β → β → Prop} {l : List α}
    {out : List β} (related : List.Forall₂ R l out) (sorted : l.Pairwise S)
    (carried : ∀ a b x y, S a b → R a x → R b y → T x y) : out.Pairwise T := by
  induction related with
  | nil => exact .nil
  | cons head rest ih =>
    obtain ⟨first,sorted⟩ := List.pairwise_cons.mp sorted
    refine List.pairwise_cons.mpr ⟨?_,ih sorted⟩
    intro y member
    obtain ⟨b,present,same⟩ := exists_left_of_forall₂ rest member
    exact carried _ b _ y (first b present) head same

/-- Lists that are related to one list by each of two relations are related to each other. -/
theorem forall₂_join {R : α → β → Prop} {S : α → γ → Prop} {T : β → γ → Prop} {l : List α}
    {xs : List β} {ys : List γ} (left : List.Forall₂ R l xs) (right : List.Forall₂ S l ys)
    (joined : ∀ a ∈ l, ∀ x y, R a x → S a y → T x y) : List.Forall₂ T xs ys := by
  induction left generalizing ys with
  | nil => cases right; exact .nil
  | @cons a x l xs first _ ih =>
    cases right with
    | cons second rest =>
      refine .cons (joined a List.mem_cons_self x _ first second) (ih rest ?_)
      intro a member
      exact joined a (List.mem_cons_of_mem _ member)

/-- A property that every step keeps holds of the result of a fold that succeeds. -/
theorem foldlM_invariant {f : α → β → Except ε α} (property : α → Prop) {l : List β}
    (kept : ∀ a, ∀ b ∈ l, ∀ a', property a → f a b = .ok a' → property a')
    (initial : property a) (done : l.foldlM f a = .ok final) : property final := by
  induction l generalizing a with
  | nil => cases done; exact initial
  | cons b l ih =>
    rw [List.foldlM_cons] at done
    obtain ⟨next,step,rest⟩ := bind_eq_ok.mp done
    apply ih
    · intro a b member; exact kept a b (List.mem_cons_of_mem _ member)
    · exact kept a b List.mem_cons_self next initial step
    · exact rest

/-- Looking a list up from its end finds an element when there is one to find. -/
theorem exists_find?_reverse {p : α → Bool} {l : List α} (member : a ∈ l) (holds : p a = true) :
    ∃ b ∈ l, l.reverse.find? p = some b ∧ p b = true := by
  cases found : l.reverse.find? p with
  | none => exact absurd holds (List.find?_eq_none.mp found a (List.mem_reverse.mpr member))
  | some b =>
    exact ⟨b,List.mem_reverse.mp (List.mem_of_find?_eq_some found),rfl,List.find?_some found⟩

/-- Folding by a choice between two elements gives one of the elements. -/
theorem foldl_choice_mem {f : α → α → α} (choice : ∀ a b, f a b = a ∨ f a b = b) (l : List α) (a : α) :
    l.foldl f a ∈ a :: l := by
  induction l generalizing a with
  | nil => exact List.mem_cons_self
  | cons b l ih =>
    rw [List.foldl_cons]
    rcases choice a b with kept | taken
    · rw [kept]
      rcases List.mem_cons.mp (ih a) with same | later
      · rw [same]; exact List.mem_cons_self
      · exact List.mem_cons_of_mem _ (List.mem_cons_of_mem _ later)
    · rw [taken]
      exact List.mem_cons_of_mem _ (ih b)

/-- Keeping the lesser of two elements, and the first when they are level, ends with one that is not above
any other. -/
theorem foldl_least_isLE {cmp : α → α → Ordering} [Std.TransCmp cmp] {f : α → α → α}
    (least : ∀ a b, f a b = if cmp b a = .lt then b else a) (l : List α) (a : α) :
    ∀ b ∈ a :: l, (cmp (l.foldl f a) b).isLE := by
  induction l generalizing a with
  | nil => intro b member; simp [List.mem_singleton.mp member,Std.ReflCmp.compare_self]
  | cons c l ih =>
    have both : (cmp (f a c) a).isLE ∧ (cmp (f a c) c).isLE := by
      rw [least]
      split
      · rename_i less
        simp [less,Std.ReflCmp.compare_self]
      · rename_i other
        have above : (cmp a c).isLE := Ordering.isLE_iff_ne_gt.mpr (mt Std.OrientedCmp.gt_iff_lt.mp other)
        simp [above,Std.ReflCmp.compare_self]
    have whole := ih (f a c)
    have chosen := whole _ List.mem_cons_self
    intro b member
    rcases List.mem_cons.mp member with rfl | member
    · exact Std.TransCmp.isLE_trans chosen both.1
    · rcases List.mem_cons.mp member with rfl | later
      · exact Std.TransCmp.isLE_trans chosen both.2
      · exact whole b (List.mem_cons_of_mem _ later)

/-- Sorting puts elements that are never level in a strict order. -/
theorem mergeSort_ordered {cmp : α → α → Ordering} [Std.TransCmp cmp] {l : List α}
    (apart : l.Pairwise fun a b => cmp a b ≠ .eq) :
    (l.mergeSort fun a b => (cmp a b).isLE).Pairwise fun a b => cmp a b = .lt := by
  have total : ∀ a b : α, ((cmp a b).isLE || (cmp b a).isLE) = true := by
    intro a b
    have swapped : cmp b a = (cmp a b).swap := Std.OrientedCmp.eq_swap
    rw [swapped]
    cases cmp a b <;> rfl
  have sorted : (l.mergeSort fun a b => (cmp a b).isLE).Pairwise fun a b => (cmp a b).isLE = true :=
    List.pairwise_mergeSort (fun a b c => Std.TransCmp.isLE_trans) total l
  have turned : ∀ {a b : α}, cmp a b ≠ .eq → cmp b a ≠ .eq := fun ne same => ne (Std.OrientedCmp.eq_symm same)
  have kept : (l.mergeSort fun a b => (cmp a b).isLE).Pairwise fun a b => cmp a b ≠ .eq :=
    ((List.mergeSort_perm l _).pairwise_iff turned).mpr apart
  refine (sorted.and kept).imp ?_
  rintro a b ⟨ordered,ne⟩
  cases compared : cmp a b with
  | lt => rfl
  | eq => exact absurd compared ne
  | gt => rw [compared] at ordered; cases ordered

/-- Two properties that agree one element further, as long as both held so far, agree at all points of
a list. What both leave behind may serve the next step. -/
theorem forall_prefix_iff {left right kept : List α → Prop} (origin : kept []) (first : left [] ↔ right [])
    (step : ∀ l a, kept l → (left (l ++ [a]) ↔ right (l ++ [a])) ∧ (right (l ++ [a]) → kept (l ++ [a])))
    (l : List α) : ((∀ before, before <+: l → left before) ↔ ∀ before, before <+: l → right before) ∧
      ((∀ before, before <+: l → right before) → kept l) := by
  induction l using List.reverseRecOn with
  | nil => simpa [List.prefix_nil] using ⟨first,fun _ => origin⟩
  | append_singleton l a ih =>
    have split : ∀ property : List α → Prop, (∀ before, before <+: l ++ [a] → property before) ↔
        property (l ++ [a]) ∧ ∀ before, before <+: l → property before := by
      intro property
      simp [List.prefix_concat_iff,or_imp,forall_and]
    rw [split,split]
    constructor
    · constructor
      · rintro ⟨last,earlier⟩
        have earlier := ih.1.mp earlier
        exact ⟨(step l a (ih.2 earlier)).1.mp last,earlier⟩
      · rintro ⟨last,earlier⟩
        exact ⟨(step l a (ih.2 earlier)).1.mpr last,ih.1.mpr earlier⟩
    · rintro ⟨last,earlier⟩
      exact (step l a (ih.2 earlier)).2 last

variable {cmp : α → α → Ordering} [Std.TransCmp cmp] {m : Std.ExtTreeMap α β cmp}

theorem values_eq_map_toList (m : Std.ExtTreeMap α β cmp) : m.values = m.toList.map Prod.snd := by
  rcases m with ⟨m⟩
  refine m.inductionOn fun t => ?_
  -- The library states folds by the list of rows, but says nothing about `values`.
  change t.foldr (fun _ v l => v :: l) [] = (Std.DTreeMap.Const.toList t).map Prod.snd
  rw [Std.DTreeMap.Const.foldr_eq_foldr_toList]
  induction Std.DTreeMap.Const.toList t with
  | nil => rfl
  | cons row rows ih => simp [ih]

theorem mem_values_iff [Std.LawfulEqCmp cmp] {v : β} :
    v ∈ m.values ↔ ∃ k : α, m[k]? = some v := by
  rw [values_eq_map_toList, List.mem_map]
  constructor
  · rintro ⟨⟨k,v⟩,member,rfl⟩
    exact ⟨k,Std.ExtTreeMap.mem_toList_iff_getElem?_eq_some.mp member⟩
  · rintro ⟨k,found⟩
    exact ⟨(k,v),Std.ExtTreeMap.mem_toList_iff_getElem?_eq_some.mpr found,rfl⟩

theorem values_filter (m : Std.ExtTreeMap α β cmp) (p : β → Bool) :
    (m.filter fun _ v => p v).values = m.values.filter p := by
  rw [values_eq_map_toList, values_eq_map_toList, Std.ExtTreeMap.toList_filter, List.filter_map]
  rfl

@[simp] theorem length_values (m : Std.ExtTreeMap α β cmp) : m.values.length = m.size := by
  rw [values_eq_map_toList, List.length_map, Std.ExtTreeMap.length_toList]

/-- What stands in a map after an insertion is the new value, or stood there before. -/
theorem getElem?_insert_eq_some [Std.LawfulEqCmp cmp] {k a : α} {v x : β}
    (found : (m.insert k v)[a]? = some x) : (k = a ∧ v = x) ∨ (k ≠ a ∧ m[a]? = some x) := by
  rw [Std.ExtTreeMap.getElem?_insert] at found
  split at found
  · rename_i same
    exact .inl ⟨Std.LawfulEqCmp.eq_of_compare same,Option.some.inj found⟩
  · rename_i apart
    exact .inr ⟨fun same => apart (Std.LawfulEqCmp.compare_eq_iff_eq.mpr same),found⟩

theorem getElem?_erase_eq_some [Std.LawfulEqCmp cmp] {k a : α} {x : β}
    (found : (m.erase k)[a]? = some x) : k ≠ a ∧ m[a]? = some x := by
  rw [Std.ExtTreeMap.getElem?_erase] at found
  split at found
  · cases found
  · rename_i apart
    exact ⟨fun same => apart (Std.LawfulEqCmp.compare_eq_iff_eq.mpr same),found⟩

/-- What holds of all values of a map and of a new one holds of all values after the insertion. -/
theorem forall_insert [Std.LawfulEqCmp cmp] {property : α → β → Prop} {k : α} {v : β}
    (before : ∀ (a : α) (x : β), m[a]? = some x → property a x) (new : property k v) :
    ∀ (a : α) (x : β), (m.insert k v)[a]? = some x → property a x := by
  intro a x found
  rcases getElem?_insert_eq_some found with ⟨rfl,rfl⟩ | ⟨_,present⟩
  · exact new
  · exact before a x present

theorem forall_erase [Std.LawfulEqCmp cmp] {property : α → β → Prop} {k : α}
    (before : ∀ (a : α) (x : β), m[a]? = some x → property a x) :
    ∀ (a : α) (x : β), (m.erase k)[a]? = some x → property a x := by
  intro a x found
  exact before a x (getElem?_erase_eq_some found).2

theorem getElem?_insert_ne [Std.LawfulEqCmp cmp] {k a : α} {v : β} (apart : k ≠ a) :
    (m.insert k v)[a]? = m[a]? := by
  rw [Std.ExtTreeMap.getElem?_insert,if_neg (mt Std.LawfulEqCmp.eq_of_compare apart)]

theorem getElem?_erase_ne [Std.LawfulEqCmp cmp] {k a : α} (apart : k ≠ a) :
    (m.erase k)[a]? = m[a]? := by
  rw [Std.ExtTreeMap.getElem?_erase,if_neg (mt Std.LawfulEqCmp.eq_of_compare apart)]

/-- Erasing a key without a value changes nothing. -/
theorem erase_of_none [Std.LawfulEqCmp cmp] {k : α} (absent : m[k]? = none) : m.erase k = m := by
  apply Std.ExtTreeMap.ext_getElem?
  intro a
  by_cases same : k = a
  · subst same; simp [absent]
  · rw [getElem?_erase_ne same]

theorem filter_erase [Std.LawfulEqCmp cmp] (m : Std.ExtTreeMap α β cmp) (p : β → Bool) (k : α) :
    ((m.erase k).filter fun _ v => p v) = (m.filter fun _ v => p v).erase k := by
  apply Std.ExtTreeMap.ext_getElem?
  intro a
  by_cases same : k = a
  · subst same; simp
  · simp only [Std.ExtTreeMap.getElem?_filter',getElem?_erase_ne same]

theorem filter_insert_of_true [Std.LawfulEqCmp cmp] (m : Std.ExtTreeMap α β cmp) {p : β → Bool} (k : α)
    (holds : p v = true) :
    ((m.insert k v).filter fun _ v => p v) = (m.filter fun _ v => p v).insert k v := by
  apply Std.ExtTreeMap.ext_getElem?
  intro a
  by_cases same : k = a
  · subst same; simp [holds]
  · simp only [Std.ExtTreeMap.getElem?_filter',getElem?_insert_ne same]

/-- Putting a value that a filter leaves out in the place of another such value changes nothing that
the filter lets through. -/
theorem filter_insert_of_false [Std.LawfulEqCmp cmp] (m : Std.ExtTreeMap α β cmp) {p : β → Bool} {k : α}
    (fails : p v = false) (before : ∀ old, m[k]? = some old → p old = false) :
    ((m.insert k v).filter fun _ v => p v) = m.filter fun _ v => p v := by
  apply Std.ExtTreeMap.ext_getElem?
  intro a
  by_cases same : k = a
  · subst same
    cases found : m[k]? with
    | none => simp [fails,found]
    | some old => simp [found,Option.filter,fails,before old found]
  · simp only [Std.ExtTreeMap.getElem?_filter',getElem?_insert_ne same]

section Fills

variable {γ : Type} {f : Std.ExtTreeMap α β cmp → γ → Std.ExtTreeMap α β cmp}
  {key : γ → α} {value : γ → Option β} {entries : List γ} {k : α} {v : β}

/-- Steps that leave the value of an entry under its key, if it has a value and the key is free, and change
nothing else. -/
structure Fills (f : Std.ExtTreeMap α β cmp → γ → Std.ExtTreeMap α β cmp) (key : γ → α)
    (value : γ → Option β) : Prop where
  own : ∀ m entry, m[key entry]? = none → (f m entry)[key entry]? = value entry
  others : ∀ m entry k, key entry ≠ k → (f m entry)[k]? = m[k]?

/-- With entries of different keys, each key has the value of its own entry. -/
theorem Fills.getElem?_eq_some_iff (fills : Fills f key value) (distinct : (entries.map key).Nodup) :
    (entries.foldl f ∅)[k]? = some v ↔ ∃ entry ∈ entries, key entry = k ∧ value entry = some v := by
  induction entries using List.reverseRecOn generalizing k v with
  | nil => simp
  | append_singleton entries last ih =>
    rw [List.map_append,List.nodup_append] at distinct
    obtain ⟨earlier,_,apart⟩ := distinct
    have free : (entries.foldl f ∅)[key last]? = none := by
      rw [Option.eq_none_iff_forall_ne_some]
      intro w found
      obtain ⟨entry,listed,same,_⟩ := (ih earlier).mp found
      exact apart _ (List.mem_map_of_mem listed) (key last) (by simp) same
    rw [List.foldl_append,List.foldl_cons,List.foldl_nil]
    simp only [List.mem_append,List.mem_singleton,or_and_right,exists_or,exists_eq_left]
    by_cases own : key last = k
    · subst own
      rw [fills.own _ last free]
      simp only [true_and,iff_or_self]
      intro stored
      rw [(ih earlier).mpr stored] at free
      cases free
    · rw [fills.others _ last k own,ih earlier]
      simp only [own,false_and,or_false]

/-- Entries of different keys can come in any order. -/
theorem Fills.perm [Std.LawfulEqCmp cmp] {entries' : List γ} (fills : Fills f key value)
    (reordered : entries'.Perm entries) (distinct : (entries.map key).Nodup) :
    entries'.foldl f ∅ = entries.foldl f ∅ := by
  have distinct' : (entries'.map key).Nodup := (reordered.map _).nodup_iff.mpr distinct
  apply Std.ExtTreeMap.ext_getElem?
  intro k
  ext v
  rw [fills.getElem?_eq_some_iff distinct,fills.getElem?_eq_some_iff distinct']
  simp only [reordered.mem_iff]

end Fills

end GeoFleet
