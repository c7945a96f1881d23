import LateBinding.Proofs.Registry.Slots

/-!
# Consistent registries

The table of names and the table of types are inverse to each other, and the list of ancestors of a
type is what it was when the type was registered: it starts with the type, ends with the root, and
goes on, from each ancestor, as the list of this ancestor. A type keeps its list when an ancestor is
unloaded, so the lists of one time are compared with those of any earlier time.

Assignability follows the lists, which makes it a preorder and, between known types, an order.
-/

namespace LateBinding.Registry

variable {reg reg' earlier : Registry} {next t u type : TypeId} {d e base : Descriptor}
  {st st' : Store} {spec : TypeSpec} {name : String}

/-- What the two tables say fits together. -/
structure Consistent (reg : Registry) : Prop where
  names : ∀ {name t}, reg.names.get? name = some t ↔ ∃ d, reg.get? t = some d ∧ d.name = name
  id : ∀ {t d}, reg.get? t = some d → d.id = t
  head : ∀ {t d}, reg.get? t = some d → d.ancestors.head? = some t
  root : ∀ {t d}, reg.get? t = some d → d.ancestors.getLast? = some TypeId.object
  nodup : ∀ {t d}, reg.get? t = some d → d.ancestors.Nodup
  value : ∀ {t d}, reg.get? t = some d → d.isValueType = true → d.ancestors = [t, TypeId.object]

/-- What is known of a type does not change with time, and a type that is known later goes on, from
an ancestor that was known earlier, as this ancestor did; no value type is an ancestor of another
type. -/
structure Precedes (earlier later : Registry) : Prop where
  same : ∀ {t e d}, earlier.get? t = some e → later.get? t = some d → e = d
  suffix : ∀ {t u e d}, later.get? t = some d → earlier.get? u = some e → u ∈ d.ancestors →
    e.ancestors <:+ d.ancestors
  reference : ∀ {t u e d}, later.get? t = some d → earlier.get? u = some e → u ∈ d.ancestors →
    u ≠ t → e.isValueType = false

/-! ### Registering a type -/

/-- What a registration adds, with the checks that the definition has passed. -/
structure Admitted (reg : Registry) (spec : TypeSpec) (type : TypeId) (base d : Descriptor)
    (reg' : Registry) : Prop extends Registered reg spec type base d reg' where
  name : d.name = spec.name
  value : d.isValueType = spec.isValueType
  names : ∀ name, reg'.names.get? name =
    if name = spec.name then some type else reg.names.get? name
  free : reg.names.get? spec.name = none
  base_reference : base.isValueType = false
  base_root : spec.isValueType = true → base.id = TypeId.object

/-- A definition that is in order has a name of its own and a base that is no value type, and that
is the root if the definition is one of a value type. -/
lemma checkSpec_eq_ok (h : reg.checkSpec spec = .ok base) :
    reg.names.get? spec.name = none ∧ base.isValueType = false ∧
      (spec.isValueType = true → base.id = TypeId.object) := by
  have hknown := known_of_get?_eq_some (get?_base_of_checkSpec h)
  rw [checkSpec, hknown] at h
  split at h
  · cases h
  rename_i hfree
  simp only [bind, Except.bind] at h
  split at h
  · cases h
  rename_i hreference
  split at h
  · cases h
  rename_i hroot
  refine ⟨?_, by simpa using hreference, fun hvalue => ?_⟩
  · simpa [Table.contains] using hfree
  · simpa [hvalue] using hroot

/-- The next identifier is not known. -/
lemma Valid.get?_next (hv : reg.Valid next) : reg.get? next = none := by
  by_contra hne
  obtain ⟨d, hd⟩ := Option.ne_none_iff_exists'.mp hne
  exact Nat.lt_irrefl _ (hv.allocated hd)

lemma admitted_of_register (h : reg.register st spec = .ok (type, reg', st')) :
    type = st.nextType ∧ st'.nextType = st.nextType.next ∧
      ∃ base d, Admitted reg spec type base d reg' := by
  obtain ⟨base, hcheck⟩ := checkSpec_of_register h
  obtain ⟨hfree, hreference, hroot⟩ := checkSpec_eq_ok hcheck
  obtain ⟨rfl, hnext, base', d, hreg⟩ := registered_of_register h
  obtain ⟨base'', hbase, -, hid, hadd, hd, -⟩ :=
    register_eq_ok h ((hreg.get? st.nextType).trans (if_pos rfl))
  obtain rfl := Option.some.inj (hreg.base_known.symm.trans (get?_base_of_checkSpec hcheck))
  have hname : d.name = spec.name := by rw [hd, Layout.toDescriptor]
  refine ⟨rfl, hnext, base', d, hreg, hname, ?_, fun name => ?_, hfree, hreference, hroot⟩
  · rw [hd, Layout.toDescriptor]
  · rw [hadd, ← hname, ← hid]
    exact Table.get?_insert reg.names d.name name d.id

namespace Admitted

variable (h : Admitted reg spec next base d reg') (hv : reg.Valid next)
include h hv

/-- A new type is known under no name before. -/
lemma consistent (hc : reg.Consistent) : reg'.Consistent where
  names := by
    intro name t
    rw [h.names, h.get?]
    split
    · -- the new name: no old type has it, or it would have been taken
      rename_i hname
      constructor
      · rintro ⟨⟩
        exact ⟨d, if_pos rfl, h.name.trans hname.symm⟩
      · rintro ⟨e, he, heq⟩
        by_contra hne
        rw [if_neg fun ht => hne (congrArg some ht.symm)] at he
        have htaken := hc.names.mpr ⟨e, he, heq⟩
        rw [hname, h.free] at htaken
        cases htaken
    · -- every other name: no type but an old one can have it
      rename_i hname
      rw [hc.names]
      constructor
      · rintro ⟨e, he, heq⟩
        refine ⟨e, (if_neg ?_).trans he, heq⟩
        rintro rfl
        rw [hv.get?_next] at he
        cases he
      · rintro ⟨e, he, heq⟩
        split at he
        · cases he
          exact absurd (heq.symm.trans h.name) hname
        · exact ⟨e, he, heq⟩
  id := ((h.valid hv).id ·)
  head := by
    intro t e he
    rcases h.new_or_old he with ⟨rfl, rfl⟩ | he
    · rw [h.ancestors, List.head?_cons]
    · exact hc.head he
  root := by
    intro t e he
    rcases h.new_or_old he with ⟨rfl, rfl⟩ | he
    · rw [h.ancestors, List.getLast?_cons, hc.root h.base_known]
      rfl
    · exact hc.root he
  nodup := by
    intro t e he
    rcases h.new_or_old he with ⟨rfl, rfl⟩ | he
    · rw [h.ancestors, List.nodup_cons]
      -- all ancestors of the base have smaller identifiers
      refine ⟨fun hmem => ?_, hc.nodup h.base_known⟩
      exact Nat.lt_irrefl _ (hv.ancestors h.base_known _ hmem)
    · exact hc.nodup he
  value := by
    intro t e he hvalue
    rcases h.new_or_old he with ⟨rfl, rfl⟩ | he
    · -- the base of a value type is the root
      have hroot := h.base_root (h.value.symm.trans hvalue)
      have hobject : reg.get? TypeId.object = some base := by
        rw [← hroot, hc.id h.base_known]
        exact h.base_known
      rw [hv.builtin rfl] at hobject
      cases hobject
      exact h.ancestors
    · exact hc.value he hvalue

/-- A new type is no ancestor of an old one, and it goes on as its base, which is no value type. -/
lemma precedes (hold : earlier.Valid next) (hp : earlier.Precedes reg) :
    earlier.Precedes reg' where
  same := by
    intro t e e' he he'
    rcases h.new_or_old he' with ⟨rfl, -⟩ | he'
    · exact absurd (hold.allocated he) (Nat.lt_irrefl _)
    · exact hp.same he he'
  suffix := by
    intro t u e e' he' he hu
    rcases h.new_or_old he' with ⟨rfl, rfl⟩ | he'
    · -- the new type goes on as its base did, and is no ancestor of an earlier type
      rw [h.ancestors, List.mem_cons] at hu
      rcases hu with rfl | hu
      · exact absurd (hold.allocated he) (Nat.lt_irrefl _)
      · rw [h.ancestors]
        exact (hp.suffix h.base_known he hu).trans (List.suffix_cons _ _)
    · exact hp.suffix he' he hu
  reference := by
    intro t u e e' he' he hu hne
    rcases h.new_or_old he' with ⟨rfl, rfl⟩ | he'
    · have hu := (List.mem_cons.mp (h.ancestors ▸ hu)).resolve_left hne
      by_cases hbase : u = spec.base
      · -- its base has been checked, and farther ancestors are ancestors of the base
        subst hbase
        rw [hp.same he h.base_known]
        exact h.base_reference
      · exact hp.reference h.base_known he hu hbase
    · exact hp.reference he' he hu hne

/-- What holds of the types of one time goes on to hold. -/
lemma precedes_self (hp : reg.Precedes reg) : reg'.Precedes reg' where
  same := fun he he' => Option.some.inj (he.symm.trans he')
  suffix := by
    intro t u e e' he' he hu
    rcases h.new_or_old he with ⟨rfl, rfl⟩ | he
    · rcases h.new_or_old he' with ⟨rfl, rfl⟩ | he'
      · exact List.suffix_refl _
      · -- an old type does not derive from the new one
        exact absurd (hv.ancestors he' _ hu) (Nat.lt_irrefl _)
    · exact (h.precedes hv hv hp).suffix he' he hu
  reference := by
    intro t u e e' he' he hu hne
    rcases h.new_or_old he with ⟨rfl, rfl⟩ | he
    · rcases h.new_or_old he' with ⟨rfl, -⟩ | he'
      · exact absurd rfl hne
      · exact absurd (hv.ancestors he' _ hu) (Nat.lt_irrefl _)
    · exact (h.precedes hv hv hp).reference he' he hu hne

end Admitted

/-! ### Unloading a type -/

lemma names_of_unload (h : reg.unload t = some reg') (hd : reg.get? t = some d) (name : String) :
    reg'.names.get? name = if name = d.name then none else reg.names.get? name := by
  rw [unload] at h
  split at h
  · cases h
  · rw [hd, Option.map_some, Option.some.injEq] at h
    subst h
    exact Table.get?_erase reg.names d.name name

/-- The name that is forgotten is that of the unloaded type and of no other. -/
lemma Consistent.unload (hc : reg.Consistent) (h : reg.unload t = some reg') :
    reg'.Consistent where
  names := by
    intro name u
    have hu := unloaded_of_unload h
    obtain ⟨d, hd⟩ := hu.known
    rw [names_of_unload h hd, hu.get?]
    split
    · -- the name of the unloaded type is free: no other type has it
      rename_i hname
      constructor
      · rintro ⟨⟩
      · rintro ⟨e, he, heq⟩
        split at he
        · cases he
        · rename_i hne
          have htaken := hc.names.mpr ⟨e, he, heq⟩
          rw [hname, hc.names.mpr ⟨d, hd, rfl⟩] at htaken
          exact absurd (Option.some.inj htaken).symm hne
    · -- every other name: it is not the name of the unloaded type
      rename_i hname
      rw [hc.names]
      constructor
      · rintro ⟨e, he, heq⟩
        refine ⟨e, (if_neg ?_).trans he, heq⟩
        rintro rfl
        rw [hd, Option.some.injEq] at he
        exact hname (he ▸ heq.symm)
      · rintro ⟨e, he, heq⟩
        split at he
        · cases he
        · exact ⟨e, he, heq⟩
  id := fun he => hc.id ((unloaded_of_unload h).get?_of_some he).2
  head := fun he => hc.head ((unloaded_of_unload h).get?_of_some he).2
  root := fun he => hc.root ((unloaded_of_unload h).get?_of_some he).2
  nodup := fun he => hc.nodup ((unloaded_of_unload h).get?_of_some he).2
  value := fun he => hc.value ((unloaded_of_unload h).get?_of_some he).2

/-- Of what is known after types have been unloaded everything was known before. -/
lemma Precedes.mono {earlier' : Registry} (hp : earlier.Precedes reg)
    (hearlier : ∀ {t d}, earlier'.get? t = some d → earlier.get? t = some d)
    (hlater : ∀ {t d}, reg'.get? t = some d → reg.get? t = some d) : earlier'.Precedes reg' where
  same := fun he hd => hp.same (hearlier he) (hlater hd)
  suffix := fun hd he => hp.suffix (hlater hd) (hearlier he)
  reference := fun hd he => hp.reference (hlater hd) (hearlier he)

/-- A name finds the type that is known under it. -/
lemma Consistent.named?_eq_some_iff (hc : reg.Consistent) :
    reg.named? name = some d ↔ reg.get? d.id = some d ∧ d.name = name := by
  rw [named?, Option.bind_eq_some_iff]
  constructor
  · rintro ⟨t, hname, hd⟩
    obtain ⟨e, he, rfl⟩ := hc.names.mp hname
    obtain rfl := Option.some.inj (hd.symm.trans he)
    exact ⟨(hc.id hd).symm ▸ hd, rfl⟩
  · rintro ⟨hd, hname⟩
    exact ⟨d.id, hc.names.mpr ⟨d, hd, hname⟩, hd⟩

/-! ### The builtin types -/

lemma initial_of_mem_builtins {isValueType : Bool}
    (h : (t, name, isValueType) ∈ TypeId.builtins) :
    Registry.initial.get? t = some (.builtin t name isValueType) ∧
      Registry.initial.names.get? name = some t ∧
      (isValueType = true → t ≠ TypeId.object) := by
  simp only [TypeId.builtins, List.mem_cons, Prod.mk.injEq, List.not_mem_nil, or_false] at h
  rcases h with ⟨rfl, rfl, rfl⟩ | ⟨rfl, rfl, rfl⟩ | ⟨rfl, rfl, rfl⟩ | ⟨rfl, rfl, rfl⟩ |
    ⟨rfl, rfl, rfl⟩ | ⟨rfl, rfl, rfl⟩ | ⟨rfl, rfl, rfl⟩ <;> exact ⟨rfl, rfl, by decide⟩

lemma consistent_initial : Registry.initial.Consistent where
  names := by
    intro name t
    constructor
    · intro h
      have hmem : (name, t) ∈ Registry.initial.names.entries := Table.mem_entries_of_get? h
      obtain ⟨⟨id, name', isValueType⟩, hb, heq⟩ := List.mem_map.mp hmem
      cases heq
      exact ⟨_, (initial_of_mem_builtins hb).1, rfl⟩
    · rintro ⟨d, hd, rfl⟩
      obtain ⟨name, isValueType, hb, rfl⟩ := get?_initial_eq_some hd
      exact (initial_of_mem_builtins hb).2.1
  id := valid_initial.id
  head := by
    intro t d h
    obtain ⟨name, isValueType, -, rfl⟩ := get?_initial_eq_some h
    rw [Descriptor.builtin]
    split <;> rfl
  root := by
    intro t d h
    obtain ⟨name, isValueType, -, rfl⟩ := get?_initial_eq_some h
    rw [Descriptor.builtin]
    split
    · rename_i ht
      rw [ht, List.getLast?_singleton]
    · rfl
  nodup := by
    intro t d h
    obtain ⟨name, isValueType, -, rfl⟩ := get?_initial_eq_some h
    rw [Descriptor.builtin]
    split
    · simp
    · rename_i ht
      simpa using ht
  value := by
    intro t d h hvalue
    obtain ⟨name, isValueType, hb, rfl⟩ := get?_initial_eq_some h
    exact if_neg ((initial_of_mem_builtins hb).2.2 hvalue)

/-- Every builtin type lies directly under the root, which is no value type. -/
lemma precedes_initial : Registry.initial.Precedes .initial := by
  have hcases : ∀ {t u d e}, Registry.initial.get? t = some d →
      Registry.initial.get? u = some e → u ∈ d.ancestors →
        u = t ∨ u = TypeId.object ∧ e = .builtin TypeId.object "object" false := by
    intro t u d e hd he hu
    obtain ⟨name, isValueType, -, rfl⟩ := get?_initial_eq_some hd
    rw [Descriptor.builtin] at hu
    split at hu
    · -- the root is its only ancestor
      exact Or.inl (List.mem_singleton.mp hu)
    · -- every other builtin type has itself and the root
      refine (List.mem_cons.mp hu).imp_right fun hu => ?_
      obtain rfl := List.mem_singleton.mp hu
      exact ⟨rfl, (Option.some.inj he).symm⟩
  constructor
  case same => exact fun he hd => Option.some.inj (he.symm.trans hd)
  case suffix =>
    intro t u e d hd he hu
    rcases hcases hd he hu with rfl | ⟨rfl, rfl⟩
    · obtain rfl := Option.some.inj (he.symm.trans hd)
      exact List.suffix_refl _
    · obtain ⟨before, hbefore⟩ := List.getLast?_eq_some_iff.mp (consistent_initial.root hd)
      exact ⟨before, hbefore.symm⟩
  case reference =>
    intro t u e d hd he hu hne
    rcases hcases hd he hu with rfl | ⟨rfl, rfl⟩
    · exact absurd rfl hne
    · rfl

/-! ### Assignability -/

section Assignability

variable {a b c : TypeId}

lemma isAssignable_iff : reg.isAssignable a b = true ↔
    b = TypeId.any ∨ b = TypeId.object ∨ a = b ∨
      ∃ d, reg.get? a = some d ∧ b ∈ d.ancestors := by
  simp only [isAssignable, Bool.or_eq_true, beq_iff_eq, Option.any_eq_true, Shape.derivesFrom,
    List.contains_iff_mem, or_assoc]

/-- What has no ancestor but the root is assignable to itself, besides to what all is. -/
lemma isAssignable_iff_of_alone (hd : reg.get? a = some d)
    (ha : d.ancestors = [a, TypeId.object]) : reg.isAssignable a b = true ↔
      (b == TypeId.object || b == TypeId.any || a == b) = true := by
  simp only [isAssignable_iff, hd, Option.some.injEq, exists_eq_left', ha, List.mem_cons,
    List.not_mem_nil, or_false, Bool.or_eq_true, beq_iff_eq]
  constructor
  · rintro (h | h | h | h | h)
    · exact Or.inl (Or.inr h)
    · exact Or.inl (Or.inl h)
    · exact Or.inr h
    · exact Or.inr h.symm
    · exact Or.inl (Or.inl h)
  · rintro ((h | h) | h)
    · exact Or.inr (Or.inl h)
    · exact Or.inl h
    · exact Or.inr (Or.inr (Or.inl h))

/-- A type is assignable to itself, whether it is known or not. -/
lemma isAssignable_refl (reg : Registry) (a : TypeId) : reg.isAssignable a a = true :=
  isAssignable_iff.mpr (Or.inr (Or.inr (Or.inl rfl)))

/-- What stands for every type is itself never known. -/
lemma Valid.get?_any (hv : reg.Valid next) : reg.get? TypeId.any = none :=
  (hv.builtin rfl).trans rfl

lemma Consistent.mem_object (hc : reg.Consistent) (hd : reg.get? a = some d) :
    TypeId.object ∈ d.ancestors :=
  List.mem_of_getLast? (hc.root hd)

lemma isAssignable_trans (hv : reg.Valid next) (hp : reg.Precedes reg)
    (hab : reg.isAssignable a b = true) (hbc : reg.isAssignable b c = true) :
    reg.isAssignable a c = true := by
  rw [isAssignable_iff] at hab hbc ⊢
  rcases hbc with rfl | rfl | rfl | ⟨e, he, hce⟩
  · exact Or.inl rfl
  · exact Or.inr (Or.inl rfl)
  · exact hab
  rcases hab with rfl | rfl | rfl | ⟨d, hd, hbd⟩
  · rw [hv.get?_any] at he
    cases he
  · -- the root has no ancestor but itself
    rw [hv.builtin rfl] at he
    cases he
    exact Or.inr (Or.inl (List.mem_singleton.mp hce))
  · exact Or.inr (Or.inr (Or.inr ⟨e, he, hce⟩))
  · exact Or.inr (Or.inr (Or.inr ⟨d, hd, (hp.suffix hd he hbd).subset hce⟩))

/-- Between known types, what is assignable is an ancestor. -/
lemma Consistent.mem_ancestors (hv : reg.Valid next) (hc : reg.Consistent)
    (hd : reg.get? a = some d) (he : reg.get? b = some e) (hab : reg.isAssignable a b = true) :
    b ∈ d.ancestors := by
  rcases isAssignable_iff.mp hab with rfl | rfl | rfl | ⟨d', hd', hb⟩
  · -- what stands for every type is never known
    rw [hv.get?_any] at he
    cases he
  · exact hc.mem_object hd
  · exact List.mem_of_head? (hc.head hd)
  · rwa [Option.some.inj (hd.symm.trans hd')] at *

lemma isAssignable_antisymm (hv : reg.Valid next) (hc : reg.Consistent) (hp : reg.Precedes reg)
    (hd : reg.get? a = some d) (he : reg.get? b = some e) (hab : reg.isAssignable a b = true)
    (hba : reg.isAssignable b a = true) : a = b := by
  have hsuffix := hp.suffix hd he (hc.mem_ancestors hv hd he hab)
  have hsuffix' := hp.suffix he hd (hc.mem_ancestors hv he hd hba)
  have heq : e.ancestors = d.ancestors :=
    hsuffix.eq_of_length (Nat.le_antisymm hsuffix.length_le hsuffix'.length_le)
  have hhead := hc.head hd
  rw [← heq, hc.head he, Option.some.injEq] at hhead
  exact hhead.symm

end Assignability

end LateBinding.Registry
