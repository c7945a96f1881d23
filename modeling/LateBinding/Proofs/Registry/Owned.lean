import LateBinding.Proofs.Lookup.Copying
import LateBinding.Proofs.Registry.Twins

/-!
# Owned types

A registry owns the types that have been registered with it and not been unloaded. Members are found
through such types only, and whatever derives from one of them is another one.
-/

namespace LateBinding.Registry

variable {reg reg' : Registry} {next type t : TypeId} {m : Member} {d : Descriptor}
  {q : Query} {st st' : Store} {spec : TypeSpec}

/-- The type has been registered and is known. -/
def Owns (reg : Registry) (t : TypeId) : Prop :=
  t.isBuiltin = false ∧ ∃ d, reg.get? t = some d

/-- The type is owned, or the declaration of a known member names it. -/
def Mentions (reg : Registry) (t : TypeId) : Prop :=
  reg.Owns t ∨ ∃ u d m, reg.get? u = some d ∧ m ∈ d.members ∧ t ∈ m.types

lemma Valid.allocated_of_owns (hv : reg.Valid next) (h : reg.Owns t) : t.code < next.code := by
  obtain ⟨-, d, hd⟩ := h
  exact hv.allocated hd

lemma Valid.allocated_of_mentions (hv : reg.Valid next) (hc : reg.Closed next)
    (h : reg.Mentions t) : t.code < next.code := by
  rcases h with h | ⟨u, d, m, hd, hm, ht⟩
  · exact hv.allocated_of_owns h
  · exact hc.types hd hm t ht

/-! ### Changes -/

lemma Registered.owns {base : Descriptor} (hv : reg.Valid next)
    (h : reg.Registered spec next base d reg') (ht : reg.Owns t) : reg'.Owns t := by
  obtain ⟨huser, e, he⟩ := ht
  exact ⟨huser, e, (h.get?_of_lt (hv.allocated he)).trans he⟩

lemma Registered.owns_or_new {base : Descriptor} (h : reg.Registered spec next base d reg')
    (ht : reg'.Owns t) : reg.Owns t ∨ t = next := by
  obtain ⟨huser, e, he⟩ := ht
  rcases h.new_or_old he with ⟨rfl, -⟩ | he
  · exact Or.inr rfl
  · exact Or.inl ⟨huser, e, he⟩

/-- What a definition adds to the types that are mentioned. -/
lemma Registered.mentions {base : Descriptor} (h : reg.Registered spec next base d reg')
    (ht : reg'.Mentions t) : reg.Mentions t ∨ t = next ∨ t.isBuiltin = true ∨
      ∃ m ∈ spec.members, t ∈ m.types := by
  rcases ht with ht | ⟨u, e, m, he, hm, ht⟩
  · exact (h.owns_or_new ht).imp Or.inl Or.inl
  rcases h.new_or_old he with ⟨-, rfl⟩ | he
  · rcases (h.members m hm).types t ht with ht | rfl | rfl
    · rcases List.mem_cons.mp ht with rfl | ht
      · cases hb : spec.base.isBuiltin with
        | true => exact Or.inr (Or.inr (Or.inl rfl))
        | false => exact Or.inl (Or.inl ⟨hb, base, h.base_known⟩)
      · exact Or.inr (Or.inr (Or.inr (List.mem_flatMap.mp ht)))
    · exact Or.inr (Or.inl rfl)
    · exact Or.inr (Or.inr (Or.inl rfl))
  · exact Or.inl (Or.inr ⟨u, e, m, he, hm, ht⟩)

lemma Unloaded.owns (h : reg.Unloaded type reg') (ht : reg.Owns t) (hne : t ≠ type) :
    reg'.Owns t := by
  obtain ⟨huser, e, he⟩ := ht
  exact ⟨huser, e, (h.get?_of_ne hne).trans he⟩

lemma Unloaded.owns_before (h : reg.Unloaded type reg') (ht : reg'.Owns t) :
    t ≠ type ∧ reg.Owns t := by
  obtain ⟨huser, e, he⟩ := ht
  obtain ⟨hne, he⟩ := h.get?_of_some he
  exact ⟨hne, huser, e, he⟩

lemma Unloaded.mentions (h : reg.Unloaded type reg') (ht : reg'.Mentions t) :
    reg.Mentions t := by
  rcases ht with ht | ⟨u, e, m, he, hm, ht⟩
  · exact Or.inl (h.owns_before ht).2
  · exact Or.inr ⟨u, e, m, (h.get?_of_some he).2, hm, ht⟩

/-! ### Where members are found -/

lemma Valid.owns_declaring (hv : reg.Valid next) (h : reg.Declares m) : reg.Owns m.declaring := by
  have huser := hv.user_of_declares h
  obtain ⟨d, hd, -⟩ := h
  exact ⟨huser, d, hd⟩

lemma Declares.mentions (h : reg.Declares m) (ht : t ∈ m.types) : reg.Mentions t := by
  obtain ⟨d, hd, hm⟩ := h
  exact Or.inr ⟨_, d, m, hd, hm, ht⟩

/-- A builtin type has builtin ancestors only. -/
lemma Valid.builtin_of_mem_ancestors (hv : reg.Valid next) {a : TypeId}
    (hd : reg.get? t = some d) (ht : t.isBuiltin = true) (ha : a ∈ d.ancestors) :
    a.isBuiltin = true := by
  rw [hv.builtin ht] at hd
  obtain ⟨name, isValueType, -, rfl⟩ := get?_initial_eq_some hd
  rw [Descriptor.builtin] at ha
  split at ha
  · rwa [List.mem_singleton.mp ha]
  · rcases List.mem_cons.mp ha with rfl | ha
    · exact ht
    · rw [List.mem_singleton.mp ha]
      rfl

/-- What derives from a registered type is not builtin. -/
lemma Valid.user_of_mem_ancestors (hv : reg.Valid next) {a : TypeId}
    (hd : reg.get? t = some d) (ha : a ∈ d.ancestors) (huser : a.isBuiltin = false) :
    t.isBuiltin = false := by
  cases ht : t.isBuiltin with
  | false => rfl
  | true =>
    rw [hv.builtin_of_mem_ancestors hd ht ha] at huser
    cases huser

/-- Members are declared along the chains of owned types only. -/
lemma Along.owns (h : reg.Along type m) (hv : reg.Valid next) : reg.Owns type := by
  have huser := hv.user_of_declares (h.declares hv)
  obtain ⟨levels, ⟨d, hd, hmap⟩, e, he, hm⟩ := h
  have hmem : some e ∈ d.ancestors.map reg.get? := hmap ▸ List.mem_map_of_mem he
  obtain ⟨a, ha, hae⟩ := List.mem_map.mp hmem
  rw [hv.declaring hae hm] at huser
  exact ⟨hv.user_of_mem_ancestors hd ha huser, d, hd⟩

lemma Valid.owns_of_find (hv : reg.Valid next) (h : reg.find type q = .ok m) : reg.Owns type :=
  (along_of_find h).1.owns hv

/-! ### Descendants -/

/-- Whatever is listed is known under its own identifier. -/
def Tidy (reg : Registry) : Prop :=
  ∀ e ∈ reg.types.entries, e.2.id = e.1 ∧ reg.get? e.1 = some e.2

lemma tidy_initial : Registry.initial.Tidy := by
  intro e he
  obtain ⟨b, hb, rfl⟩ := List.mem_map.mp he
  simp only [TypeId.builtins, List.mem_cons, List.not_mem_nil, or_false] at hb
  rcases hb with rfl | rfl | rfl | rfl | rfl | rfl | rfl <;> exact ⟨rfl, rfl⟩

lemma Tidy.register (h : reg.Tidy) (hr : reg.register st spec = .ok (type, reg', st')) :
    reg'.Tidy := by
  obtain ⟨base, hb⟩ := checkSpec_of_register hr
  obtain ⟨st₁, -, hr'⟩ := register_of_checkSpec hb st
  rw [hr'] at hr
  cases hr
  intro e he
  rw [get?_add]
  rcases List.mem_append.mp he with he | he
  · obtain ⟨he, hne⟩ := List.mem_filter.mp he
    rw [if_neg (of_decide_eq_true hne)]
    exact h e he
  · cases List.mem_singleton.mp he
    exact ⟨rfl, if_pos rfl⟩

lemma Tidy.unload (h : reg.Tidy) (hr : reg.unload type = some reg') : reg'.Tidy := by
  have hu := unloaded_of_unload hr
  rw [Registry.unload] at hr
  split at hr
  · cases hr
  obtain ⟨d, -, rfl⟩ := Option.map_eq_some_iff.mp hr
  intro e he
  obtain ⟨he, hne⟩ := List.mem_filter.mp he
  rw [hu.get?_of_ne (of_decide_eq_true hne)]
  exact h e he

/-- What is among the descendants of a registered type is owned. -/
lemma Tidy.owns_of_mem_descendants (h : reg.Tidy) (hv : reg.Valid next)
    (huser : type.isBuiltin = false) (ht : t ∈ reg.descendants type) : reg.Owns t := by
  obtain ⟨d, hd, rfl⟩ := List.mem_map.mp ht
  obtain ⟨hd, hderives⟩ := List.mem_filter.mp hd
  obtain ⟨e, he, rfl⟩ := List.mem_map.mp hd
  obtain ⟨hid, hknown⟩ := h e he
  rw [Bool.and_eq_true] at hderives
  rw [hid]
  refine ⟨hv.user_of_mem_ancestors hknown ?_ huser, _, hknown⟩
  exact List.contains_iff_mem.mp hderives.2

end LateBinding.Registry
