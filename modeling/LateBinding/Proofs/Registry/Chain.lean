import LateBinding.Proofs.Except
import LateBinding.Registry.Basic

/-!
# Chains of ancestors

A question that goes through the ancestors of a type is answered if the whole chain is known, and
otherwise fails at the first type of the chain that is not. Two registries that know the same along
a chain answer such questions alike.
-/

namespace LateBinding.Registry

variable {reg reg' : Registry} {type t : TypeId} {d : Descriptor} {levels : List Descriptor}

/-- The descriptors of a type and of all its ancestors, the type itself first. -/
def Chain (reg : Registry) (type : TypeId) (levels : List Descriptor) : Prop :=
  ∃ d, reg.get? type = some d ∧ d.ancestors.map reg.get? = levels.map some

/-- The first type along a chain that is not known, the type itself before its ancestors. -/
def FirstUnknown (reg : Registry) (type missing : TypeId) : Prop :=
  (reg.get? type = none ∧ missing = type) ∨
    ∃ d nearer farther, reg.get? type = some d ∧ d.ancestors = nearer ++ missing :: farther ∧
      (∀ t ∈ nearer, (reg.get? t).isSome) ∧ reg.get? missing = none

/-! ### Known types -/

lemma known_of_get?_eq_some (h : reg.get? t = some d) : reg.known t = .ok d := by
  simp [known, h, pure, Except.pure]

lemma known_of_get?_eq_none (h : reg.get? t = none) : reg.known t = .error (.unknownType t) := by
  simp [known, h, throw, throwThe, MonadExceptOf.throw]

lemma known_eq_ok_iff : reg.known t = .ok d ↔ reg.get? t = some d := by
  cases h : reg.get? t with
  | none => simp [known_of_get?_eq_none h]
  | some e => simp [known_of_get?_eq_some h]

lemma known_congr (h : reg'.get? t = reg.get? t) : reg'.known t = reg.known t := by
  rw [known, known, h]

lemma mapM_known_of_map_eq {ts : List TypeId} (h : ts.map reg.get? = levels.map some) :
    ts.mapM reg.known = .ok levels := by
  induction ts generalizing levels with
  | nil =>
    obtain rfl : levels = [] := by simpa using h.symm
    rfl
  | cons t ts ih =>
    cases levels with
    | nil => simp at h
    | cons d ds =>
      rw [List.map_cons, List.map_cons, List.cons.injEq] at h
      rw [List.mapM_cons, known_of_get?_eq_some h.1, ih h.2]
      rfl

lemma mapM_known_of_first_unknown {nearer farther : List TypeId}
    (hn : ∀ s ∈ nearer, (reg.get? s).isSome) (ht : reg.get? t = none) :
    (nearer ++ t :: farther).mapM reg.known = .error (.unknownType t) := by
  induction nearer with
  | nil =>
    rw [List.nil_append, List.mapM_cons, known_of_get?_eq_none ht]
    rfl
  | cons s nearer ih =>
    obtain ⟨d, hd⟩ := Option.isSome_iff_exists.mp (hn s List.mem_cons_self)
    rw [List.cons_append, List.mapM_cons, known_of_get?_eq_some hd,
      ih fun s' hs => hn s' (List.mem_cons_of_mem s hs)]
    rfl

lemma mapM_known_congr {ts : List TypeId} (h : ∀ t ∈ ts, reg'.get? t = reg.get? t) :
    ts.mapM reg'.known = ts.mapM reg.known :=
  mapM_congr fun t ht => known_congr (h t ht)

/-- Either all types of a list are known or there is a first one that is not. -/
lemma all_known_or_first_unknown (reg : Registry) (ts : List TypeId) :
    (∃ ds : List Descriptor, ts.map reg.get? = ds.map some) ∨
      ∃ nearer t farther, ts = nearer ++ t :: farther ∧ (∀ s ∈ nearer, (reg.get? s).isSome) ∧
        reg.get? t = none := by
  induction ts with
  | nil => exact Or.inl ⟨[], rfl⟩
  | cons t ts ih =>
    cases ht : reg.get? t with
    | none => exact Or.inr ⟨[], t, ts, rfl, by simp, ht⟩
    | some d =>
      rcases ih with ⟨ds, hds⟩ | ⟨nearer, s, farther, rfl, hn, hs⟩
      · exact Or.inl ⟨d :: ds, by rw [List.map_cons, List.map_cons, ht, hds]⟩
      · -- the first unknown one of the rest, behind a known one
        refine Or.inr ⟨t :: nearer, s, farther, rfl, ?_, hs⟩
        intro s' hs'
        rcases List.mem_cons.mp hs' with rfl | hs'
        · rw [ht]; rfl
        · exact hn s' hs'

/-! ### Hierarchies -/

lemma hierarchy_of_get?_eq_some (h : reg.get? type = some d) :
    reg.hierarchy type = d.ancestors.mapM reg.known := by
  rw [hierarchy, known_of_get?_eq_some h]
  rfl

lemma hierarchy_of_get?_eq_none (h : reg.get? type = none) :
    reg.hierarchy type = .error (.unknownType type) := by
  rw [hierarchy, known_of_get?_eq_none h]
  rfl

lemma Chain.hierarchy_eq (h : reg.Chain type levels) : reg.hierarchy type = .ok levels := by
  obtain ⟨d, hd, ha⟩ := h
  rw [hierarchy_of_get?_eq_some hd, mapM_known_of_map_eq ha]

/-- A type has only one chain. -/
lemma Chain.unique {levels' : List Descriptor} (h : reg.Chain type levels)
    (h' : reg.Chain type levels') : levels = levels' := by
  have heq := h.hierarchy_eq.symm.trans h'.hierarchy_eq
  exact Except.ok.inj heq

lemma FirstUnknown.hierarchy_eq (h : reg.FirstUnknown type t) :
    reg.hierarchy type = .error (.unknownType t) := by
  rcases h with ⟨hn, rfl⟩ | ⟨d, nearer, farther, hd, ha, hn, ht⟩
  · exact hierarchy_of_get?_eq_none hn
  · rw [hierarchy_of_get?_eq_some hd, ha, mapM_known_of_first_unknown hn ht]

/-- A chain is known as a whole, or it has a first type that is not. -/
lemma chain_or_firstUnknown (reg : Registry) (type : TypeId) :
    (∃ levels, reg.Chain type levels) ∨ ∃ missing, reg.FirstUnknown type missing := by
  cases hd : reg.get? type with
  | none => exact Or.inr ⟨type, Or.inl ⟨hd, rfl⟩⟩
  | some d =>
    rcases all_known_or_first_unknown reg d.ancestors with ⟨ds, hds⟩ | ⟨n, t, f, ha, hn, ht⟩
    · exact Or.inl ⟨ds, d, hd, hds⟩
    · exact Or.inr ⟨t, Or.inr ⟨d, n, f, hd, ha, hn, ht⟩⟩

end LateBinding.Registry
