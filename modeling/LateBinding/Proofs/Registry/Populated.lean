import LateBinding.Proofs.Registry.Slots

/-!
# Registries that only grow

As long as no type is unloaded, every chain is known as a whole. A type comes after its ancestors in
the order of registration, and after the types of its fields, since a definition can name only
identifiers that have been handed out.
-/

namespace LateBinding

/-! ### Types of fields -/

namespace Layout

variable {l : Layout} {m : Member}

lemma mem_addField {f : FieldSpec} {initial : Value} {isSynthesized : Bool}
    (h : m ∈ (l.addField f initial isSynthesized).members) :
    m ∈ l.members ∨ m.valueType = f.type := by
  rw [members_addField, List.mem_append, List.mem_singleton] at h
  rcases h with h | rfl
  · exact Or.inl h
  · exact Or.inr rfl

lemma mem_addAccessors {p : PropertySpec} {getter setter : Option Accessor}
    (h : m ∈ (l.addAccessors p getter setter).members) : m ∈ l.members ∨ m.kind ≠ .field := by
  simp only [addAccessors, List.mem_append, List.mem_cons, Option.mem_toList,
    Option.map_eq_some_iff] at h
  rcases h with h | rfl | ⟨_, -, rfl⟩ | ⟨_, -, rfl⟩
  · exact Or.inl h
  all_goals exact Or.inr fun hk => by cases hk

/-- The type of a new field is one that its definition names. -/
lemma mem_add {default : TypeId → Value} {spec : MemberSpec}
    (h : m ∈ (l.add default spec).members) :
    m ∈ l.members ∨ (m.kind = .field → m.valueType ∈ spec.types) := by
  cases spec with
  | field f =>
    rcases mem_addField h with h | h
    · exact Or.inl h
    · exact Or.inr fun _ => List.mem_singleton.mpr h
  | property p =>
    rw [add, addProperty] at h
    cases hp : p.body with
    | native getter setter =>
      rw [hp] at h
      rcases mem_addAccessors h with h | h
      · exact Or.inl h
      · exact Or.inr fun hk => absurd hk h
    | auto getOnly =>
      rw [hp] at h
      rcases mem_addAccessors h with h | h
      · rcases mem_addField h with h | h
        · exact Or.inl h
        · exact Or.inr fun _ => List.mem_singleton.mpr h
      · exact Or.inr fun hk => absurd hk h
  | method s =>
    rcases List.mem_append.mp h with h | h
    · exact Or.inl h
    · obtain rfl := List.mem_singleton.mp h
      exact Or.inr fun hk => by cases hk
  | constructor c =>
    rcases List.mem_append.mp h with h | h
    · exact Or.inl h
    · obtain rfl := List.mem_singleton.mp h
      exact Or.inr fun hk => by cases hk
  | indexer x =>
    simp only [add, addIndexer, List.mem_append, List.mem_cons, Option.mem_toList,
      Option.map_eq_some_iff] at h
    -- the indexer itself and the methods for its accessors
    rcases h with h | rfl | ⟨_, -, rfl⟩ | ⟨_, -, rfl⟩
    · exact Or.inl h
    all_goals exact Or.inr fun hk => by cases hk

lemma fieldType_ofSpec {default : TypeId → Value} {owner : TypeId} {base : Descriptor}
    {spec : TypeSpec} : ∀ m ∈ (ofSpec default owner base spec).members, m.kind = .field →
      m.valueType ∈ spec.types := by
  refine ofSpec_induction
    (P := fun l => ∀ m ∈ l.members, m.kind = .field → m.valueType ∈ spec.types) ?_ ?_ ?_
  · exact List.forall_mem_nil _
  · intro l hl s hs m hm hk
    rcases mem_add hm with hm | htype
    · exact hl m hm hk
    · exact List.mem_cons_of_mem _ (List.mem_flatMap.mpr ⟨s, hs, htype hk⟩)
  · -- the implicit constructor is no field
    intro l hl m hm hk
    rcases List.mem_append.mp hm with hm | hm
    · exact hl m hm hk
    · obtain rfl := List.mem_singleton.mp hm
      cases hk

end Layout

namespace Registry

variable {reg reg' ever : Registry} {st st' : Store} {next type t : TypeId} {d base : Descriptor}
  {spec : TypeSpec} {levels : List Descriptor} {m : Member} {i : Nat}

/-! ### The order of registration -/

/-- A type comes after its ancestors and after the types of its fields. -/
structure Ordered (reg : Registry) : Prop where
  ancestors : ∀ {t d}, reg.get? t = some d → ∀ a ∈ d.ancestors, a.code ≤ t.code
  fields : ∀ {t d m}, reg.get? t = some d → m ∈ d.members → m.kind = .field →
    m.valueType.code < t.code

lemma ordered_initial : Registry.initial.Ordered where
  ancestors := fun {t d} h a ha => by
    obtain ⟨name, isValueType, hb, rfl⟩ := get?_initial_eq_some h
    simp only [TypeId.builtins, List.mem_cons, Prod.mk.injEq, List.not_mem_nil, or_false] at hb
    rcases hb with ⟨rfl, rfl, rfl⟩ | ⟨rfl, rfl, rfl⟩ | ⟨rfl, rfl, rfl⟩ | ⟨rfl, rfl, rfl⟩ |
      ⟨rfl, rfl, rfl⟩ | ⟨rfl, rfl, rfl⟩ | ⟨rfl, rfl, rfl⟩ <;> revert a <;> decide
  fields := fun h hm => by
    obtain ⟨name, isValueType, -, rfl⟩ := get?_initial_eq_some h
    rw [members_builtin] at hm
    cases hm

/-- A type that is laid out over a known one comes after it, and its definition names only
identifiers that have been handed out before. -/
lemma Ordered.registered (h : reg.Ordered) (hv : reg.Valid next) (hspec : spec.Allocated next)
    (hreg : Registered reg spec next base d reg') {default : TypeId → Value} {owner : TypeId}
    (hmembers : d.members = (Layout.ofSpec default owner base spec).members) : reg'.Ordered where
  ancestors := by
    intro t e he a ha
    rcases hreg.new_or_old he with ⟨rfl, rfl⟩ | he
    · rw [hreg.ancestors] at ha
      rcases List.mem_cons.mp ha with rfl | ha
      · exact Nat.le_refl _
      · exact Nat.le_of_lt (hv.ancestors hreg.base_known a ha)
    · exact h.ancestors he a ha
  fields := by
    intro t e m he hm hk
    rcases hreg.new_or_old he with ⟨rfl, rfl⟩ | he
    · exact hspec _ (Layout.fieldType_ofSpec m (hmembers ▸ hm) hk)
    · exact h.fields he hm hk

/-- What holds of a registry while types are registered and none is unloaded. -/
structure Settled (reg : Registry) (st : Store) : Prop where
  archive : Archive reg reg st
  closed : reg.Closed st.nextType
  ordered : reg.Ordered

/-- Registries that registrations lead to. A definition can name only identifiers that have been
handed out. -/
inductive Populated : Registry → Store → Prop where
  | start : Populated .initial {}
  | register {reg reg' : Registry} {st st' : Store} {spec : TypeSpec} {type : TypeId}
      (h : Populated reg st) (hspec : spec.Allocated st.nextType)
      (hr : reg.register st spec = .ok (type, reg', st')) : Populated reg' st'

namespace Settled

lemma valid (h : Settled reg st) : reg.Valid st.nextType := h.archive.valid

lemma not_isValueType_wildcard (h : Settled reg st)
    (ht : t = TypeId.object ∨ t = TypeId.any) : reg.isValueType t = false := by
  rcases ht with rfl | rfl <;> (rw [isValueType, h.valid.builtin rfl]; rfl)

lemma length_defaults (h : Settled reg st) (hd : reg.get? t = some d) :
    d.defaults.length = d.slotNames.length := by
  obtain ⟨farther, -, hlaid⟩ := h.archive.laidOut hd
  exact hlaid.length_defaults

/-- A store in which all types have as many static slots as before is as good for the registry. -/
lemma congr (h : Settled reg st) (hnext : st'.nextType = st.nextType)
    (hstatics : ∀ {t d}, reg.get? t = some d →
      (st'.staticsOf t).length = (st.staticsOf t).length) : Settled reg st' where
  archive := ⟨hnext ▸ h.valid, h.archive.known, h.archive.laidOut, fun hd =>
    (hstatics hd).trans (h.archive.statics hd)⟩
  closed := hnext ▸ h.closed
  ordered := h.ordered

lemma initial : Settled .initial {} := ⟨archive_initial, closed_initial _, ordered_initial⟩

lemma register (h : Settled reg st) (hspec : spec.Allocated st.nextType)
    (hr : reg.register st spec = .ok (type, reg', st')) : Settled reg' st' := by
  obtain ⟨rfl, hnext, base, d, hreg⟩ := registered_of_register hr
  have hd : reg'.get? st.nextType = some d := (hreg.get? _).trans (if_pos rfl)
  obtain ⟨base', hbase', -, -, rfl, hlayout, -⟩ := register_eq_ok hr hd
  obtain rfl := Option.some.inj (hbase'.symm.trans hreg.base_known)
  exact ⟨h.archive.register hr hd, hnext ▸ hreg.closed h.valid h.closed hspec,
    h.ordered.registered h.valid hspec hreg (congrArg Descriptor.members hlayout)⟩

end Settled

lemma Populated.settled (h : Populated reg st) : Settled reg st := by
  induction h with
  | start => exact .initial
  | register _ hspec hr ih => exact ih.register hspec hr

end Registry

end LateBinding
