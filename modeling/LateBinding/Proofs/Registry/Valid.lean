import Mathlib.Data.List.Basic
import LateBinding.Proofs.Registry.Chain
import LateBinding.Proofs.Registry.Layout
import LateBinding.Proofs.Table

/-!
# Valid registries

What holds of every registry that registrations and unloads lead to: each type is known under its
own identifier, which has been handed out, its list of ancestors starts with the type itself, and
the builtin types are as they were at the start. Registering a type and unloading one each change
what is known of that type alone.
-/

namespace LateBinding

/-- The member names only types below an identifier. -/
def Member.Below (next : TypeId) (m : Member) : Prop :=
  ∀ t ∈ m.declaring :: m.types, t.code < next.code

namespace Registry

variable {reg reg' : Registry} {next t type : TypeId} {d : Descriptor} {st st' : Store}
  {spec : TypeSpec}

/-- The second registry knows the same of all identifiers below a given one. -/
def SameBelow (next : TypeId) (reg reg' : Registry) : Prop :=
  ∀ t, t.code < next.code → reg'.get? t = reg.get? t

/-- The registry is as registrations and unloads leave it, where `next` is the identifier that the
next type will get. -/
structure Valid (reg : Registry) (next : TypeId) : Prop where
  user : TypeId.firstUser.code ≤ next.code
  builtin : ∀ {t}, t.isBuiltin = true → reg.get? t = Registry.initial.get? t
  allocated : ∀ {t d}, reg.get? t = some d → t.code < next.code
  id : ∀ {t d}, reg.get? t = some d → d.id = t
  self : ∀ {t d}, reg.get? t = some d → t ∈ d.ancestors
  ancestors : ∀ {t d}, reg.get? t = some d → ∀ a ∈ d.ancestors, a.code < next.code
  declaring : ∀ {t d m}, reg.get? t = some d → m ∈ d.members → m.declaring = t
  params : ∀ {t d m}, reg.get? t = some d → m ∈ d.members →
    KindSet.fieldsAndProperties.has m.kind = true → m.params = []

/-- All types that known members name in their declarations have been handed out. -/
structure Closed (reg : Registry) (next : TypeId) : Prop where
  types : ∀ {t d m}, reg.get? t = some d → m ∈ d.members → ∀ u ∈ m.types, u.code < next.code

/-- A known member names only types that have been handed out. -/
lemma Closed.below (hc : reg.Closed next) (hv : reg.Valid next) {m : Member}
    (hd : reg.get? t = some d) (hm : m ∈ d.members) : m.Below next := by
  intro u hu
  rcases List.mem_cons.mp hu with rfl | hu
  · exact hv.declaring hd hm ▸ hv.allocated hd
  · exact hc.types hd hm u hu

/-! ### The builtin types -/

lemma get?_initial_eq_some (h : Registry.initial.get? t = some d) :
    ∃ name isValueType, (t, name, isValueType) ∈ TypeId.builtins ∧
      d = Descriptor.builtin t name isValueType := by
  have hmem : (t, d) ∈ Registry.initial.types.entries := Table.mem_entries_of_get? h
  obtain ⟨⟨id, name, isValueType⟩, hb, heq⟩ := List.mem_map.mp hmem
  cases heq
  exact ⟨name, isValueType, hb, rfl⟩

lemma code_lt_of_mem_builtins {name : String} {isValueType : Bool}
    (h : (t, name, isValueType) ∈ TypeId.builtins) : t.code < TypeId.firstUser.code := by
  simp only [TypeId.builtins, List.mem_cons, Prod.mk.injEq, List.not_mem_nil, or_false] at h
  rcases h with h | h | h | h | h | h | h <;> (rw [h.1]; decide)

lemma members_builtin (id : TypeId) (name : String) (isValueType : Bool) :
    (Descriptor.builtin id name isValueType).members = [] := rfl

lemma valid_initial : Registry.initial.Valid TypeId.firstUser where
  user := Nat.le_refl _
  builtin := fun _ => rfl
  allocated := fun h => by
    obtain ⟨name, isValueType, hb, -⟩ := get?_initial_eq_some h
    exact code_lt_of_mem_builtins hb
  id := fun h => by
    obtain ⟨name, isValueType, -, rfl⟩ := get?_initial_eq_some h
    rfl
  self := fun h => by
    obtain ⟨name, isValueType, -, rfl⟩ := get?_initial_eq_some h
    rw [Descriptor.builtin]
    split <;> exact List.mem_cons_self
  ancestors := fun {t _} h a ha => by
    obtain ⟨name, isValueType, hb, rfl⟩ := get?_initial_eq_some h
    have ht := code_lt_of_mem_builtins hb
    rw [Descriptor.builtin] at ha
    -- the root has itself only, and every other builtin type also the root
    split at ha
    · rwa [List.mem_singleton.mp ha]
    · rcases List.mem_cons.mp ha with rfl | ha
      · exact ht
      · rw [List.mem_singleton.mp ha]
        decide
  declaring := fun h hm => by
    obtain ⟨name, isValueType, -, rfl⟩ := get?_initial_eq_some h
    rw [members_builtin] at hm
    cases hm
  params := fun h hm => by
    obtain ⟨name, isValueType, -, rfl⟩ := get?_initial_eq_some h
    rw [members_builtin] at hm
    cases hm

lemma closed_initial (next : TypeId) : Registry.initial.Closed next := by
  refine ⟨fun {t d m} h hm => ?_⟩
  obtain ⟨name, isValueType, -, rfl⟩ := get?_initial_eq_some h
  rw [members_builtin] at hm
  cases hm

/-! ### Registering a type -/

lemma get?_add (reg : Registry) (d : Descriptor) (t : TypeId) :
    (reg.add d).get? t = if t = d.id then some d else reg.get? t :=
  Table.get?_insert reg.types d.id t d

lemma get?_base_of_checkSpec {base : Descriptor} (h : reg.checkSpec spec = .ok base) :
    reg.get? spec.base = some base := by
  rw [checkSpec] at h
  split at h
  · cases h
  cases hb : reg.known spec.base with
  | error e =>
    rw [hb] at h
    cases h
  | ok e =>
    rw [hb] at h
    simp only [bind, Except.bind] at h
    split at h
    · cases h
    split at h
    · cases h
    · cases h
      exact known_eq_ok_iff.mp hb

lemma checkSpec_of_register {r : TypeId × Registry × Store} (h : reg.register st spec = .ok r) :
    ∃ base, reg.checkSpec spec = .ok base := by
  rw [register] at h
  cases hb : reg.checkSpec spec with
  | error e =>
    rw [hb] at h
    cases h
  | ok base => exact ⟨base, rfl⟩

/-- A definition that is in order is registered, whatever the store is. -/
lemma register_of_checkSpec {base : Descriptor} (h : reg.checkSpec spec = .ok base) (st : Store) :
    ∃ st', st'.nextType = st.nextType.next ∧
      reg.register st spec = .ok (st.nextType, reg.add
        ((Layout.ofSpec reg.defaultValue st.nextType base spec).toDescriptor base spec), st') := by
  rw [register, h]
  exact ⟨_, rfl, rfl⟩

/-- What a registration does to the types that are known. -/
structure Registered (reg : Registry) (spec : TypeSpec) (type : TypeId) (base d : Descriptor)
    (reg' : Registry) : Prop where
  base_known : reg.get? spec.base = some base
  id : d.id = type
  ancestors : d.ancestors = type :: base.ancestors
  members : ∀ m ∈ d.members, m.From type spec.types
  get? : ∀ t, reg'.get? t = if t = type then some d else reg.get? t

lemma registered_of_register (h : reg.register st spec = .ok (type, reg', st')) :
    type = st.nextType ∧ st'.nextType = st.nextType.next ∧
      ∃ base d, Registered reg spec type base d reg' := by
  obtain ⟨base, hb⟩ := checkSpec_of_register h
  obtain ⟨st₁, hnext, hr⟩ := register_of_checkSpec hb st
  rw [hr] at h
  cases h
  let layout := Layout.ofSpec reg.defaultValue st.nextType base spec
  have howner : layout.owner = st.nextType := Layout.owner_ofSpec _ _ base spec
  refine ⟨rfl, hnext, base, layout.toDescriptor base spec, get?_base_of_checkSpec hb, howner, ?_,
    ?_, fun t => ?_⟩
  · exact congrArg (· :: base.ancestors) howner
  · exact Layout.from_ofSpec reg.defaultValue st.nextType base spec
  · rw [get?_add]
    exact congrArg (fun id => if t = id then _ else _) howner

lemma Valid.firstUser_le (h : reg.Valid next) (ht : t.isBuiltin = true) : t.code < next.code :=
  Nat.lt_of_lt_of_le (of_decide_eq_true ht) h.user

/-- A registration leaves alone what is known of every identifier that has been handed out. -/
lemma Registered.get?_of_lt {base : Descriptor} (h : Registered reg spec next base d reg')
    (ht : t.code < next.code) : reg'.get? t = reg.get? t := by
  rw [h.get?, if_neg]
  rintro rfl
  exact Nat.lt_irrefl _ ht

lemma Registered.sameBelow {base : Descriptor} (h : Registered reg spec next base d reg') :
    SameBelow next reg reg' :=
  fun _ ht => h.get?_of_lt ht

/-- What is known after a registration is the new type or was known before. -/
lemma Registered.new_or_old {base e : Descriptor} (h : Registered reg spec next base d reg')
    (he : reg'.get? t = some e) : (t = next ∧ e = d) ∨ reg.get? t = some e := by
  rw [h.get?] at he
  split at he
  · rename_i ht
    exact Or.inl ⟨ht, (Option.some.inj he).symm⟩
  · exact Or.inr he

lemma Registered.valid {base : Descriptor} (hv : reg.Valid next)
    (h : Registered reg spec next base d reg') : reg'.Valid next.next := by
  constructor
  case user => exact Nat.le_succ_of_le hv.user
  case builtin =>
    intro t ht
    rw [h.get?_of_lt (hv.firstUser_le ht), hv.builtin ht]
  case allocated =>
    intro t e he
    rcases h.new_or_old he with ⟨rfl, -⟩ | he
    · -- the new type has taken the next identifier
      exact Nat.lt_succ_self _
    · exact Nat.lt_succ_of_lt (hv.allocated he)
  case id =>
    intro t e he
    rcases h.new_or_old he with ⟨rfl, rfl⟩ | he
    · exact h.id
    · exact hv.id he
  case self =>
    intro t e he
    rcases h.new_or_old he with ⟨rfl, rfl⟩ | he
    · rw [h.ancestors]
      exact List.mem_cons_self
    · exact hv.self he
  case ancestors =>
    intro t e he a ha
    rcases h.new_or_old he with ⟨rfl, rfl⟩ | he
    · -- the new type and the ancestors of its base
      rw [h.ancestors] at ha
      rcases List.mem_cons.mp ha with rfl | ha
      · exact Nat.lt_succ_self _
      · exact Nat.lt_succ_of_lt (hv.ancestors h.base_known a ha)
    · exact Nat.lt_succ_of_lt (hv.ancestors he a ha)
  case declaring =>
    intro t e m he hm
    rcases h.new_or_old he with ⟨rfl, rfl⟩ | he
    · exact (h.members m hm).declaring
    · exact hv.declaring he hm
  case params =>
    intro t e m he hm
    rcases h.new_or_old he with ⟨rfl, rfl⟩ | he
    · exact (h.members m hm).params
    · exact hv.params he hm

lemma Closed.mono {next' : TypeId} (hc : reg.Closed next) (h : next.code ≤ next'.code) :
    reg.Closed next' :=
  ⟨fun ht hm u hu => Nat.lt_of_lt_of_le (hc.types ht hm u hu) h⟩

lemma Registered.closed {base : Descriptor} (hv : reg.Valid next) (hc : reg.Closed next)
    (hs : spec.Allocated next) (h : Registered reg spec next base d reg') :
    reg'.Closed next.next := by
  refine ⟨fun {t e m} he hm u hu => ?_⟩
  rcases h.new_or_old he with ⟨rfl, rfl⟩ | he
  · rcases (h.members m hm).types u hu with hu | rfl | rfl
    · exact Nat.lt_succ_of_lt (hs u hu)
    · exact Nat.lt_succ_self _
    · exact Nat.lt_succ_of_lt (hv.firstUser_le rfl)
  · exact Nat.lt_succ_of_lt (hc.types he hm u hu)

/-! ### Unloading a type -/

/-- What unloading does to the types that are known. -/
structure Unloaded (reg : Registry) (type : TypeId) (reg' : Registry) : Prop where
  user : type.isBuiltin = false
  known : ∃ d, reg.get? type = some d
  get? : ∀ t, reg'.get? t = if t = type then none else reg.get? t

lemma unloaded_of_unload (h : reg.unload type = some reg') : Unloaded reg type reg' := by
  rw [unload] at h
  split at h
  · cases h
  · rename_i hb
    obtain ⟨d, hd, rfl⟩ := Option.map_eq_some_iff.mp h
    exact ⟨by simpa using hb, ⟨d, hd⟩, fun t => Table.get?_erase reg.types type t⟩

lemma Unloaded.get?_of_ne (h : Unloaded reg type reg') (ht : t ≠ type) :
    reg'.get? t = reg.get? t := by
  rw [h.get?, if_neg ht]

lemma Unloaded.get?_of_some (h : Unloaded reg type reg') (ht : reg'.get? t = some d) :
    t ≠ type ∧ reg.get? t = some d := by
  rw [h.get?] at ht
  split at ht
  · cases ht
  · rename_i hne
    exact ⟨hne, ht⟩

lemma Unloaded.valid (hv : reg.Valid next) (h : Unloaded reg type reg') : reg'.Valid next where
  user := hv.user
  builtin := fun ht => by
    rw [h.get?_of_ne, hv.builtin ht]
    rintro rfl
    rw [h.user] at ht
    cases ht
  allocated := fun he => hv.allocated (h.get?_of_some he).2
  id := fun he => hv.id (h.get?_of_some he).2
  self := fun he => hv.self (h.get?_of_some he).2
  ancestors := fun he => hv.ancestors (h.get?_of_some he).2
  declaring := fun he => hv.declaring (h.get?_of_some he).2
  params := fun he => hv.params (h.get?_of_some he).2

lemma Unloaded.closed (hc : reg.Closed next) (h : Unloaded reg type reg') : reg'.Closed next :=
  ⟨fun he => hc.types (h.get?_of_some he).2⟩

/-- A known type that derives from the unloaded one is among its descendants. -/
lemma Valid.mem_descendants (hv : reg.Valid next) (ht : reg.get? t = some d) (hne : t ≠ type)
    (ha : type ∈ d.ancestors) : t ∈ reg.descendants type := by
  have hid := hv.id ht
  refine List.mem_map.mpr ⟨d, List.mem_filter.mpr ⟨Table.mem_values_of_get? ht, ?_⟩, hid⟩
  rw [Bool.and_eq_true, decide_eq_true_eq, hid]
  exact ⟨hne, List.contains_iff_mem.mpr ha⟩

/-- If an identifier is handed out elsewhere, the registry stays valid. -/
lemma Valid.mono {next' : TypeId} (hv : reg.Valid next) (h : next.code ≤ next'.code) :
    reg.Valid next' where
  user := Nat.le_trans hv.user h
  builtin := hv.builtin
  allocated := fun ht => Nat.lt_of_lt_of_le (hv.allocated ht) h
  id := hv.id
  self := hv.self
  ancestors := fun ht a ha => Nat.lt_of_lt_of_le (hv.ancestors ht a ha) h
  declaring := hv.declaring
  params := hv.params

end Registry

end LateBinding
