import LateBinding.Proofs.Lookup.Frame
import LateBinding.Proofs.Registry.Storage

/-!
# Slots along chains

Each type is laid out over its base, and so the fields of a type and of all its ancestors, the
root's first, occupy the instance slots of the type one each. The fields of an ancestor come first
among them: a slot of the ancestor is a slot of the same field in every type that derives from it.

Bases may be unloaded while types that derive from them stay, so that a chain need not be known any
more. What is said here of a chain refers to its types as they were when they were registered.

Main statement: `Evolved.storage`.
-/

namespace LateBinding

/-! ### Chains of layouts -/

/-- The fields of a type and its ancestors, the root's first. -/
def chainFields (levels : List Descriptor) : List Member :=
  levels.reverse.flatMap fun d => fieldsOf false d.members

@[simp] lemma chainFields_cons (d : Descriptor) (levels : List Descriptor) :
    chainFields (d :: levels) = chainFields levels ++ fieldsOf false d.members := by
  simp [chainFields]

/-- A type that has no base, no slots and no members. -/
structure Descriptor.IsRoot (d : Descriptor) : Prop where
  base : d.base = none
  ancestors : d.ancestors = [d.id]
  slotNames : d.slotNames = []
  defaults : d.defaults = []
  members : d.members = []

/-- A type lies over its base, and its ancestors are those of the base. -/
structure Descriptor.Extends (d base : Descriptor) : Prop where
  base_eq : d.base = some base.id
  ancestors : d.ancestors = d.id :: base.ancestors
  laid : ∃ statics, (d.layout statics).LaidOver base

/-- Along a chain, the most derived type first, each type extends its base, up to the root. -/
inductive LaidOut : List Descriptor → Prop where
  | root {d : Descriptor} (h : d.IsRoot) : LaidOut [d]
  | derived {d base : Descriptor} {farther : List Descriptor} (hfarther : LaidOut (base :: farther))
      (h : d.Extends base) : LaidOut (d :: base :: farther)

namespace LaidOut

variable {d b : Descriptor} {levels farther : List Descriptor}

lemma length_defaults (h : LaidOut (d :: farther)) : d.defaults.length = d.slotNames.length := by
  cases h with
  | root h => rw [h.slotNames, h.defaults]; rfl
  | derived _ h =>
    obtain ⟨_, hlaid⟩ := h.laid
    exact hlaid.length_defaults

/-- The types of the chain are the ancestors of its first type. -/
lemma ancestors_eq (h : LaidOut (d :: farther)) : d.ancestors = (d :: farther).map (·.id) := by
  induction farther generalizing d with
  | nil =>
    cases h with
    | root h => exact h.ancestors
  | cons base farther ih =>
    cases h with
    | derived hfarther h => rw [h.ancestors, ih hfarther]; rfl

/-- The fields of the whole chain occupy the slots of its first type. -/
lemma occupy (h : LaidOut (d :: farther)) :
    Occupy (chainFields (d :: farther)) 0 d.slotNames := by
  induction farther generalizing d with
  | nil =>
    cases h with
    | root h =>
      rw [h.slotNames, chainFields_cons, h.members]
      exact .nil 0
  | cons base farther ih =>
    cases h with
    | derived hfarther h =>
      obtain ⟨_, hlaid⟩ := h.laid
      obtain ⟨names, hnames⟩ := hlaid.slotNames
      change base.slotNames ++ names = d.slotNames at hnames
      have hown := hlaid.instances
      change Occupy (fieldsOf false d.members) _ (d.slotNames.drop _) at hown
      rw [← hnames, List.drop_left] at hown
      rw [← hnames, chainFields_cons]
      exact (ih hfarther).append (by rwa [Nat.zero_add])

/-- What an ancestor has comes first in the types that derive from it. -/
lemma within (h : LaidOut (d :: levels)) (hb : b :: farther <:+ d :: levels) :
    LaidOut (b :: farther) ∧ b.slotNames <+: d.slotNames ∧ b.defaults <+: d.defaults ∧
      chainFields (b :: farther) <+: chainFields (d :: levels) := by
  induction levels generalizing d with
  | nil =>
    rcases List.suffix_cons_iff.mp hb with heq | hb
    · cases heq
      exact ⟨h, List.prefix_refl _, List.prefix_refl _, List.prefix_refl _⟩
    · cases List.suffix_nil.mp hb
  | cons base levels ih =>
    rcases List.suffix_cons_iff.mp hb with heq | hb
    · cases heq
      exact ⟨h, List.prefix_refl _, List.prefix_refl _, List.prefix_refl _⟩
    · -- what is within the base is laid out before what the type adds
      cases h with
      | derived hfarther h =>
        obtain ⟨_, hlaid⟩ := h.laid
        obtain ⟨hlaidOut, hnames, hdefaults, hfields⟩ := ih hfarther hb
        refine ⟨hlaidOut, hnames.trans hlaid.slotNames, hdefaults.trans hlaid.defaults, ?_⟩
        rw [chainFields_cons d]
        exact hfields.trans (List.prefix_append _ _)

end LaidOut

namespace Registry

variable {ever ever' reg reg' : Registry} {st st' : Store} {next type t : TypeId}
  {d base : Descriptor} {spec : TypeSpec} {levels : List Descriptor}

/-! ### Registrations -/

/-- What a registration does to the registry and the store. -/
lemma register_eq_ok (h : reg.register st spec = .ok (type, reg', st'))
    (hd : reg'.get? type = some d) : ∃ base, reg.get? spec.base = some base ∧
      type = st.nextType ∧ d.id = type ∧ reg' = reg.add d ∧
      let layout := Layout.ofSpec reg.defaultValue type base spec
      d = layout.toDescriptor base spec ∧
        st' = { st with nextType := type.next
                        statics := st.statics.insert type layout.statics } := by
  obtain ⟨base, hbase⟩ := checkSpec_of_register h
  rw [register, hbase] at h
  cases h
  let layout := Layout.ofSpec reg.defaultValue st.nextType base spec
  have hid : (layout.toDescriptor base spec).id = st.nextType := Layout.owner_ofSpec ..
  rw [get?_add, if_pos hid.symm, Option.some.injEq] at hd
  subst hd
  exact ⟨base, get?_base_of_checkSpec hbase, rfl, hid, rfl, rfl, rfl⟩

lemma Registered.chain_old (h : Registered reg spec next base d reg') (hv : reg.Valid next)
    (hc : reg.Chain t levels) : reg'.Chain t levels := by
  obtain ⟨e, he, hlevels⟩ := hc
  refine ⟨e, (h.get?_of_lt (hv.allocated he)).trans he, hlevels ▸ ?_⟩
  exact List.map_congr_left fun a ha => h.get?_of_lt (hv.ancestors he a ha)

lemma Registered.chain_new (h : Registered reg spec next base d reg') (hv : reg.Valid next)
    (hc : reg.Chain spec.base (base :: levels)) : reg'.Chain next (d :: base :: levels) := by
  obtain ⟨e, he, hlevels⟩ := hc
  obtain rfl : base = e := Option.some.inj (h.base_known.symm.trans he)
  have hnew : reg'.get? next = some d := (h.get? next).trans (if_pos rfl)
  refine ⟨d, hnew, ?_⟩
  rw [h.ancestors, List.map_cons, hnew, List.map_cons, ← hlevels]
  exact congrArg _ (List.map_congr_left fun a ha => h.get?_of_lt (hv.ancestors he a ha))

/-- Registries that registrations and unloads lead to. Beside what is known now stand all types that
have ever been registered, each as it was then. -/
inductive Evolved : Registry → Registry → Store → Prop where
  | start : Evolved .initial .initial {}
  | register {ever reg reg' : Registry} {st st' : Store} {spec : TypeSpec} {type : TypeId}
      {d : Descriptor} (h : Evolved ever reg st)
      (hr : reg.register st spec = .ok (type, reg', st')) (hd : reg'.get? type = some d) :
      Evolved (ever.add d) reg' st'
  | unload {ever reg reg' : Registry} {st : Store} {type : TypeId} (h : Evolved ever reg st)
      (hu : reg.unload type = some reg') : Evolved ever reg' st

/-- All types that have ever been registered lie over their bases. -/
structure Archive (ever reg : Registry) (st : Store) : Prop where
  valid : ever.Valid st.nextType
  known : ∀ {t d}, reg.get? t = some d → ever.get? t = some d
  laidOut : ∀ {t d}, ever.get? t = some d →
    ∃ farther, ever.Chain t (d :: farther) ∧ LaidOut (d :: farther)
  statics : ∀ {t d}, ever.get? t = some d → (st.staticsOf t).length = d.staticNames.length

lemma laidOver_builtin (id : TypeId) (name : String) (isValueType : Bool) :
    Layout.LaidOver (.builtin TypeId.object "object" false)
      ((Descriptor.builtin id name isValueType).layout []) :=
  ⟨rfl, rfl, List.prefix_refl _, List.prefix_refl _, .nil 0, .nil 0, nofun⟩

lemma laidOut_builtin {name : String} {isValueType : Bool}
    (h : (t, name, isValueType) ∈ TypeId.builtins) :
    ∃ farther, Registry.initial.Chain t (.builtin t name isValueType :: farther) ∧
      LaidOut (.builtin t name isValueType :: farther) := by
  have hroot : LaidOut [.builtin TypeId.object "object" false] := .root ⟨rfl, rfl, rfl, rfl, rfl⟩
  simp only [TypeId.builtins, List.mem_cons, Prod.mk.injEq, List.not_mem_nil, or_false] at h
  rcases h with ⟨rfl, rfl, rfl⟩ | h
  · exact ⟨[], ⟨_, rfl, rfl⟩, hroot⟩
  · rcases h with ⟨rfl, rfl, rfl⟩ | ⟨rfl, rfl, rfl⟩ | ⟨rfl, rfl, rfl⟩ | ⟨rfl, rfl, rfl⟩ |
      ⟨rfl, rfl, rfl⟩ | ⟨rfl, rfl, rfl⟩ <;>
      exact ⟨_, ⟨_, rfl, rfl⟩, .derived hroot ⟨rfl, rfl, [], laidOver_builtin _ _ _⟩⟩

lemma archive_initial : Archive .initial .initial {} where
  valid := valid_initial
  known := id
  laidOut := by
    intro t d h
    obtain ⟨name, isValueType, hb, rfl⟩ := get?_initial_eq_some h
    exact laidOut_builtin hb
  statics := by
    intro t d h
    obtain ⟨name, isValueType, hb, rfl⟩ := get?_initial_eq_some h
    rfl

namespace Archive

/-- What is registered now is registered beside all that has ever been. -/
lemma registered (h : Archive ever reg st) (hr : reg.register st spec = .ok (type, reg', st'))
    (hd : reg'.get? type = some d) (hbase : reg.get? spec.base = some base) :
    Registered ever spec st.nextType base d (ever.add d) := by
  obtain ⟨base', hbase', rfl, hid, rfl, hlayout, rfl⟩ := register_eq_ok hr hd
  obtain rfl := Option.some.inj (hbase'.symm.trans hbase)
  -- the base is known, so it still is what it was when it was registered
  refine ⟨h.known hbase, hid, ?_, ?_, fun t => by rw [get?_add, hid]⟩ <;> subst hlayout
  · exact congrArg (· :: base'.ancestors) hid
  · exact Layout.from_ofSpec reg.defaultValue st.nextType base' spec

/-- A registered type lies over its base, and its chain goes on with the chain of the base. -/
lemma register (h : Archive ever reg st) (hr : reg.register st spec = .ok (type, reg', st'))
    (hd : reg'.get? type = some d) : Archive (ever.add d) reg' st' := by
  obtain ⟨base, hbase, rfl, hid, rfl, hlayout, rfl⟩ := register_eq_ok hr hd
  have hreg := h.registered hr hd hbase
  obtain ⟨farther, hchain, hfarther⟩ := h.laidOut hreg.base_known
  have hlaid := Layout.laidOver_ofSpec hfarther.length_defaults reg.defaultValue st.nextType spec
  -- the identifier of the new type has not been used before
  have hlt : ∀ {t e}, ever.get? t = some e → t ≠ st.nextType := by
    rintro t e he rfl
    exact Nat.lt_irrefl _ (h.valid.allocated he)
  constructor
  case valid => exact hreg.valid h.valid
  case known =>
    intro t e he
    rw [get?_add] at he ⊢
    split
    · rwa [if_pos ‹_›] at he
    · rw [if_neg ‹_›] at he
      exact h.known he
  case laidOut =>
    intro t e he
    rcases hreg.new_or_old he with ⟨rfl, rfl⟩ | he
    · refine ⟨base :: farther, hreg.chain_new h.valid hchain, .derived hfarther ?_⟩
      subst hlayout
      exact ⟨rfl, rfl, _, hlaid⟩
    · obtain ⟨farther, hchain, hlaid⟩ := h.laidOut he
      exact ⟨farther, hreg.chain_old h.valid hchain, hlaid⟩
  case statics =>
    intro t e he
    rcases hreg.new_or_old he with ⟨rfl, rfl⟩ | he
    · rw [Store.staticsOf, Table.get?_insert_self]
      subst hlayout
      exact hlaid.length_statics
    · rw [Store.staticsOf, Table.get?_insert_of_ne _ (hlt he)]
      exact h.statics he

lemma unload (h : Archive ever reg st) (hu : reg.unload type = some reg') :
    Archive ever reg' st where
  valid := h.valid
  known := fun ht => h.known ((unloaded_of_unload hu).get?_of_some ht).2
  laidOut := h.laidOut
  statics := h.statics

end Archive

lemma Evolved.archive (h : Evolved ever reg st) : Archive ever reg st := by
  induction h with
  | start => exact archive_initial
  | register _ hr hd ih => exact ih.register hr hd
  | unload _ hu ih => exact ih.unload hu

lemma Archive.get?_of_mem_chain (h : Archive ever reg st) (hc : ever.Chain type levels)
    (hb : base ∈ levels) : ever.get? base.id = some base := by
  obtain ⟨t, ht⟩ := hc.exists_get?_of_mem hb
  rwa [h.valid.id ht]

/-- Whatever types have been registered and unloaded, a known type lies over its base, as the base
was when the type was registered. The fields of the type and of its ancestors occupy all of its
slots, one each; and what an ancestor has, its slots, what they start with and the fields that
occupy them, comes first. -/
theorem Evolved.storage (h : Evolved ever reg st) (hd : reg.get? type = some d) :
    ∃ farther, ever.Chain type (d :: farther) ∧
      (farther = [] → d.IsRoot) ∧
      (∀ base ∈ farther.head?, d.base = some base.id ∧ ever.get? base.id = some base ∧
        (d.layout (st.staticsOf type)).LaidOver base) ∧
      Occupy (chainFields (d :: farther)) 0 d.slotNames ∧
      ∀ b rest, b :: rest <:+ d :: farther →
        Occupy (chainFields (b :: rest)) 0 b.slotNames ∧ b.slotNames <+: d.slotNames ∧
          b.defaults <+: d.defaults ∧ chainFields (b :: rest) <+: chainFields (d :: farther) := by
  have harchive := h.archive
  have hknown := harchive.known hd
  obtain ⟨farther, hchain, hlaid⟩ := harchive.laidOut hknown
  refine ⟨farther, hchain, ?_, ?_, hlaid.occupy, fun b rest hb => ?_⟩
  · -- only the root has nothing above it
    rintro rfl
    cases hlaid with
    | root h => exact h
  · -- any other type is laid out over its base
    intro base hbase
    cases hlaid with
    | root => cases hbase
    | derived _ h =>
      cases hbase
      obtain ⟨_, hover⟩ := h.laid
      have hbase := harchive.get?_of_mem_chain hchain (List.mem_cons_of_mem _ List.mem_cons_self)
      exact ⟨h.base_eq, hbase, hover.withStatics (harchive.statics hknown)⟩
  · obtain ⟨hlaidOut, hnames, hdefaults, hfields⟩ := hlaid.within hb
    exact ⟨hlaidOut.occupy, hnames, hdefaults, hfields⟩

/-- A base with a field, a static field and an automatic property. -/
def layeredBase : TypeSpec :=
  { name := "Base"
    members := [.field { name := "x", type := TypeId.int },
      .field { name := "count", type := TypeId.int, isStatic := true },
      .property { name := "P", type := TypeId.string, body := .auto false }] }

/-- A type that declares the names of its base anew, and has an automatic property of its own. -/
def layeredDerived : TypeSpec :=
  { name := "Derived"
    base := ⟨64⟩
    members := [.property { name := "P", type := TypeId.int, isStatic := true, body := .auto true },
      .property { name := "Q", type := TypeId.bool, body := .auto false },
      .field { name := "x", type := TypeId.float }] }

/-- The base has been unloaded, and its fields are still the first ones. The method that writes the
type's own property goes to the slot of the field that backs it, the first slot after those of the
base. -/
theorem Evolved.storage_layered : ∃ ever reg st d base root, Evolved ever reg st ∧
    reg.get? ⟨64⟩ = none ∧ reg.get? ⟨65⟩ = some d ∧
    d.slotNames = ["x", "<P>k__BackingField", "<Q>k__BackingField", "x"] ∧
    ever.Chain ⟨65⟩ [d, base, root] ∧ Occupy (chainFields [d, base, root]) 0 d.slotNames ∧
    base.slotNames.length = 2 ∧ ∃ m ∈ d.members, m.name = "set_Q" ∧ 2 ∈ m.accessorSlots ∧
      ∃ group, AutoProperty 2 group ∧ m ∈ group ∧ group <:+: d.members := by
  have h₁ := Evolved.start.register
    (rfl : Registry.initial.register {} layeredBase = .ok (⟨64⟩, _, _)) rfl
  have h₂ := h₁.register (rfl : Registry.register _ _ layeredDerived = .ok (⟨65⟩, _, _)) rfl
  have h₃ := h₂.unload (rfl : Registry.unload _ ⟨64⟩ = some _)
  obtain ⟨farther, hchain, -, hbase, hoccupy, -⟩ :=
    h₃.storage (rfl : Registry.get? _ ⟨65⟩ = some _)
  have hlevels : _ :: farther = [_, _, _] := hchain.unique ⟨_, rfl, rfl⟩
  cases hlevels
  obtain ⟨-, -, hlaid⟩ := hbase _ rfl
  have hgroup := hlaid.grouped _ (@List.mem_of_getElem? Member _ 6 _ rfl) 2 List.mem_cons_self
  exact ⟨_, _, _, _, _, _, h₃, rfl, rfl, rfl, hchain, hoccupy, rfl, _,
    @List.mem_of_getElem? Member _ 6 _ rfl, rfl, List.mem_cons_self, hgroup⟩

end Registry

end LateBinding
