import Mathlib.Data.List.Basic
import LateBinding.Proofs.Registry.Layout

/-!
# Storage of a laid-out type

While a type is laid out its fields get the slots after those of its base, one each and in the order
of their declaration, and its static fields get the static slots from the first one on. Everything
that an automatic property brings goes to the slot of its backing field.

Main statement: `Layout.laidOver_ofSpec`.
-/

namespace LateBinding

/-! ### Slots of members -/

/-- The slot of a field. -/
def Member.fieldSlot? (m : Member) : Option Nat :=
  match m.body with
  | .field slot _ => some slot
  | _ => none

/-- The slot that an accessor goes to. -/
def Accessor.slot? : Accessor → Option Nat
  | slot index => some index
  | native _ => none

/-- The slots that the accessors of a property or a method go to. -/
def Member.accessorSlots (m : Member) : List Nat :=
  match m.body with
  | .property getter setter => (getter.toList ++ setter.toList).filterMap Accessor.slot?
  | .method accessor => accessor.slot?.toList
  | _ => []

/-- The slots that a member goes to. -/
def Member.slots (m : Member) : List Nat := m.fieldSlot?.toList ++ m.accessorSlots

/-- The slot that a field or property is read from. -/
def Member.readSlot? (m : Member) : Option Nat :=
  match m.body with
  | .field slot _ => some slot
  | .property (some getter) _ => getter.slot?
  | _ => none

/-- The slot that a field or property is written to. -/
def Member.writeSlot? (m : Member) : Option Nat :=
  match m.body with
  | .field slot false => some slot
  | .property _ (some setter) => setter.slot?
  | _ => none

/-- The type of what a member reads or writes. A method that writes gets it as its last argument. -/
def Member.storedType (m : Member) : TypeId :=
  match m.body with
  | .method _ => (m.params.getLast?.map (·.type)).getD m.valueType
  | _ => m.valueType

namespace Member

variable {m : Member} {slot : Nat}

lemma mem_slots_of_readSlot? (h : m.readSlot? = some slot) : slot ∈ m.slots := by
  rw [readSlot?] at h
  rw [slots, fieldSlot?, accessorSlots]
  split at h <;> simp_all

lemma mem_slots_of_writeSlot? (h : m.writeSlot? = some slot) : slot ∈ m.slots := by
  rw [writeSlot?] at h
  rw [slots, fieldSlot?, accessorSlots]
  split at h <;> simp_all

lemma storedType_of_writeSlot? (h : m.writeSlot? = some slot) : m.storedType = m.valueType := by
  rw [writeSlot?] at h
  rw [storedType]
  split at h <;> simp_all

end Member

/-- The fields of one scope, in the order of their declaration. -/
def fieldsOf (isStatic : Bool) (members : List Member) : List Member :=
  members.filter fun m => m.kind == .field && m.isStatic == isStatic

lemma mem_fieldsOf {isStatic : Bool} {members : List Member} {m : Member} :
    m ∈ fieldsOf isStatic members ↔ m ∈ members ∧ m.kind = .field ∧ m.isStatic = isStatic := by
  simp [fieldsOf]

@[simp] lemma fieldsOf_append (isStatic : Bool) (ms ns : List Member) :
    fieldsOf isStatic (ms ++ ns) = fieldsOf isStatic ms ++ fieldsOf isStatic ns :=
  List.filter_append ..

lemma fieldsOf_eq_nil {isStatic : Bool} {ms : List Member} (h : ∀ m ∈ ms, m.kind ≠ .field) :
    fieldsOf isStatic ms = [] :=
  List.eq_nil_iff_forall_not_mem.mpr fun m hm =>
    h m (mem_fieldsOf.mp hm).1 (mem_fieldsOf.mp hm).2.1

@[simp] lemma fieldsOf_newField (isStatic : Bool) (l : Layout) (f : FieldSpec)
    (isSynthesized : Bool) : fieldsOf isStatic [l.newField f isSynthesized] =
      if f.isStatic = isStatic then [l.newField f isSynthesized] else [] := by
  by_cases h : f.isStatic = isStatic <;>
    simp [fieldsOf, Layout.newField, Member.kind, Implementation.kind, h]

/-- The fields occupy slots, one each and in order, from `start` on and under the given names. -/
structure Occupy (fields : List Member) (start : Nat) (names : List String) : Prop where
  map_name : fields.map (·.name) = names
  map_slot : fields.map (·.fieldSlot?) = (List.range' start names.length).map some

namespace Occupy

variable {fields more : List Member} {start : Nat} {names others : List String}

lemma length_eq (h : Occupy fields start names) : fields.length = names.length := by
  rw [← h.map_name, List.length_map]

lemma nil (start : Nat) : Occupy [] start [] := ⟨rfl, rfl⟩

lemma append (h : Occupy fields start names) (h' : Occupy more (start + names.length) others) :
    Occupy (fields ++ more) start (names ++ others) := by
  refine ⟨?_, ?_⟩
  · rw [List.map_append, h.map_name, h'.map_name]
  · rw [List.map_append, h.map_slot, h'.map_slot, List.length_append, ← List.map_append,
      List.range'_append_1]

lemma concat (h : Occupy fields start names) {f : Member}
    (hf : f.fieldSlot? = some (start + names.length)) :
    Occupy (fields ++ [f]) start (names ++ [f.name]) := by
  refine h.append ⟨rfl, ?_⟩
  rw [List.map_singleton, hf]
  rfl

lemma slot (h : Occupy fields start names) {i : Nat} {f : Member} (hf : fields[i]? = some f) :
    f.fieldSlot? = some (start + i) := by
  have hi : i < names.length := h.length_eq ▸ (List.getElem?_eq_some_iff.mp hf).1
  have hslots := congrArg (·[i]?) h.map_slot
  simp only [List.getElem?_map, hf, Option.map_some, List.getElem?_range' hi, Nat.one_mul] at hslots
  exact Option.some.inj hslots

/-- Each slot is occupied by one field. -/
lemma getElem?_of_slot (h : Occupy fields start names) {f : Member} (hf : f ∈ fields) {i : Nat}
    (hi : f.fieldSlot? = some (start + i)) : fields[i]? = some f := by
  obtain ⟨j, hj⟩ := List.mem_iff_getElem?.mp hf
  have hslot := h.slot hj
  rw [hi, Option.some.injEq] at hslot
  rwa [Nat.add_left_cancel hslot]

end Occupy

/-! ### Automatic properties -/

/-- The field is what the property is backed by. -/
structure Member.Backs (field property : Member) (slot : Nat) (readonly : Bool) : Prop where
  name : field.name = backingFieldName property.name
  body : field.body = .field slot readonly
  declaring : field.declaring = property.declaring
  isStatic : field.isStatic = property.isStatic
  valueType : field.valueType = property.valueType

/-- The method reads the property through the slot. -/
structure Member.Reads (method property : Member) (slot : Nat) : Prop where
  name : method.name = getterName property.name
  body : method.body = .method (.slot slot)
  declaring : method.declaring = property.declaring
  isStatic : method.isStatic = property.isStatic
  params : method.params = []
  valueType : method.valueType = property.valueType

/-- The method writes the property through the slot. -/
structure Member.Writes (method property : Member) (slot : Nat) : Prop where
  name : method.name = setterName property.name
  body : method.body = .method (.slot slot)
  declaring : method.declaring = property.declaring
  isStatic : method.isStatic = property.isStatic
  params : method.params = [⟨property.valueType, false⟩]
  valueType : method.valueType = TypeId.void

/-- An automatic property together with what it brings: first its backing field, which is read-only
if the property is, and after the property a method for each accessor. -/
inductive AutoProperty (slot : Nat) : List Member → Prop where
  | getOnly {field property getter : Member} (hfield : field.Backs property slot true)
      (hproperty : property.body = .property (some (.slot slot)) none)
      (hgetter : getter.Reads property slot) : AutoProperty slot [field, property, getter]
  | full {field property getter setter : Member} (hfield : field.Backs property slot false)
      (hproperty : property.body = .property (some (.slot slot)) (some (.slot slot)))
      (hgetter : getter.Reads property slot) (hsetter : setter.Writes property slot) :
      AutoProperty slot [field, property, getter, setter]

/-- What the member stores is in a field. -/
structure Member.StoredIn (m field : Member) (slot : Nat) : Prop where
  slot : field.fieldSlot? = some slot
  declaring : field.declaring = m.declaring
  isStatic : field.isStatic = m.isStatic
  valueType : field.valueType = m.storedType

lemma Member.StoredIn.self {m : Member} {slot : Nat} (h : m.fieldSlot? = some slot) :
    m.StoredIn m slot := by
  refine ⟨h, rfl, rfl, ?_⟩
  rw [fieldSlot?] at h
  rw [storedType]
  split at h <;> simp_all

section Backs

variable {field property m : Member} {slot : Nat} {readonly : Bool}

lemma Member.Backs.fieldSlot?_eq (h : field.Backs property slot readonly) :
    field.fieldSlot? = some slot := by
  rw [fieldSlot?, h.body]

lemma Member.Backs.storedIn {getter setter : Option Accessor}
    (h : field.Backs property slot readonly) (hp : property.body = .property getter setter) :
    property.StoredIn field slot := by
  refine ⟨h.fieldSlot?_eq, h.declaring, h.isStatic, ?_⟩
  rw [storedType, hp, h.valueType]

lemma Member.Reads.storedIn (hm : m.Reads property slot)
    (h : field.Backs property slot readonly) : m.StoredIn field slot := by
  refine ⟨h.fieldSlot?_eq, h.declaring.trans hm.declaring.symm,
    h.isStatic.trans hm.isStatic.symm, ?_⟩
  rw [storedType, hm.body, hm.params, h.valueType, ← hm.valueType]
  rfl

lemma Member.Writes.storedIn (hm : m.Writes property slot)
    (h : field.Backs property slot readonly) : m.StoredIn field slot := by
  refine ⟨h.fieldSlot?_eq, h.declaring.trans hm.declaring.symm,
    h.isStatic.trans hm.isStatic.symm, ?_⟩
  rw [storedType, hm.body, hm.params, h.valueType]
  rfl

end Backs

/-- What a member of an automatic property is: its backing field, the property itself or a method
for one of its accessors. There is one that writes only if the field is not read-only. -/
inductive AutoProperty.Part (slot : Nat) (backing property : Member) (readonly : Bool) :
    Member → Prop where
  | field : Part slot backing property readonly backing
  | property : Part slot backing property readonly property
  | getter {m : Member} (h : m.Reads property slot) : Part slot backing property readonly m
  | setter {m : Member} (h : m.Writes property slot) (hwritable : readonly = false) :
      Part slot backing property readonly m

namespace AutoProperty

variable {slot : Nat} {field m : Member} {group rest : List Member}

lemma exists_parts (h : AutoProperty slot group) : ∃ field ∈ group, ∃ property readonly,
    field.Backs property slot readonly ∧
      property.body = .property (some (.slot slot)) (if readonly then none else some (.slot slot)) ∧
      ∀ m ∈ group, Part slot field property readonly m := by
  cases h with
  | @getOnly field property getter hfield hproperty hgetter =>
    refine ⟨field, List.mem_cons_self, property, true, hfield, hproperty, fun m hm => ?_⟩
    simp only [List.mem_cons, List.not_mem_nil, or_false] at hm
    rcases hm with rfl | rfl | rfl
    · exact .field
    · exact .property
    · exact .getter hgetter
  | @full field property getter setter hfield hproperty hgetter hsetter =>
    refine ⟨field, List.mem_cons_self, property, false, hfield, hproperty, fun m hm => ?_⟩
    simp only [List.mem_cons, List.not_mem_nil, or_false] at hm
    rcases hm with rfl | rfl | rfl | rfl
    · exact .field
    · exact .property
    · exact .getter hgetter
    · exact .setter hsetter rfl

/-- Everything that an automatic property brings goes to the backing field. -/
lemma exists_storedIn (h : AutoProperty slot group) :
    ∃ field ∈ group, field.kind = .field ∧ ∀ m ∈ group, m.StoredIn field slot := by
  obtain ⟨field, hmem, property, readonly, hfield, hproperty, hparts⟩ := h.exists_parts
  refine ⟨field, hmem, by rw [Member.kind, hfield.body]; rfl, fun m hm => ?_⟩
  cases hparts m hm with
  | field => exact .self hfield.fieldSlot?_eq
  | property => exact hfield.storedIn hproperty
  | getter hgetter => exact hgetter.storedIn hfield
  | setter hsetter => exact hsetter.storedIn hfield

/-- What can be written can be read, from the same slot. -/
lemma readSlot?_of_writeSlot? (h : AutoProperty slot group) (hm : m ∈ group)
    (hw : m.writeSlot? = some slot) : m.readSlot? = some slot := by
  obtain ⟨field, -, property, readonly, hfield, hproperty, hparts⟩ := h.exists_parts
  cases hparts m hm with
  | field => rw [Member.readSlot?, hfield.body]
  | property =>
    rw [Member.readSlot?, hproperty]
    rfl
  | getter hgetter => simp [Member.writeSlot?, hgetter.body] at hw
  | setter hsetter => simp [Member.writeSlot?, hsetter.body] at hw

lemma accessorSlots (h : AutoProperty slot group) :
    ∀ m ∈ group, ∀ k ∈ m.accessorSlots, k = slot := by
  intro m hm k hk
  obtain ⟨field, -, property, readonly, hfield, hproperty, hparts⟩ := h.exists_parts
  cases hparts m hm with
  | field => simp [Member.accessorSlots, hfield.body] at hk
  | property => cases readonly <;> simpa [Member.accessorSlots, hproperty, Accessor.slot?] using hk
  | getter hgetter => simpa [Member.accessorSlots, hgetter.body, Accessor.slot?] using hk
  | setter hsetter => simpa [Member.accessorSlots, hsetter.body, Accessor.slot?] using hk

/-- The methods that come with the property get no argument by reference. -/
lemma byRef_eq_false (h : AutoProperty slot group) (hm : m ∈ group) {i : Nat}
    (hbody : m.body = .method (.slot i)) : ∀ p ∈ m.params, p.byRef = false := by
  obtain ⟨field, -, property, readonly, hfield, hproperty, hparts⟩ := h.exists_parts
  cases hparts m hm with
  | field => simp [hfield.body] at hbody
  | property => simp [hproperty] at hbody
  | getter hgetter => simp [hgetter.params]
  | setter hsetter => simp [hsetter.params]

/-- The backing field is the only field. -/
lemma kind_ne_field (h : AutoProperty slot (field :: rest)) : ∀ m ∈ rest, m.kind ≠ .field := by
  intro m hm
  cases h with
  | getOnly _ hproperty hgetter =>
    simp only [List.mem_cons, List.not_mem_nil, or_false] at hm
    rcases hm with rfl | rfl
    · simp [Member.kind, Implementation.kind, hproperty]
    · simp [Member.kind, Implementation.kind, hgetter.body]
  | full _ hproperty hgetter hsetter =>
    simp only [List.mem_cons, List.not_mem_nil, or_false] at hm
    rcases hm with rfl | rfl | rfl
    · simp [Member.kind, Implementation.kind, hproperty]
    · simp [Member.kind, Implementation.kind, hgetter.body]
    · simp [Member.kind, Implementation.kind, hsetter.body]

end AutoProperty

/-- What goes to a slot without being a field came with the automatic property that is backed
there. -/
def Grouped (members : List Member) : Prop :=
  ∀ m ∈ members, ∀ slot ∈ m.accessorSlots,
    ∃ group, AutoProperty slot group ∧ m ∈ group ∧ group <:+: members

lemma Grouped.append {ms ns : List Member} (h : Grouped ms)
    (hns : ∀ m ∈ ns, ∀ slot ∈ m.accessorSlots,
      ∃ group, AutoProperty slot group ∧ m ∈ group ∧ group <:+: ms ++ ns) :
    Grouped (ms ++ ns) := by
  intro m hm slot hslot
  rcases List.mem_append.mp hm with hm | hm
  · obtain ⟨group, hgroup, hmem, hwithin⟩ := h m hm slot hslot
    exact ⟨group, hgroup, hmem, hwithin.trans (List.infix_append [] ms ns)⟩
  · exact hns m hm slot hslot

/-- Whatever goes to a slot goes to the slot of a field. -/
lemma Grouped.exists_storedIn {ms : List Member} {m : Member} {i : Nat} (h : Grouped ms)
    (hm : m ∈ ms) (hi : i ∈ m.slots) : ∃ field ∈ fieldsOf m.isStatic ms, m.StoredIn field i := by
  rcases List.mem_append.mp hi with hfield | haccessor
  · have hslot := Option.mem_toList.mp hfield
    refine ⟨m, mem_fieldsOf.mpr ⟨hm, ?_, rfl⟩, .self hslot⟩
    rw [Member.fieldSlot?] at hslot
    rw [Member.kind]
    cases hb : m.body <;> simp_all [Implementation.kind]
  · obtain ⟨group, hgroup, hmem, hwithin⟩ := h m hm i haccessor
    obtain ⟨field, hfield, hkind, hstored⟩ := hgroup.exists_storedIn
    refine ⟨field, mem_fieldsOf.mpr ⟨hwithin.subset hfield, hkind, ?_⟩, hstored m hmem⟩
    exact (hstored m hmem).isStatic

/-- A method that goes to a slot gets no argument by reference. -/
lemma Grouped.byRef_eq_false {ms : List Member} {m : Member} {i : Nat} (h : Grouped ms)
    (hm : m ∈ ms) (hbody : m.body = .method (.slot i)) : ∀ p ∈ m.params, p.byRef = false := by
  have hslot : i ∈ m.accessorSlots := by simp [Member.accessorSlots, hbody, Accessor.slot?]
  obtain ⟨group, hgroup, hmem, -⟩ := h m hm i hslot
  exact hgroup.byRef_eq_false hmem hbody

/-- What can be written can be read, from the same slot. -/
lemma Grouped.readSlot?_of_writeSlot? {ms : List Member} {m : Member} {i : Nat} (h : Grouped ms)
    (hm : m ∈ ms) (hw : m.writeSlot? = some i) : m.readSlot? = some i := by
  rcases List.mem_append.mp (Member.mem_slots_of_writeSlot? hw) with hfield | haccessor
  · have hslot := Option.mem_toList.mp hfield
    rw [Member.fieldSlot?] at hslot
    rw [Member.readSlot?]
    split at hslot <;> simp_all
  · obtain ⟨group, hgroup, hmem, -⟩ := h m hm i haccessor
    exact hgroup.readSlot?_of_writeSlot? hmem hw

/-! ### Layouts -/

/-- The layout of a registered type, with what its static slots hold. -/
def Descriptor.layout (d : Descriptor) (statics : List Value) : Layout where
  owner := d.id
  slotNames := d.slotNames
  defaults := d.defaults
  staticNames := d.staticNames
  statics
  members := d.members

namespace Layout

/-- How a type lies over its base: it keeps the slots of the base, each of its own fields has one
of the slots after them, and each of its static fields one of the static slots. -/
structure LaidOver (base : Descriptor) (l : Layout) : Prop where
  length_defaults : l.defaults.length = l.slotNames.length
  length_statics : l.statics.length = l.staticNames.length
  slotNames : base.slotNames <+: l.slotNames
  defaults : base.defaults <+: l.defaults
  instances : Occupy (fieldsOf false l.members) base.slotNames.length
    (l.slotNames.drop base.slotNames.length)
  statics : Occupy (fieldsOf true l.members) 0 l.staticNames
  grouped : Grouped l.members

variable {base : Descriptor} {l : Layout}

lemma laidOver_start (owner : TypeId) (h : base.defaults.length = base.slotNames.length) :
    (start owner base).LaidOver base where
  length_defaults := h
  length_statics := rfl
  slotNames := List.prefix_refl _
  defaults := List.prefix_refl _
  instances := by
    change Occupy [] _ (base.slotNames.drop _)
    rw [List.drop_length]
    exact .nil _
  statics := .nil 0
  grouped := fun _ hm => by cases hm

/-- An automatic property brings its backing field, which gets the next slot of its scope, and then
all that goes to this slot. -/
lemma exists_autoProperty (l : Layout) (p : PropertySpec) (getOnly : Bool) (initial : Value) :
    let l' := l.addField (backingField p getOnly) initial true
    let slot := Accessor.slot (l.nextSlot p.isStatic)
    ∃ field rest, l'.members = l.members ++ [field] ∧
      l'.addAccessors p (some slot) (if getOnly then none else some slot) =
        { l' with members := l'.members ++ rest } ∧
      AutoProperty (l.nextSlot p.isStatic) (field :: rest) := by
  intro l' slot
  have howner : l'.owner = l.owner := owner_addField l (backingField p getOnly) initial true
  refine ⟨_, _, members_addField l (backingField p getOnly) initial true, rfl, ?_⟩
  cases getOnly with
  | true => exact .getOnly ⟨rfl, rfl, howner.symm, rfl, rfl⟩ rfl ⟨rfl, rfl, rfl, rfl, rfl, rfl⟩
  | false =>
    exact .full ⟨rfl, rfl, howner.symm, rfl, rfl⟩ rfl ⟨rfl, rfl, rfl, rfl, rfl, rfl⟩
      ⟨rfl, rfl, rfl, rfl, rfl, rfl⟩

namespace LaidOver

lemma add_length (h : l.LaidOver base) : base.slotNames.length +
    (l.slotNames.drop base.slotNames.length).length = l.slotNames.length := by
  rw [List.length_drop, Nat.add_sub_cancel' h.slotNames.length_le]

/-- Of what the static slots hold only the number counts. -/
lemma withStatics {d : Descriptor} {held statics : List Value}
    (h : (d.layout held).LaidOver base) (hs : statics.length = d.staticNames.length) :
    (d.layout statics).LaidOver base :=
  ⟨h.length_defaults, hs, h.slotNames, h.defaults, h.instances, h.statics, h.grouped⟩

/-- Members that are not fields take no slots. -/
lemma addMembers (h : l.LaidOver base) {ms : List Member} (hms : ∀ m ∈ ms, m.kind ≠ .field)
    (hgroups : ∀ m ∈ ms, ∀ slot ∈ m.accessorSlots,
      ∃ group, AutoProperty slot group ∧ m ∈ group ∧ group <:+: l.members ++ ms) :
    LaidOver base { l with members := l.members ++ ms } where
  length_defaults := h.length_defaults
  length_statics := h.length_statics
  slotNames := h.slotNames
  defaults := h.defaults
  instances := by
    rw [fieldsOf_append, fieldsOf_eq_nil hms, List.append_nil]
    exact h.instances
  statics := by
    rw [fieldsOf_append, fieldsOf_eq_nil hms, List.append_nil]
    exact h.statics
  grouped := h.grouped.append hgroups

lemma addPlain (h : l.LaidOver base) {ms : List Member}
    (hms : ∀ m ∈ ms, m.kind ≠ .field ∧ m.accessorSlots = []) :
    LaidOver base { l with members := l.members ++ ms } := by
  refine h.addMembers (fun m hm => (hms m hm).1) fun m hm slot hslot => ?_
  rw [(hms m hm).2] at hslot
  cases hslot

/-- A field takes the next slot of its scope. -/
lemma addField (h : l.LaidOver base) (f : FieldSpec) (initial : Value) (isSynthesized : Bool) :
    (l.addField f initial isSynthesized).LaidOver base := by
  have hgrouped : Grouped (l.members ++ [l.newField f isSynthesized]) := by
    refine h.grouped.append fun m hm slot hslot => ?_
    rw [List.mem_singleton.mp hm] at hslot
    cases hslot
  rw [addField_eq]
  cases hstatic : f.isStatic with
  | false =>
    constructor
    case length_defaults => simp [h.length_defaults]
    case length_statics => exact h.length_statics
    case slotNames => exact h.slotNames.trans (List.prefix_append _ _)
    case defaults => exact h.defaults.trans (List.prefix_append _ _)
    case instances =>
      simp only [Bool.false_eq_true, if_false, fieldsOf_append, fieldsOf_newField, hstatic, if_true]
      rw [List.drop_append_of_le_length h.slotNames.length_le]
      -- slots are numbered by what they start with, and there are as many names
      refine h.instances.concat ?_
      rw [h.add_length, ← h.length_defaults]
      simp [newField, nextSlot, Member.fieldSlot?, hstatic]
    case statics => simpa [hstatic] using h.statics
    case grouped => exact hgrouped
  | true =>
    constructor
    case length_defaults => exact h.length_defaults
    case length_statics => simp [h.length_statics]
    case slotNames => exact h.slotNames
    case defaults => exact h.defaults
    case instances => simpa [hstatic] using h.instances
    case statics =>
      simp only [if_true, fieldsOf_append, fieldsOf_newField, hstatic]
      refine h.statics.concat ?_
      rw [Nat.zero_add, ← h.length_statics]
      simp [newField, nextSlot, Member.fieldSlot?, hstatic]
    case grouped => exact hgrouped

lemma addProperty (h : l.LaidOver base) (p : PropertySpec) (initial : Value) :
    (l.addProperty p initial).LaidOver base := by
  rw [Layout.addProperty]
  cases p.body with
  | native getter setter =>
    refine h.addPlain fun m hm => ?_
    simp only [List.mem_cons, List.mem_append, Option.mem_toList, Option.map_eq_some_iff] at hm
    rcases hm with rfl | ⟨_, ⟨_, -, rfl⟩, rfl⟩ | ⟨_, ⟨_, -, rfl⟩, rfl⟩
    · cases getter <;> cases setter <;> exact ⟨by rintro ⟨⟩, rfl⟩
    · exact ⟨by rintro ⟨⟩, rfl⟩
    · exact ⟨by rintro ⟨⟩, rfl⟩
  | auto getOnly =>
    obtain ⟨field, rest, hfield, hrest, hauto⟩ := exists_autoProperty l p getOnly initial
    simp only [hrest]
    refine (h.addField _ initial true).addMembers hauto.kind_ne_field fun m hm slot hslot => ?_
    have hmem : m ∈ field :: rest := List.mem_cons_of_mem _ hm
    obtain rfl := hauto.accessorSlots m hmem slot hslot
    refine ⟨field :: rest, hauto, hmem, ?_⟩
    rw [hfield, List.append_assoc]
    exact (List.suffix_append l.members (field :: rest)).isInfix

lemma addIndexer (h : l.LaidOver base) (x : IndexerSpec) : (l.addIndexer x).LaidOver base := by
  refine h.addPlain fun m hm => ?_
  simp only [List.mem_cons, List.mem_append, Option.mem_toList, Option.map_eq_some_iff] at hm
  rcases hm with rfl | ⟨_, -, rfl⟩ | ⟨_, -, rfl⟩ <;> exact ⟨nofun, rfl⟩

lemma addConstructor (h : l.LaidOver base) (c : ConstructorSpec) :
    (l.addConstructor c).LaidOver base :=
  h.addPlain fun m hm => by
    rw [List.mem_singleton.mp hm]
    exact ⟨nofun, rfl⟩

lemma addMethod (h : l.LaidOver base) (m : MethodSpec) : (l.addMethod m).LaidOver base :=
  h.addPlain fun n hn => by
    rw [List.mem_singleton.mp hn]
    exact ⟨nofun, rfl⟩

lemma add (h : l.LaidOver base) (default : TypeId → Value) (spec : MemberSpec) :
    (l.add default spec).LaidOver base := by
  cases spec with
  | field f => exact h.addField f _ false
  | property p => exact h.addProperty p _
  | method m => exact h.addMethod m
  | constructor c => exact h.addConstructor c
  | indexer x => exact h.addIndexer x

end LaidOver

/-- Every type is laid out over its base. -/
lemma laidOver_ofSpec (h : base.defaults.length = base.slotNames.length)
    (default : TypeId → Value) (owner : TypeId) (spec : TypeSpec) :
    (ofSpec default owner base spec).LaidOver base :=
  ofSpec_induction (laidOver_start owner h) (fun _ hl s _ => hl.add default s)
    fun _ hl => hl.addConstructor _

end Layout

end LateBinding
