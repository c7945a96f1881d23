import LateBinding.Proofs.Registry.Along
import LateBinding.Proofs.Registry.Populated

/-!
# Read-only slots

A slot may be written or not as the field that has it says. A read-only field has its own slot, and
an automatic property that can only be read has the slot of its backing field, which is read-only
too. Nothing that is written through a slot, be it a field, a property or one of its methods, shares
the slot with one of those.

Main statement: `Registry.Along.exists_slot`.
-/

namespace LateBinding

/-! ### Members and their slots -/

/-- The member has a slot that it never writes: it is a read-only field, or an automatic property
that can only be read. -/
inductive Member.Fixes (m : Member) (slot : Nat) : Prop where
  | field (h : m.body = .field slot true)
  | property (h : m.body = .property (some (.slot slot)) none)

/-- The member has a slot that it never writes, or a slot that it writes: as a field or property, or
as a method that takes the value. -/
inductive Member.Uses (m : Member) (slot : Nat) : Bool → Prop where
  | fixes (h : m.Fixes slot) : Uses m slot false
  | writes (h : m.writeSlot? = some slot) : Uses m slot true
  | method (h : m.body = .method (.slot slot)) (hparams : m.params ≠ []) : Uses m slot true

namespace Member.Uses

variable {m : Member} {slot i : Nat} {writable : Bool}

lemma mem_slots (h : m.Uses i writable) : i ∈ m.slots := by
  cases h with
  | fixes h =>
    rw [slots, fieldSlot?, accessorSlots]
    cases h with
    | field h => simp [h]
    | property h => simp [h, Accessor.slot?]
  | writes h => exact mem_slots_of_writeSlot? h
  | method h =>
    rw [slots, fieldSlot?, accessorSlots]
    simp [h, Accessor.slot?]

/-- A field is as writable as it says. -/
lemma of_field {readonly : Bool} (h : m.Uses i writable) (hbody : m.body = .field slot readonly) :
    i = slot ∧ writable = !readonly := by
  cases h with
  | fixes h => cases h <;> cases hbody.symm.trans ‹_›; exact ⟨rfl, rfl⟩
  | writes h =>
    rw [writeSlot?, hbody] at h
    cases readonly <;> cases h
    exact ⟨rfl, rfl⟩
  | method h => cases hbody.symm.trans h

/-- An automatic property is writable if it has a setter. -/
lemma of_property {setter : Option Accessor} (h : m.Uses i writable)
    (hbody : m.body = .property (some (.slot slot)) setter)
    (hsetter : setter = none ∨ setter = some (.slot slot)) :
    i = slot ∧ writable = setter.isSome := by
  cases h with
  | fixes h => cases h <;> cases hbody.symm.trans ‹_›; exact ⟨rfl, rfl⟩
  | writes h =>
    rw [writeSlot?, hbody] at h
    rcases hsetter with rfl | rfl <;> cases h
    exact ⟨rfl, rfl⟩
  | method h => cases hbody.symm.trans h

lemma of_method (h : m.Uses i writable) (hbody : m.body = .method (.slot slot)) :
    i = slot ∧ writable = true ∧ m.params ≠ [] := by
  cases h with
  | fixes h => cases h <;> cases hbody.symm.trans ‹_›
  | writes h =>
    rw [writeSlot?, hbody] at h
    cases h
  | method h hparams =>
    cases hbody.symm.trans h
    exact ⟨rfl, rfl, hparams⟩

end Member.Uses

/-- The field has the slot, in the scope of a member, and is as writable as the member's use of the
slot. -/
structure Member.Serves (field m : Member) (slot : Nat) (writable : Bool) : Prop where
  kind : field.kind = .field
  isStatic : field.isStatic = m.isStatic
  slot : field.fieldSlot? = some slot
  writable : field.isWritable = writable

lemma Member.Serves.of_body {field m : Member} {slot : Nat} {readonly : Bool}
    (hbody : field.body = .field slot readonly) (hstatic : field.isStatic = m.isStatic) :
    field.Serves m slot !readonly where
  kind := by rw [Member.kind, hbody]; rfl
  isStatic := hstatic
  slot := by rw [fieldSlot?, hbody]
  writable := by rw [isWritable, hbody]

/-- What comes with an automatic property uses the slot as the backing field says. -/
lemma AutoProperty.exists_serves {slot i : Nat} {group : List Member} {m : Member} {writable : Bool}
    (h : AutoProperty slot group) (hm : m ∈ group) (hi : m.Uses i writable) :
    ∃ field ∈ group, field.Serves m i writable := by
  obtain ⟨field, hmem, property, readonly, hfield, hproperty, hparts⟩ := h.exists_parts
  refine ⟨field, hmem, ?_⟩
  cases hparts m hm with
  | field =>
    obtain ⟨rfl, rfl⟩ := hi.of_field hfield.body
    exact .of_body hfield.body rfl
  | property =>
    obtain ⟨rfl, rfl⟩ := hi.of_property hproperty (by cases readonly <;> simp)
    cases readonly <;> exact .of_body hfield.body hfield.isStatic
  | getter hgetter => exact absurd hgetter.params (hi.of_method hgetter.body).2.2
  | setter hsetter hwritable =>
    subst hwritable
    obtain ⟨rfl, rfl, -⟩ := hi.of_method hsetter.body
    exact .of_body hfield.body (hfield.isStatic.trans hsetter.isStatic.symm)

/-- Whatever uses a slot does so as the field of the slot says. -/
lemma Grouped.exists_serves {ms : List Member} {m : Member} {i : Nat} {writable : Bool}
    (h : Grouped ms) (hm : m ∈ ms) (hi : m.Uses i writable) :
    ∃ field ∈ fieldsOf m.isStatic ms, field.Serves m i writable := by
  rcases List.mem_append.mp hi.mem_slots with hfield | haccessor
  · -- a field serves itself
    have hslot := Option.mem_toList.mp hfield
    obtain ⟨slot, readonly, hbody⟩ : ∃ slot readonly, m.body = .field slot readonly := by
      rw [Member.fieldSlot?] at hslot
      split at hslot
      · exact ⟨_, _, ‹_›⟩
      · cases hslot
    obtain ⟨rfl, rfl⟩ := hi.of_field hbody
    have hserves : m.Serves m i !readonly := .of_body hbody rfl
    exact ⟨m, mem_fieldsOf.mpr ⟨hm, hserves.kind, rfl⟩, hserves⟩
  · -- an accessor belongs to an automatic property, whose field serves it
    obtain ⟨group, hgroup, hmem, hwithin⟩ := h m hm i haccessor
    obtain ⟨field, hfield, hserves⟩ := hgroup.exists_serves hmem hi
    exact ⟨field, mem_fieldsOf.mpr ⟨hwithin.subset hfield, hserves.kind, hserves.isStatic⟩, hserves⟩

namespace LaidOut

variable {d : Descriptor} {levels : List Descriptor} {m : Member} {i : Nat} {writable : Bool}

/-- Along a chain an instance slot is used as the field says that stands at its position. -/
lemma exists_serves (h : LaidOut levels) (hd : d ∈ levels) (hm : m ∈ d.members)
    (hinstance : m.isStatic = false) (hi : m.Uses i writable) :
    ∃ f, (chainFields levels)[i]? = some f ∧ f.Serves m i writable := by
  obtain ⟨_, _, hlaid⟩ := h.exists_laidOver hd hm
  obtain ⟨f, hf, hserves⟩ := hlaid.grouped.exists_serves hm hi
  exact ⟨f, h.getElem?_of_slot hd (hinstance ▸ hf) hserves.slot, hserves⟩

/-- A static slot is used as the static field says that stands at its position. -/
lemma exists_serves_static (h : LaidOut levels) (hd : d ∈ levels) (hm : m ∈ d.members)
    (hstatic : m.isStatic = true) (hi : m.Uses i writable) :
    ∃ f, (fieldsOf true d.members)[i]? = some f ∧ f.Serves m i writable := by
  obtain ⟨_, _, hlaid⟩ := h.exists_laidOver hd hm
  obtain ⟨f, hf, hserves⟩ := hlaid.grouped.exists_serves hm hi
  refine ⟨f, hlaid.statics.getElem?_of_slot (hstatic ▸ hf) ?_, hserves⟩
  rw [hserves.slot, Nat.zero_add]

end LaidOut

/-! ### Slots of types -/

namespace Registry

variable {reg reg' : Registry} {st : Store} {next type : TypeId} {d base : Descriptor}
  {spec : TypeSpec} {m : Member} {i : Nat} {writable writable' : Bool}

/-- The field at the position of an instance slot may be written, or not. -/
def InstanceSlot (reg : Registry) (type : TypeId) (i : Nat) (writable : Bool) : Prop :=
  ∃ levels f, reg.Chain type levels ∧ (chainFields levels)[i]? = some f ∧ f.isWritable = writable

/-- The field at the position of a static slot may be written, or not. -/
def StaticSlot (reg : Registry) (type : TypeId) (i : Nat) (writable : Bool) : Prop :=
  ∃ d f, reg.get? type = some d ∧ (fieldsOf true d.members)[i]? = some f ∧ f.isWritable = writable

lemma InstanceSlot.unique (h : reg.InstanceSlot type i writable)
    (h' : reg.InstanceSlot type i writable') : writable = writable' := by
  obtain ⟨levels, f, hc, hf, rfl⟩ := h
  obtain ⟨levels', f', hc', hf', rfl⟩ := h'
  obtain rfl := hc.unique hc'
  rw [Option.some.inj (hf.symm.trans hf')]

lemma StaticSlot.unique (h : reg.StaticSlot type i writable)
    (h' : reg.StaticSlot type i writable') : writable = writable' := by
  obtain ⟨d, f, hd, hf, rfl⟩ := h
  obtain ⟨d', f', hd', hf', rfl⟩ := h'
  obtain rfl := Option.some.inj (hd.symm.trans hd')
  rw [Option.some.inj (hf.symm.trans hf')]

lemma InstanceSlot.registered (h : reg.InstanceSlot type i writable)
    (hr : Registered reg spec next base d reg') (hv : reg.Valid next) :
    reg'.InstanceSlot type i writable := by
  obtain ⟨levels, f, hc, hf, hw⟩ := h
  exact ⟨levels, f, hr.chain_old hv hc, hf, hw⟩

lemma StaticSlot.registered (h : reg.StaticSlot type i writable)
    (hr : Registered reg spec next base d reg') (hv : reg.Valid next) :
    reg'.StaticSlot type i writable := by
  obtain ⟨e, f, he, hf, hw⟩ := h
  exact ⟨e, f, (hr.get?_of_lt (hv.allocated he)).trans he, hf, hw⟩

/-- The slot is one of those of the type. -/
lemma InstanceSlot.lt_slotNames {shape : Shape} (h : reg.InstanceSlot shape.id i writable)
    (hv : Settled reg st) (hshape : reg.HasShape shape) : i < shape.slotNames.length := by
  obtain ⟨levels, f, hc, hf, -⟩ := h
  obtain ⟨e, he, rfl⟩ := hshape
  obtain ⟨d, farther, hd, rfl, hlaid⟩ := hv.archive.laidOut_of_chain hc
  obtain rfl := Option.some.inj (hd.symm.trans he)
  exact hlaid.occupy.length_eq ▸ (List.getElem?_eq_some_iff.mp hf).1

lemma StaticSlot.lt_staticNames (h : reg.StaticSlot type i writable) (hv : Settled reg st) :
    ∃ d, reg.get? type = some d ∧ i < d.staticNames.length := by
  obtain ⟨d, f, hd, hf, -⟩ := h
  refine ⟨d, hd, ?_⟩
  have hlt := (List.getElem?_eq_some_iff.mp hf).1
  obtain ⟨farther, -, hlaid⟩ := hv.archive.laidOut hd
  cases hlaid with
  | root h =>
    rw [h.members] at hlt
    cases hlt
  | derived _ h =>
    obtain ⟨_, hover⟩ := h.laid
    exact hover.statics.length_eq ▸ hlt

variable (hv : Settled reg st) (hm : reg.Along type m) (hi : m.Uses i writable)
include hv hm hi

/-- What a member uses is an instance slot of the type or a static slot of its own type, and the
field there says whether it may be written. -/
lemma Along.exists_slot : if m.isStatic then reg.StaticSlot m.declaring i writable
    else reg.InstanceSlot type i writable := by
  obtain ⟨levels, hc, e, he, hmem⟩ := hm
  obtain ⟨d, farther, -, -, hlaid⟩ := hv.archive.laidOut_of_chain hc
  cases hstatic : m.isStatic with
  | false =>
    obtain ⟨f, hf, hserves⟩ := hlaid.exists_serves he hmem hstatic hi
    exact ⟨levels, f, hc, hf, hserves.writable⟩
  | true =>
    obtain ⟨f, hf, hserves⟩ := hlaid.exists_serves_static he hmem hstatic hi
    have hknown := hv.archive.get?_of_mem_chain hc he
    exact ⟨e, f, hv.valid.declaring hknown hmem ▸ hknown, hf, hserves.writable⟩

end Registry

end LateBinding
