import LateBinding.Proofs.Registry.ReadOnly
import LateBinding.Proofs.Store.Filled

/-!
# Charted stores

In a charted store every reference is what the plan says, and every instance is one of a known type
and has all its slots. Nothing is said of what the slots hold, so known values may be stored
anywhere, and types be registered whose fields start with any of them.

Main statements: `Store.Charted.writeSlot`, `Store.Charted.writeStatic` and
`Store.Charted.register`.
-/

namespace LateBinding

open Registry

variable {reg reg' : Registry} {plan plan₀ plan' : Plan} {st st₀ st' : Store} {v w new : Value}
  {shape : Shape} {slots : List Value} {r : Ref} {i : Nat} {type : TypeId} {d : Descriptor}

/-! ### Values -/

/-- References are what the plan says, and unwrapped copies are of known types. -/
inductive Value.Known (reg : Registry) (plan : Plan) : Value → Prop where
  | known {v : Value} (h : plan.Knows v) (hcopy : ∀ shape fields, v ≠ .struct shape fields) :
      Known reg plan v
  | copy {shape : Shape} {fields : List Value} (h : reg.HasShape shape)
      (hlength : fields.length = shape.slotNames.length)
      (hfields : ∀ v ∈ fields, Known reg plan v) : Known reg plan (.struct shape fields)

namespace Value

/-- The type of an instance that is in a cell is that of the tenant. -/
lemma shape?_of_ref? (hr : v.ref? = some r) : v.shape? = v.tenant?.bind Tenant.shape? := by
  cases v with
  | object | wrapped | array => rfl
  | _ => cases hr

lemma IsBasic.known (h : v.IsBasic) : v.Known reg plan := by
  refine .known (fun r hr => ?_) fun shape fields hv => ?_
  · rw [h.1] at hr
    cases hr
  · rw [IsBasic, hv] at h
    cases h.2

namespace Known

lemma mono (h : v.Known reg plan) (hplan : plan <+: plan') : v.Known reg plan' := by
  induction h with
  | known h hcopy => exact .known (h.mono hplan) hcopy
  | copy h hlength _ ih => exact .copy h hlength ih

lemma tenant (h : v.Known reg plan) (hr : v.ref? = some r) : plan[r]? = v.tenant? := by
  cases h with
  | known h _ => exact h r hr
  | copy => cases hr

lemma knows (h : v.Known reg plan) : plan.Knows v := fun _ hr => h.tenant hr

lemma registered {spec : TypeSpec} {base d : Descriptor} {next : TypeId}
    (hr : Registered reg spec next base d reg') (hv : reg.Valid next) (h : v.Known reg plan) :
    v.Known reg' plan := by
  induction h with
  | known h hcopy => exact .known h hcopy
  | copy h hlength _ ih =>
    obtain ⟨e, he, hshape⟩ := h
    exact .copy ⟨e, (hr.get?_of_lt (hv.allocated he)).trans he, hshape⟩ hlength ih

end Known

end Value

/-! ### Stores -/

/-- All cells belong to instances of known types or to arrays, and whatever is held, or may be held
from the start, is known. -/
structure Store.Charted (reg : Registry) (plan : Plan) (st : Store) : Prop
    extends st.Arranged plan where
  shapes : ∀ {r : Ref} {tenant shape}, plan[r]? = some tenant → tenant.shape? = some shape →
    reg.HasShape shape
  held : ∀ slots ∈ st.cells, ∀ v ∈ slots, v.Known reg plan
  heldStatic : ∀ t, ∀ v ∈ st.staticsOf t, v.Known reg plan
  statics : ∀ {t d}, reg.get? t = some d → (st.staticsOf t).length = d.staticNames.length
  defaults : ∀ {t d}, reg.get? t = some d → ∀ v ∈ d.defaults, v.Known reg plan

namespace Store.Charted

lemma initial : Store.Charted .initial [] {} where
  length_eq := rfl
  slots := fun hr => by cases hr
  shapes := fun hr => by cases hr
  held := fun _ h => by cases h
  heldStatic := fun _ _ h => by cases h
  statics := by
    intro t d hd
    obtain ⟨name, isValueType, -, rfl⟩ := get?_initial_eq_some hd
    rfl
  defaults := by
    intro t d hd
    obtain ⟨name, isValueType, -, rfl⟩ := get?_initial_eq_some hd
    exact List.forall_mem_nil _

lemma known_of_mem_cell (h : st.Charted reg plan) (hv : v ∈ st.cell r) : v.Known reg plan :=
  h.held _ (mem_cells_of_mem_cell hv) v hv

lemma hasShape (h : st.Charted reg plan) (hv : v.Known reg plan) (hshape : v.shape? = some shape) :
    reg.HasShape shape := by
  cases v with
  | object s r =>
    cases hshape
    exact h.shapes (hv.tenant rfl) rfl
  | wrapped s r =>
    cases hshape
    exact h.shapes (hv.tenant rfl) rfl
  | struct s fields =>
    cases hshape
    cases hv with
    | known _ hcopy => exact absurd rfl (hcopy shape fields)
    | copy h _ _ => exact h
  | _ => cases hshape

/-! ### Reading -/

lemma known_of_slots? (h : st.Charted reg plan) (hv : v.Known reg plan)
    (hslots : st.slots? v = some slots) : ∀ w ∈ slots, w.Known reg plan := by
  cases v with
  | object shape r =>
    cases hslots
    exact fun w => h.known_of_mem_cell
  | wrapped shape r =>
    cases hslots
    exact fun w => h.known_of_mem_cell
  | struct shape fields =>
    cases hslots
    cases hv with
    | known _ hcopy => exact absurd rfl (hcopy shape slots)
    | copy _ _ hfields => exact hfields
  | _ => cases hslots

lemma readSlot (h : st.Charted reg plan) (hv : v.Known reg plan)
    (hread : st.readSlot v i = .ok w) : w.Known reg plan := by
  rw [Store.readSlot] at hread
  split at hread
  · rename_i slots hslots
    split at hread
    · cases hread
      exact h.known_of_slots? hv hslots w (List.mem_of_getElem? ‹_›)
    · cases hread
  · split at hread <;> cases hread

/-- A slot that a type has is there in its instances. -/
lemma exists_readSlot (h : st.Charted reg plan) (hst : Settled reg st₀) (hv : v.Known reg plan)
    (hshape : v.shape? = some shape) {writable : Bool}
    (hi : reg.InstanceSlot shape.id i writable) : ∃ held, st.readSlot v i = .ok held := by
  obtain ⟨slots, hslots, hlength⟩ :
      ∃ slots, st.slots? v = some slots ∧ slots.length = shape.slotNames.length := by
    cases v with
    | object s r =>
      cases hshape
      exact ⟨_, rfl, h.slots (hv.tenant rfl) rfl⟩
    | wrapped s r =>
      cases hshape
      exact ⟨_, rfl, h.slots (hv.tenant rfl) rfl⟩
    | struct s fields =>
      cases hshape
      cases hv with
      | known _ hcopy => exact absurd rfl (hcopy shape fields)
      | copy _ hlength _ => exact ⟨fields, rfl, hlength⟩
    | _ => cases hshape
  have hlt : i < slots.length := by
    rw [hlength]
    exact hi.lt_slotNames hst (h.hasShape hv hshape)
  refine ⟨slots[i], ?_⟩
  rw [Store.readSlot, hslots]
  simp only [List.getElem?_eq_getElem hlt]
  rfl

/-- A static slot that a type has is there. -/
lemma exists_readStatic (h : st.Charted reg plan) (hst : Settled reg st₀) {writable : Bool}
    (hi : reg.StaticSlot type i writable) : ∃ held, st.readStatic type i = .ok held := by
  obtain ⟨d, hd, hlt⟩ := hi.lt_staticNames hst
  rw [← h.statics hd] at hlt
  refine ⟨(st.staticsOf type)[i], ?_⟩
  rw [Store.readStatic, List.getElem?_eq_getElem hlt]
  rfl

lemma readElement (h : st.Charted reg plan) (hread : st.readElement r i = .ok w) :
    w.Known reg plan := by
  rw [Store.readElement] at hread
  split at hread
  · cases hread
    exact h.known_of_mem_cell (List.mem_of_getElem? ‹_›)
  · cases hread

lemma readStatic (h : st.Charted reg plan) (hread : st.readStatic type i = .ok w) :
    w.Known reg plan := by
  rw [Store.readStatic] at hread
  split at hread
  · cases hread
    exact h.heldStatic type w (List.mem_of_getElem? ‹_›)
  · cases hread

lemma unwrap (h : st.Charted reg plan) (hv : v.Known reg plan) : (st.unwrap v).Known reg plan := by
  cases v with
  | wrapped shape r =>
    exact .copy (h.hasShape hv rfl) (h.slots (hv.tenant rfl) rfl) fun w => h.known_of_mem_cell
  | _ => exact hv

lemma toStored (h : st.Charted reg plan) (hv : v.Known reg plan) (isValueType : Bool) :
    (st.toStored isValueType v).Known reg plan := by
  cases isValueType with
  | false => exact hv
  | true => exact h.unwrap hv

/-! ### Writing -/

lemma setCell (h : st.Charted reg plan) (hlength : slots.length = (st.cell r).length)
    (hnew : ∀ v ∈ slots, v.Known reg plan) : (st.setCell r slots).Charted reg plan where
  toArranged := h.toArranged.setCell hlength
  shapes := h.shapes
  held := by
    intro held hheld v hv
    rcases List.mem_or_eq_of_mem_set hheld with hheld | rfl
    · exact h.held held hheld v hv
    · exact hnew v hv
  heldStatic := h.heldStatic
  statics := h.statics
  defaults := h.defaults

lemma writeCell (h : st.Charted reg plan) (hnew : new.Known reg plan)
    (hwrite : st.writeCell r i new = .ok st') : st'.Charted reg plan := by
  obtain ⟨-, rfl⟩ := writeCell_eq_ok hwrite
  refine h.setCell (List.length_set ..) fun v hv => ?_
  rcases List.mem_or_eq_of_mem_set hv with hv | rfl
  · exact h.known_of_mem_cell hv
  · exact hnew

lemma writeSlot (h : st.Charted reg plan) (hnew : new.Known reg plan)
    (hwrite : st.writeSlot v i new = .ok st') : st'.Charted reg plan := by
  cases v with
  | object shape r => exact h.writeCell hnew hwrite
  | wrapped shape r => exact h.writeCell hnew hwrite
  | _ => cases hwrite

lemma writeStatic (h : st.Charted reg plan) (hnew : new.Known reg plan)
    (hwrite : st.writeStatic type i new = .ok st') : st'.Charted reg plan := by
  obtain rfl := writeStatic_eq_ok hwrite
  refine ⟨⟨h.length_eq, h.slots⟩, h.shapes, h.held, fun t w hw => ?_, fun {t d} hd => ?_,
    h.defaults⟩
  · -- what is stored is the new value or was there before
    rw [staticsOf_insert] at hw
    split at hw
    · rcases List.mem_or_eq_of_mem_set hw with hw | rfl
      · exact h.heldStatic type w hw
      · exact hnew
    · exact h.heldStatic t w hw
  · rw [staticsOf_insert]
    split
    · rename_i ht
      rw [List.length_set, ← h.statics hd, ht]
    · exact h.statics hd

/-! ### New cells -/

lemma getElem?_nextRef (h : st.Charted reg plan) (tenant : Tenant) :
    (plan ++ [tenant])[st.nextRef]? = some tenant := by
  rw [nextRef, h.length_eq, List.getElem?_append_right (Nat.le_refl _), Nat.sub_self]
  rfl

lemma addCell (h : st.Charted reg plan) {tenant : Tenant}
    (hshape : ∀ shape, tenant.shape? = some shape →
      reg.HasShape shape ∧ slots.length = shape.slotNames.length)
    (hheld : ∀ v ∈ slots, v.Known reg plan) :
    (st.addCell slots).Charted reg (plan ++ [tenant]) := by
  have hplan : plan <+: plan ++ [tenant] := List.prefix_append _ _
  constructor
  case toArranged => exact h.toArranged.addCell fun shape hs => (hshape shape hs).2
  case shapes =>
    intro r t shape hr hs
    rcases Nat.lt_or_ge r plan.length with hlt | hge
    · rw [List.getElem?_append_left hlt] at hr
      exact h.shapes hr hs
    · -- the new cell
      rw [List.getElem?_append_right hge] at hr
      obtain rfl := List.mem_singleton.mp (List.mem_of_getElem? hr)
      exact (hshape shape hs).1
  case held =>
    intro held hmem v hv
    rcases List.mem_append.mp hmem with hmem | hmem
    · exact (h.held held hmem v hv).mono hplan
    · rw [List.mem_singleton.mp hmem] at hv
      exact (hheld v hv).mono hplan
  case heldStatic => exact fun t v hv => (h.heldStatic t v hv).mono hplan
  case statics => exact h.statics
  case defaults => exact fun hd v hv => (h.defaults hd v hv).mono hplan

lemma wrap (h : st.Charted reg plan) (hv : v.Known reg plan) :
    ∃ plan', plan <+: plan' ∧ (st.wrap v).2.Charted reg plan' ∧
      (st.wrap v).1.Known reg plan' := by
  cases v with
  | struct shape fields =>
    cases hv with
    | known _ hcopy => exact absurd rfl (hcopy shape fields)
    | copy hshape hlength hfields =>
      refine ⟨plan ++ [.wrapper shape], List.prefix_append _ _,
        h.addCell (fun s hs => ?_) hfields, .known ?_ nofun⟩
      · exact Option.some.inj hs ▸ ⟨hshape, hlength⟩
      · intro r hr
        cases hr
        exact h.getElem?_nextRef _
  | _ => exact ⟨plan, List.prefix_refl _, h, hv⟩

lemma instantiate (h : st.Charted reg plan) (hv : Settled reg st₀)
    (hd : reg.get? d.id = some d) :
    ∃ plan', plan <+: plan' ∧ (st.instantiate d).2.Charted reg plan' ∧
      (st.instantiate d).1.Known reg plan' := by
  have hshape : reg.HasShape d.toShape := ⟨d, hd, rfl⟩
  have hlength := hv.length_defaults hd
  rw [Store.instantiate]
  split
  · exact ⟨plan, List.prefix_refl _, h, .copy hshape hlength (h.defaults hd)⟩
  · refine ⟨plan ++ [.object d.toShape], List.prefix_append _ _,
      h.addCell (fun s hs => Option.some.inj hs ▸ ⟨hshape, hlength⟩) (h.defaults hd),
      .known ?_ (by simp)⟩
    intro r hr
    cases hr
    exact h.getElem?_nextRef _

lemma addArray (h : st.Charted reg plan) (shape : ArrayShape)
    (hheld : ∀ v ∈ slots, v.Known reg plan) :
    ∃ plan', plan <+: plan' ∧ (st.addCell slots).Charted reg plan' ∧
      (Value.array shape st.nextRef).Known reg plan' := by
  refine ⟨plan ++ [.array shape], List.prefix_append _ _, h.addCell nofun hheld, .known ?_ nofun⟩
  intro r hr
  cases hr
  exact h.getElem?_nextRef _

end Store.Charted

/-! ### Registration -/

/-- The values that the definition says its fields to start with. -/
def TypeSpec.initials (spec : TypeSpec) : List Value :=
  spec.members.filterMap fun
    | .field f => f.initial
    | _ => none

namespace Layout

variable {l : Layout} {P : Value → Prop}

/-- Something holds of all that slots start with. -/
structure Starts (P : Value → Prop) (l : Layout) : Prop where
  defaults : ∀ v ∈ l.defaults, P v
  statics : ∀ v ∈ l.statics, P v

lemma Starts.addField (h : l.Starts P) (f : FieldSpec) (hv : P v) (isSynthesized : Bool) :
    (l.addField f v isSynthesized).Starts P := by
  rw [Layout.addField, addMember, addSlot]
  split
  · exact ⟨h.defaults, List.forall_mem_append.mpr ⟨h.statics, List.forall_mem_singleton.mpr hv⟩⟩
  · exact ⟨List.forall_mem_append.mpr ⟨h.defaults, List.forall_mem_singleton.mpr hv⟩, h.statics⟩

/-- A slot starts with what it starts with in the base, with what the definition of its field says,
or with the default of its type. -/
lemma starts_ofSpec {default : TypeId → Value} (owner : TypeId) {base : Descriptor}
    {spec : TypeSpec} (hbase : ∀ v ∈ base.defaults, P v) (hinitials : ∀ v ∈ spec.initials, P v)
    (hdefault : ∀ t, P (default t)) : (ofSpec default owner base spec).Starts P := by
  refine ofSpec_induction (P := Starts P) ⟨hbase, List.forall_mem_nil _⟩ (fun l hl s hs => ?_)
    fun l hl => ⟨hl.defaults, hl.statics⟩
  cases s with
  | field f =>
    refine hl.addField f ?_ false
    cases hf : f.initial with
    | none => exact hdefault f.type
    | some v => exact hinitials v (List.mem_filterMap.mpr ⟨.field f, hs, hf⟩)
  | property p =>
    rw [add, addProperty]
    cases p.body with
    | auto getOnly =>
      have hfield := hl.addField (backingField p getOnly) (hdefault p.type) true
      exact ⟨hfield.defaults, hfield.statics⟩
    | native getter setter => exact ⟨hl.defaults, hl.statics⟩
  | method m => exact ⟨hl.defaults, hl.statics⟩
  | constructor c => exact ⟨hl.defaults, hl.statics⟩
  | indexer x => exact ⟨hl.defaults, hl.statics⟩

end Layout

namespace Store

variable {spec : TypeSpec}

lemma Charted.defaultValue (h : st.Charted reg plan) (hv : Settled reg st₀) (t : TypeId) :
    (reg.defaultValue t).Known reg plan := by
  have hbasic : ∀ {w : Value}, w.IsBasic → w.Known reg plan := Value.IsBasic.known
  rw [Registry.defaultValue]
  split
  · exact hbasic ⟨rfl, rfl⟩
  split
  · exact hbasic ⟨rfl, rfl⟩
  split
  · exact hbasic ⟨rfl, rfl⟩
  split
  · rename_i d hd
    split
    · have hid := hv.valid.id hd
      exact .copy ⟨d, hid ▸ hd, rfl⟩ (hv.length_defaults hd) (h.defaults hd)
    · exact hbasic ⟨rfl, rfl⟩
  · exact hbasic ⟨rfl, rfl⟩

/-- A type may be registered whose fields start with known values. -/
lemma Charted.register (h : st.Charted reg plan) (hv : Settled reg st)
    (hspec : spec.Allocated st.nextType) (hinitials : ∀ v ∈ spec.initials, v.Known reg plan)
    (hr : reg.register st spec = .ok (type, reg', st')) : st'.Charted reg' plan := by
  have hv' := hv.register hspec hr
  obtain ⟨rfl, -, base, d, hreg⟩ := registered_of_register hr
  have hd : reg'.get? st.nextType = some d := (hreg.get? _).trans (if_pos rfl)
  obtain ⟨base', hbase, -, -, -, hlayout, rfl⟩ := register_eq_ok hr hd
  have hmono : ∀ {w : Value}, w.Known reg plan → w.Known reg' plan := fun hw =>
    hw.registered hreg hv.valid
  have hstarts : (Layout.ofSpec reg.defaultValue st.nextType base' spec).Starts
      (Value.Known reg plan) :=
    Layout.starts_ofSpec st.nextType (h.defaults hbase) hinitials (h.defaultValue hv)
  constructor
  case toArranged => exact ⟨h.length_eq, h.slots⟩
  case shapes =>
    intro r tenant shape htenant hshape
    obtain ⟨e, he, heq⟩ := h.shapes htenant hshape
    exact ⟨e, (hreg.get?_of_lt (hv.valid.allocated he)).trans he, heq⟩
  case held => exact fun slots hslots w hw => hmono (h.held slots hslots w hw)
  case heldStatic =>
    intro t w hw
    replace hw := (congrArg (w ∈ ·) (staticsOf_insert st st.nextType t _)).mp hw
    split at hw
    · exact hmono (hstarts.statics w hw)
    · exact hmono (h.heldStatic t w hw)
  case statics => exact fun he => hv'.archive.statics he
  case defaults =>
    intro t e he w hw
    -- the defaults of the new type are initial values or defaults of the base
    rcases hreg.new_or_old he with ⟨rfl, rfl⟩ | he
    · subst hlayout
      exact hmono (hstarts.defaults w hw)
    · exact hmono (h.defaults he w hw)

end Store

end LateBinding
