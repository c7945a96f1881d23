import Mathlib.Data.List.Forall2
import LateBinding.Proofs.Registry.Along
import LateBinding.Proofs.Registry.Populated
import LateBinding.Proofs.Store.Plan

/-!
# Well-typed storage

A value suits a type if it may be stored where the type is declared. The slots of an instance fill
its type if there is one for each field along the chain of the type, and the field's value suits the
type that is declared. A store is filled if all instances in it are, and all static slots.

A new cell and a write that suits the field keep the store filled, and what is read from a filled
store is sound: its references are what the plan says, and the copies in it fill their types.
-/

namespace LateBinding

namespace Registry

/-- The value may be stored where the type is declared. A place for a value type never holds null,
nor a wrapper that it would share with others. -/
structure Suits (reg : Registry) (type : TypeId) (v : Value) : Prop where
  assignable : v.isAssignableTo type (reg.isValueType type) = true
  ne_null : reg.isValueType type = true → v ≠ .null
  ne_wrapped : reg.isValueType type = true → ∀ shape r, v ≠ .wrapped shape r

/-- There is one slot for each field, and its value suits the field. -/
def Fits (reg : Registry) (fields : List Member) (slots : List Value) : Prop :=
  List.Forall₂ (fun f v => reg.Suits f.valueType v) fields slots

/-- The slots are those of an instance of a known type. -/
def Fills (reg : Registry) (shape : Shape) (slots : List Value) : Prop :=
  ∃ levels, reg.HasShape shape ∧ reg.Chain shape.id levels ∧ reg.Fits (chainFields levels) slots

variable {reg : Registry} {st : Store} {type : TypeId} {fields : List Member} {slots : List Value}
  {f : Member} {i : Nat} {v : Value} {shape : Shape} {levels : List Descriptor}

/-- What fits is stored as it has to be. -/
lemma Settled.suits_toStored (hv : Settled reg st)
    (h : v.isAssignableTo type (reg.isValueType type) = true) (st' : Store) :
    reg.Suits type (st'.toStored (reg.isValueType type) v) := by
  cases hvalue : reg.isValueType type with
  | false =>
    rw [hvalue] at h
    refine ⟨by rw [hvalue]; exact h, fun ht => ?_, fun ht => ?_⟩ <;>
      (rw [hvalue] at ht; cases ht)
  | true =>
    rw [hvalue] at h
    have hobject : type ≠ TypeId.object := fun ht =>
      absurd (hvalue.symm.trans (hv.not_isValueType_wildcard (.inl ht))) nofun
    have hany : type ≠ TypeId.any := fun ht =>
      absurd (hvalue.symm.trans (hv.not_isValueType_wildcard (.inr ht))) nofun
    -- null does not fit a value type, and of a wrapper the copy is stored
    cases v with
    | null => simp [Value.isAssignableTo, hobject, hany] at h
    | wrapped shape r => exact ⟨by rw [hvalue]; exact h, nofun, nofun⟩
    | _ => exact ⟨by rw [hvalue]; exact h, nofun, nofun⟩

lemma Fits.set (h : reg.Fits fields slots) (hf : fields[i]? = some f)
    (hv : reg.Suits f.valueType v) : reg.Fits fields (slots.set i v) := by
  rw [Fits] at h
  induction h generalizing i with
  | nil => cases hf
  | cons hw hrest ih =>
    cases i with
    | zero =>
      cases hf
      exact .cons hv hrest
    | succ i => exact .cons hw (ih hf)

lemma Fills.fits (h : reg.Fills shape slots) (hc : reg.Chain shape.id levels) :
    reg.Fits (chainFields levels) slots := by
  obtain ⟨levels', -, hc', hfits⟩ := h
  rwa [hc.unique hc']

lemma Fills.set (h : reg.Fills shape slots)
    (hfield : ∀ {levels}, reg.Chain shape.id levels →
      ∃ f, (chainFields levels)[i]? = some f ∧ reg.Suits f.valueType v) :
    reg.Fills shape (slots.set i v) := by
  obtain ⟨levels, hshape, hc, hfits⟩ := h
  obtain ⟨f, hf, hv⟩ := hfield hc
  exact ⟨levels, hshape, hc, hfits.set hf hv⟩

end Registry

/-! ### Values -/

variable {reg : Registry} {plan plan' : Plan} {v w : Value} {shape : Shape} {slots : List Value}
  {r : Ref} {i : Nat} {type : TypeId}

/-- References are what the plan says, and unwrapped copies fill their types. -/
inductive Value.Sound (reg : Registry) (plan : Plan) : Value → Prop where
  | known {v : Value} (h : plan.Knows v) (hcopy : ∀ shape fields, v ≠ .struct shape fields) :
      Sound reg plan v
  | copy {shape : Shape} {fields : List Value} (h : reg.Fills shape fields)
      (hfields : ∀ v ∈ fields, Sound reg plan v) : Sound reg plan (.struct shape fields)

/-- A value that refers to nothing and carries nothing. -/
def Value.IsBasic (v : Value) : Prop := v.ref? = none ∧ v.shape? = none

lemma Plan.Knows.mono (h : plan.Knows v) (hplan : plan <+: plan') : plan'.Knows v := by
  intro r hr
  obtain ⟨tenant, ht⟩ : ∃ tenant, v.tenant? = some tenant := by
    cases v <;> first | exact ⟨_, rfl⟩ | cases hr
  obtain ⟨rest, rfl⟩ := hplan
  have hold := (h r hr).trans ht
  rw [List.getElem?_append_left (List.getElem?_eq_some_iff.mp hold).1, hold, ht]

namespace Value

lemma IsBasic.sound (h : v.IsBasic) : v.Sound reg plan := by
  refine .known (fun r hr => ?_) fun shape fields hv => ?_
  · rw [h.1] at hr
    cases hr
  · rw [IsBasic, hv] at h
    cases h.2

namespace Sound

lemma mono (h : v.Sound reg plan) (hplan : plan <+: plan') : v.Sound reg plan' := by
  induction h with
  | known h hcopy => exact .known (h.mono hplan) hcopy
  | copy h _ ih => exact .copy h ih

lemma tenant (h : v.Sound reg plan) (hr : v.ref? = some r) : plan[r]? = v.tenant? := by
  cases h with
  | known h _ => exact h r hr
  | copy => cases hr

end Sound

end Value

/-! ### Stores -/

/-- All instances in the store and all static slots hold what suits their fields, and whatever is
held is sound. -/
structure Store.Filled (reg : Registry) (plan : Plan) (st : Store) : Prop where
  length_eq : st.cells.length = plan.length
  instances : ∀ {r tenant shape}, plan[r]? = some tenant → tenant.shape? = some shape →
    reg.Fills shape (st.cell r)
  held : ∀ slots ∈ st.cells, ∀ v ∈ slots, v.Sound reg plan
  statics : ∀ {t d}, reg.get? t = some d → reg.Fits (fieldsOf true d.members) (st.staticsOf t)
  heldStatic : ∀ t, ∀ v ∈ st.staticsOf t, v.Sound reg plan

namespace Store

variable {st st' : Store} {new : Value}

lemma mem_cells_of_mem_cell (h : v ∈ st.cell r) : st.cell r ∈ st.cells := by
  rw [cell] at h ⊢
  cases hr : st.cells[r]? with
  | none =>
    rw [hr] at h
    cases h
  | some slots => exact List.mem_of_getElem? hr

lemma staticsOf_insert (st : Store) (type t : TypeId) (slots : List Value) :
    staticsOf { st with statics := st.statics.insert type slots } t =
      if t = type then slots else st.staticsOf t := by
  rw [staticsOf, staticsOf]
  split
  · subst t
    rw [Table.get?_insert_self]
    rfl
  · rw [Table.get?_insert_of_ne _ ‹_›]

namespace Filled

lemma sound_of_mem_cell (h : st.Filled reg plan) (hv : v ∈ st.cell r) : v.Sound reg plan :=
  h.held _ (mem_cells_of_mem_cell hv) v hv

lemma lt_nextRef (h : st.Filled reg plan) {tenant : Tenant} (hr : plan[r]? = some tenant) :
    r < st.nextRef := by
  rw [nextRef, h.length_eq]
  exact (List.getElem?_eq_some_iff.mp hr).1

lemma getElem?_nextRef (h : st.Filled reg plan) (tenant : Tenant) :
    (plan ++ [tenant])[st.nextRef]? = some tenant := by
  rw [nextRef, h.length_eq, List.getElem?_append_right (Nat.le_refl _), Nat.sub_self]
  rfl

/-! ### Reading -/

/-- The slots of an instance fill its type, and hold what is sound. -/
lemma of_slots? (h : st.Filled reg plan) (hv : v.Sound reg plan)
    (hslots : st.slots? v = some slots) :
    ∃ shape, v.shape? = some shape ∧ reg.Fills shape slots ∧ ∀ w ∈ slots, w.Sound reg plan := by
  cases v with
  | object shape r =>
    cases hslots
    exact ⟨shape, rfl, h.instances (hv.tenant rfl) rfl, fun w => h.sound_of_mem_cell⟩
  | wrapped shape r =>
    cases hslots
    exact ⟨shape, rfl, h.instances (hv.tenant rfl) rfl, fun w => h.sound_of_mem_cell⟩
  | struct shape fields =>
    cases hslots
    cases hv with
    | known _ hcopy => exact absurd rfl (hcopy shape slots)
    | copy hfills hfields => exact ⟨shape, rfl, hfills, hfields⟩
  | _ => cases hslots

lemma readSlot (h : st.Filled reg plan) (hv : v.Sound reg plan)
    (hread : st.readSlot v i = .ok w) : w.Sound reg plan := by
  rw [Store.readSlot] at hread
  cases hslots : st.slots? v with
  | none =>
    simp only [hslots] at hread
    split at hread <;> cases hread
  | some slots =>
    simp only [hslots] at hread
    obtain ⟨-, -, -, hsound⟩ := h.of_slots? hv hslots
    cases hi : slots[i]? with
    | none =>
      rw [hi] at hread
      cases hread
    | some held =>
      rw [hi] at hread
      cases hread
      exact hsound w (List.mem_of_getElem? hi)

lemma readStatic (h : st.Filled reg plan) (hread : st.readStatic type i = .ok w) :
    w.Sound reg plan := by
  rw [Store.readStatic] at hread
  split at hread
  · cases hread
    exact h.heldStatic type w (List.mem_of_getElem? ‹_›)
  · cases hread

lemma unwrap (h : st.Filled reg plan) (hv : v.Sound reg plan) :
    (st.unwrap v).Sound reg plan := by
  cases v with
  | wrapped shape r =>
    exact .copy (h.instances (hv.tenant rfl) rfl) fun w => h.sound_of_mem_cell
  | _ => exact hv

lemma toStored (h : st.Filled reg plan) (hv : v.Sound reg plan) (isValueType : Bool) :
    (st.toStored isValueType v).Sound reg plan := by
  cases isValueType with
  | false => exact hv
  | true => exact h.unwrap hv

/-! ### Writing -/

/-- A value that suits the field may be written to a slot. -/
lemma writeSlot (h : st.Filled reg plan) (hv : v.Sound reg plan) (hnew : new.Sound reg plan)
    (hfield : ∀ {shape levels}, v.shape? = some shape → reg.Chain shape.id levels →
      ∃ f, (chainFields levels)[i]? = some f ∧ reg.Suits f.valueType new)
    (hwrite : st.writeSlot v i new = .ok st') : st'.Filled reg plan := by
  obtain ⟨r, hr, -, rfl⟩ := writeSlot_eq_ok hwrite
  have htenant := hv.tenant hr
  constructor
  case length_eq => exact (List.length_set ..).trans h.length_eq
  case instances =>
    intro q tenant shape hq hshape
    have hfills := h.instances hq hshape
    by_cases heq : r = q
    · -- the written cell belongs to the instance that the value refers to
      subst heq
      rw [cell_setCell_self (h.lt_nextRef hq)]
      refine hfills.set fun hc => hfield ?_ hc
      rw [hq] at htenant
      cases v <;> cases htenant <;> exact hshape
    · rw [cell_setCell_of_ne st heq]
      exact hfills
  case held =>
    intro slots hslots w hw
    rcases List.mem_or_eq_of_mem_set hslots with hslots | rfl
    · exact h.held slots hslots w hw
    · rcases List.mem_or_eq_of_mem_set hw with hw | rfl
      · exact h.sound_of_mem_cell hw
      · exact hnew
  case statics => exact h.statics
  case heldStatic => exact h.heldStatic

lemma writeStatic (h : st.Filled reg plan) (hnew : new.Sound reg plan)
    (hfield : ∀ {d}, reg.get? type = some d →
      ∃ f, (fieldsOf true d.members)[i]? = some f ∧ reg.Suits f.valueType new)
    (hwrite : st.writeStatic type i new = .ok st') : st'.Filled reg plan := by
  obtain rfl := writeStatic_eq_ok hwrite
  constructor
  case length_eq => exact h.length_eq
  case instances => exact h.instances
  case held => exact h.held
  case statics =>
    intro t d hd
    rw [staticsOf_insert]
    split
    · subst t
      obtain ⟨f, hf, hsuits⟩ := hfield hd
      exact (h.statics hd).set hf hsuits
    · exact h.statics hd
  case heldStatic =>
    intro t w hw
    rw [staticsOf_insert] at hw
    split at hw
    · rcases List.mem_or_eq_of_mem_set hw with hw | rfl
      · exact h.heldStatic type w hw
      · exact hnew
    · exact h.heldStatic t w hw

/-! ### New cells -/

lemma addCell (h : st.Filled reg plan) {tenant : Tenant}
    (hfills : ∀ shape, tenant.shape? = some shape → reg.Fills shape slots)
    (hheld : ∀ v ∈ slots, v.Sound reg plan) :
    (st.addCell slots).Filled reg (plan ++ [tenant]) := by
  have hplan : plan <+: plan ++ [tenant] := List.prefix_append _ _
  constructor
  case length_eq =>
    change (st.cells ++ [slots]).length = _
    rw [List.length_append, List.length_append, h.length_eq]
    rfl
  case instances =>
    intro r t shape hr hshape
    rcases Nat.lt_or_ge r plan.length with hlt | hge
    · rw [List.getElem?_append_left hlt] at hr
      rw [cell_addCell_of_lt (h.lt_nextRef hr)]
      exact h.instances hr hshape
    · -- the new cell
      obtain rfl : r = st.nextRef := by
        have hlt := (List.getElem?_eq_some_iff.mp hr).1
        rw [List.length_append, List.length_singleton] at hlt
        rw [nextRef, h.length_eq]
        exact Nat.le_antisymm (Nat.le_of_lt_succ hlt) hge
      rw [h.getElem?_nextRef, Option.some.injEq] at hr
      rw [cell_addCell_nextRef]
      exact hfills shape (hr ▸ hshape)
  case held =>
    intro held hmem v hv
    rcases List.mem_append.mp hmem with hmem | hmem
    · exact (h.held held hmem v hv).mono hplan
    · rw [List.mem_singleton.mp hmem] at hv
      exact (hheld v hv).mono hplan
  case statics => exact h.statics
  case heldStatic => exact fun t v hv => (h.heldStatic t v hv).mono hplan

/-- Wrapping a copy adds a cell, and all else stays as it is. -/
lemma wrap (h : st.Filled reg plan) (hv : v.Sound reg plan) :
    ∃ plan', plan <+: plan' ∧ (st.wrap v).2.Filled reg plan' ∧
      (st.wrap v).1.Sound reg plan' := by
  cases v with
  | struct shape fields =>
    obtain ⟨shape', hshape, hfills, hfields⟩ := h.of_slots? hv rfl
    cases hshape
    refine ⟨plan ++ [.wrapper shape], List.prefix_append _ _,
      h.addCell (fun s hs => Option.some.inj hs ▸ hfills) hfields, .known ?_ nofun⟩
    intro r hr
    cases hr
    exact h.getElem?_nextRef _
  | _ => exact ⟨plan, List.prefix_refl _, h, hv⟩

lemma instantiate (h : st.Filled reg plan) {d : Descriptor}
    (hfills : reg.Fills d.toShape d.defaults) (hheld : ∀ v ∈ d.defaults, v.Sound reg plan) :
    ∃ plan', plan <+: plan' ∧ (st.instantiate d).2.Filled reg plan' ∧
      (st.instantiate d).1.Sound reg plan' := by
  rw [Store.instantiate]
  split
  · exact ⟨plan, List.prefix_refl _, h, .copy hfills hheld⟩
  · refine ⟨plan ++ [.object d.toShape], List.prefix_append _ _,
      h.addCell (fun s hs => Option.some.inj hs ▸ hfills) hheld,
      .known (fun r hr => ?_) fun shape fields heq => ?_⟩
    · cases hr
      exact h.getElem?_nextRef _
    · cases heq

lemma addArray (h : st.Filled reg plan) (shape : ArrayShape)
    (hheld : ∀ v ∈ slots, v.Sound reg plan) :
    ∃ plan', plan <+: plan' ∧ (st.addCell slots).Filled reg plan' ∧
      (Value.array shape st.nextRef).Sound reg plan' := by
  refine ⟨plan ++ [.array shape], List.prefix_append _ _, h.addCell nofun hheld, .known ?_ nofun⟩
  intro r hr
  cases hr
  exact h.getElem?_nextRef _

end Filled

end Store

end LateBinding
