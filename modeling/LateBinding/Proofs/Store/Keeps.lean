import LateBinding.Proofs.Store.Charted

/-!
# Stores that keep read-only slots

A reference is what the plan says, so a write reaches the slots of the instance that is written and
no others: those of another instance, of the other types and of the arrays stay. What may not be
written is therefore kept by every write to a slot that may be.

Main statements: `Store.Keeps.writeSlot` and `Store.Keeps.writeStatic`.
-/

namespace LateBinding

open Registry

variable {reg reg' : Registry} {plan plan₀ : Plan} {st st₀ st' : Store} {v w new : Value}
  {shape : Shape} {r : Ref} {i : Nat} {type : TypeId}

namespace Store

/-! ### Reading -/

lemma readSlot_congr (h : st'.slots? v = st.slots? v) (i : Nat) :
    st'.readSlot v i = st.readSlot v i := by
  rw [readSlot, readSlot, h]

lemma readStatic_congr (h : st'.staticsOf type = st.staticsOf type) (i : Nat) :
    st'.readStatic type i = st.readStatic type i := by
  rw [readStatic, readStatic, h]

lemma slots?_of_ref? (hr : v.ref? = some r) (hshape : v.shape? = some shape) :
    st.slots? v = some (st.cell r) := by
  cases v with
  | object s q => exact congrArg (some <| st.cell ·) (Option.some.inj hr)
  | wrapped s q => exact congrArg (some <| st.cell ·) (Option.some.inj hr)
  | array => cases hshape
  | _ => cases hr

/-! ### What is kept -/

/-- From the first store to the second one all slots that may not be written hold the same: those of
the instances that the plan knows, and the static ones. -/
structure Keeps (reg : Registry) (plan : Plan) (st st' : Store) : Prop where
  instances : ∀ {v shape i}, plan.Knows v → v.shape? = some shape →
    reg.InstanceSlot shape.id i false → st'.readSlot v i = st.readSlot v i
  statics : ∀ {t i}, reg.StaticSlot t i false → st'.readStatic t i = st.readStatic t i

namespace Keeps

lemma refl (reg : Registry) (plan : Plan) (st : Store) : st.Keeps reg plan st :=
  ⟨fun _ _ _ => rfl, fun _ => rfl⟩

/-- A write to a cell leaves alone what is not in the cell, and all slots but the written one. -/
lemma writeCell (h : st₀.Keeps reg plan₀ st) (hwrite : st.writeCell r i new = .ok st')
    (hopen : ∀ {v shape}, plan₀.Knows v → v.shape? = some shape → v.ref? = some r →
      ¬reg.InstanceSlot shape.id i false) : st₀.Keeps reg plan₀ st' where
  instances := by
    obtain ⟨hi, rfl⟩ := writeCell_eq_ok hwrite
    intro v shape j hv hshape hj
    rw [← h.instances hv hshape hj]
    by_cases hr : v.ref? = some r
    · have hne : i ≠ j := by
        rintro rfl
        exact hopen hv hshape hr hj
      -- a cell that can be written exists
      have hlt : r < st.nextRef := by
        by_contra hge
        have hnone : st.cells[r]? = none := List.getElem?_eq_none (Nat.le_of_not_lt hge)
        rw [cell, hnone] at hi
        cases hi
      have hcell : (st.setCell r ((st.cell r).set i new)).slots? v =
          some ((st.cell r).set i new) := by
        rw [slots?_of_ref? hr hshape, cell_setCell_self hlt]
      rw [readSlot, readSlot, hcell, slots?_of_ref? hr hshape]
      simp only [List.getElem?_set_ne hne, List.length_set]
    · exact readSlot_congr (slots?_setCell hr _) j
  statics := by
    obtain ⟨-, rfl⟩ := writeCell_eq_ok hwrite
    exact h.statics

/-- A write through a value leaves alone what may not be written, if the slot of the value that is
written may be. -/
lemma writeSlot (h : st₀.Keeps reg plan₀ st) (hplan : plan₀ <+: plan) (hw : w.Known reg plan)
    (hopen : ∀ {shape}, w.shape? = some shape → reg.InstanceSlot shape.id i true)
    (hwrite : st.writeSlot w i new = .ok st') : st₀.Keeps reg plan₀ st' := by
  have hcell : ∀ r, w.ref? = some r → st.writeCell r i new = .ok st' → st₀.Keeps reg plan₀ st' := by
    intro r hr hwrite
    refine h.writeCell hwrite fun {v shape} hv hshape hvr hfixed => ?_
    -- the plan knows both values, so they are the same instance
    have hsame := ((hv.mono hplan) r hvr).symm.trans (hw.tenant hr)
    rw [Value.shape?_of_ref? hvr, hsame, ← Value.shape?_of_ref? hr] at hshape
    cases (hopen hshape).unique hfixed
  cases w with
  | object s r => exact hcell r rfl hwrite
  | wrapped s r => exact hcell r rfl hwrite
  | _ => cases hwrite

/-- No instance has its slots where an array has its elements. -/
lemma writeElement (h : st₀.Keeps reg plan₀ st) (hplan : plan₀ <+: plan) {array : ArrayShape}
    (hw : (Value.array array r).Known reg plan) (hwrite : st.writeCell r i new = .ok st') :
    st₀.Keeps reg plan₀ st' := by
  refine h.writeCell hwrite fun {v shape} hv hshape hvr _ => ?_
  have hsame := ((hv.mono hplan) r hvr).symm.trans (hw.tenant rfl)
  rw [Value.shape?_of_ref? hvr, hsame] at hshape
  cases hshape

lemma writeStatic (h : st₀.Keeps reg plan₀ st) (hopen : reg.StaticSlot type i true)
    (hwrite : st.writeStatic type i new = .ok st') : st₀.Keeps reg plan₀ st' := by
  obtain rfl := writeStatic_eq_ok hwrite
  refine ⟨h.instances, fun {t j} hj => ?_⟩
  rw [← h.statics hj, readStatic, readStatic, staticsOf_insert]
  by_cases ht : t = type
  · subst ht
    have hne : i ≠ j := by
      rintro rfl
      cases hopen.unique hj
    rw [if_pos rfl, List.getElem?_set_ne hne, List.length_set]
  · rw [if_neg ht]

/-- A new cell is not one that the plan knew. -/
lemma addCell (h : st₀.Keeps reg plan₀ st) (hplan : plan₀ <+: plan)
    (hst : st.Arranged plan) (slots : List Value) :
    st₀.Keeps reg plan₀ (st.addCell slots) where
  instances := by
    intro v shape i hv hshape hi
    rw [← h.instances hv hshape hi]
    refine readSlot_congr ?_ i
    cases hr : v.ref? with
    | none => cases v <;> first | rfl | cases hr
    | some r =>
      have hlt : r < st.nextRef := by
        obtain ⟨tenant, htenant⟩ : ∃ tenant, v.tenant? = some tenant := by
          cases v <;> first | exact ⟨_, rfl⟩ | cases hr
        exact hst.lt_nextRef (((hv.mono hplan) r hr).trans htenant)
      rw [slots?_of_ref? hr hshape, slots?_of_ref? hr hshape, cell_addCell_of_lt hlt]
  statics := h.statics

lemma wrap (h : st₀.Keeps reg plan₀ st) (hplan : plan₀ <+: plan) (hst : st.Charted reg plan)
    (v : Value) : st₀.Keeps reg plan₀ (st.wrap v).2 := by
  cases v with
  | struct shape fields => exact h.addCell hplan hst.toArranged fields
  | _ => exact h

lemma instantiate (h : st₀.Keeps reg plan₀ st) (hplan : plan₀ <+: plan)
    (hst : st.Charted reg plan) (d : Descriptor) :
    st₀.Keeps reg plan₀ (st.instantiate d).2 := by
  rw [Store.instantiate]
  split
  · exact h
  · exact h.addCell hplan hst.toArranged d.defaults

end Keeps

/-- A registration changes no slot of a known type. -/
lemma keeps_register (hv : Settled reg st) {spec : TypeSpec}
    (hr : reg.register st spec = .ok (type, reg', st')) : st.Keeps reg plan st' := by
  obtain ⟨rfl, -, base, d, hreg⟩ := registered_of_register hr
  have hd : reg'.get? st.nextType = some d := (hreg.get? _).trans (if_pos rfl)
  obtain ⟨-, -, -, -, -, -, rfl⟩ := register_eq_ok hr hd
  refine ⟨fun _ _ _ => rfl, fun {t i} hi => ?_⟩
  obtain ⟨e, -, he, -⟩ := hi
  have hne : t ≠ st.nextType := fun ht => Nat.lt_irrefl _ (ht ▸ hv.valid.allocated he)
  exact readStatic_congr ((staticsOf_insert st st.nextType t _).trans (if_neg hne)) i

end Store

end LateBinding

