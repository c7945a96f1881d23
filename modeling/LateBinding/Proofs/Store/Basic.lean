import LateBinding.Proofs.Except
import LateBinding.Registry.Descriptor

/-!
# Cells, writes and identifiers

A new cell leaves the others alone, and so does a write to one of them. Identifiers are handed out
by registrations only: whatever else happens to a store, the next one stays.
-/

namespace LateBinding.Store

variable {st st' : Store} {r q : Ref} {slot : Nat} {new v : Value} {type : TypeId} {shape : Shape}
  {name : String}

/-! ### Cells -/

@[simp] lemma cell_addCell_nextRef (st : Store) (slots : List Value) :
    (st.addCell slots).cell st.nextRef = slots := by
  simp [cell, addCell, nextRef]

lemma cell_addCell_of_lt (h : r < st.nextRef) (slots : List Value) :
    (st.addCell slots).cell r = st.cell r :=
  congrArg (·.getD []) (List.getElem?_append_left h)

lemma cell_setCell_of_ne (st : Store) (h : r ≠ q) (slots : List Value) :
    (st.setCell r slots).cell q = st.cell q := by
  simp [cell, setCell, h]

lemma cell_setCell_self (h : r < st.nextRef) (slots : List Value) :
    (st.setCell r slots).cell r = slots :=
  congrArg (·.getD []) (List.getElem?_set_self h)

/-! ### Writes -/

lemma writeCell_of_lt (h : slot < (st.cell r).length) (new : Value) :
    st.writeCell r slot new = .ok (st.setCell r ((st.cell r).set slot new)) := by
  rw [writeCell, if_pos h]
  rfl

lemma writeCell_eq_ok (h : st.writeCell r slot new = .ok st') :
    slot < (st.cell r).length ∧ st' = st.setCell r ((st.cell r).set slot new) := by
  rw [writeCell] at h
  split at h
  · cases h
    exact ⟨‹_›, rfl⟩
  · cases h

lemma writeStatic_eq_ok (h : st.writeStatic type slot new = .ok st') :
    st' = { st with statics := st.statics.insert type ((st.staticsOf type).set slot new) } := by
  rw [writeStatic] at h
  split at h
  · exact (Except.ok.inj h).symm
  · cases h

/-! ### Identifiers -/

@[simp] lemma nextType_logValue (st : Store) (v : Value) :
    (st.logValue v).nextType = st.nextType := rfl

@[simp] lemma nextType_wrap (st : Store) (v : Value) : (st.wrap v).2.nextType = st.nextType := by
  cases v <;> rfl

@[simp] lemma nextType_newArray (st : Store) (shape : ArrayShape) (fill : Value) :
    (st.newArray shape fill).2.nextType = st.nextType := rfl

@[simp] lemma nextType_instantiate (st : Store) (d : Descriptor) :
    (st.instantiate d).2.nextType = st.nextType := by
  rw [instantiate]
  split <;> rfl

lemma nextType_writeCell (h : st.writeCell r slot new = .ok st') :
    st'.nextType = st.nextType := by
  obtain ⟨-, rfl⟩ := writeCell_eq_ok h
  rfl

lemma nextType_writeSlot (h : st.writeSlot v slot new = .ok st') :
    st'.nextType = st.nextType := by
  cases v with
  | object s r => exact nextType_writeCell h
  | wrapped s r => exact nextType_writeCell h
  | _ => cases h

lemma nextType_writeStatic (h : st.writeStatic type slot new = .ok st') :
    st'.nextType = st.nextType := by
  obtain rfl := writeStatic_eq_ok h
  rfl

lemma nextType_writeFieldOf (h : st.writeFieldOf shape v name new = .ok st') :
    st'.nextType = st.nextType := by
  obtain ⟨slot, -, h⟩ := exists_of_bind_eq_ok h
  exact nextType_writeSlot h

lemma nextType_writeField (h : st.writeField v name new = .ok st') :
    st'.nextType = st.nextType := by
  obtain ⟨slot, -, h⟩ := exists_of_bind_eq_ok h
  exact nextType_writeSlot h

lemma nextType_writeStaticField (h : st.writeStaticField shape name new = .ok st') :
    st'.nextType = st.nextType := by
  obtain ⟨slot, -, h⟩ := exists_of_bind_eq_ok h
  exact nextType_writeStatic h

end LateBinding.Store
