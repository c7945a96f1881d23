import Mathlib.Logic.Relation
import LateBinding.Proofs.Store.Basic

/-!
# Plans of the store

A plan says of every cell whether it holds the slots of an object or of a wrapper, and of which
type, or the elements of an array. References are handed out once and instances keep the number of
their slots, so a store stays arranged by its plan, which grows at its end.
-/

namespace LateBinding

/-- What a cell belongs to. -/
inductive Tenant where
  | object (shape : Shape)
  | wrapper (shape : Shape)
  | array (shape : ArrayShape)

/-- The type of the instance that a cell belongs to. -/
def Tenant.shape? : Tenant → Option Shape
  | object shape => some shape
  | wrapper shape => some shape
  | array _ => none

/-- What each cell belongs to. -/
abbrev Plan := List Tenant

/-- The reference that a value is, if it is one. -/
def Value.ref? : Value → Option Ref
  | object _ r => some r
  | wrapped _ r => some r
  | array _ r => some r
  | _ => none

/-- What the cell belongs to that a value refers to. -/
def Value.tenant? : Value → Option Tenant
  | object shape _ => some (.object shape)
  | wrapped shape _ => some (.wrapper shape)
  | array shape _ => some (.array shape)
  | _ => none

/-- A reference is what the plan says. -/
def Plan.Knows (plan : Plan) (v : Value) : Prop :=
  ∀ r, v.ref? = some r → plan[r]? = v.tenant?

/-- Every cell belongs to somebody, and that of an instance holds all its slots. -/
structure Store.Arranged (st : Store) (plan : Plan) : Prop where
  length_eq : st.cells.length = plan.length
  slots : ∀ {r tenant shape}, plan[r]? = some tenant → tenant.shape? = some shape →
    (st.cell r).length = shape.slotNames.length

namespace Store

variable {st st' : Store} {plan : Plan} {r q : Ref} {slot : Nat} {new v w : Value}

/-! ### Writing a cell -/

/-- What a write changes is one slot of the cell that the value refers to. -/
lemma writeSlot_eq_ok (h : st.writeSlot v slot new = .ok st') :
    ∃ r, v.ref? = some r ∧ slot < (st.cell r).length ∧
      st' = st.setCell r ((st.cell r).set slot new) := by
  cases v with
  | object s r => exact ⟨r, rfl, writeCell_eq_ok h⟩
  | wrapped s r => exact ⟨r, rfl, writeCell_eq_ok h⟩
  | _ => cases h

/-- The slots of an instance that is not in a cell stay as they are when the cell is written. -/
lemma slots?_setCell (h : w.ref? ≠ some r) (slots : List Value) :
    (st.setCell r slots).slots? w = st.slots? w := by
  cases w with
  | object s q =>
    have hne : r ≠ q := fun hr => h (congrArg some hr.symm)
    exact congrArg some (cell_setCell_of_ne st hne slots)
  | wrapped s q =>
    have hne : r ≠ q := fun hr => h (congrArg some hr.symm)
    exact congrArg some (cell_setCell_of_ne st hne slots)
  | _ => rfl

lemma Arranged.lt_nextRef (h : st.Arranged plan) {tenant : Tenant} (hr : plan[r]? = some tenant) :
    r < st.nextRef := by
  rw [nextRef, h.length_eq]
  exact (List.getElem?_eq_some_iff.mp hr).1

lemma Arranged.setCell (h : st.Arranged plan) {slots : List Value}
    (hslots : slots.length = (st.cell r).length) : (st.setCell r slots).Arranged plan where
  length_eq := (List.length_set ..).trans h.length_eq
  slots := by
    intro q tenant shape hq hshape
    by_cases hr : r = q
    · subst hr
      rw [cell_setCell_self (h.lt_nextRef hq), hslots, h.slots hq hshape]
    · rw [cell_setCell_of_ne st hr, h.slots hq hshape]

lemma Arranged.addCell (h : st.Arranged plan) {tenant : Tenant} {slots : List Value}
    (hslots : ∀ shape, tenant.shape? = some shape → slots.length = shape.slotNames.length) :
    (st.addCell slots).Arranged (plan ++ [tenant]) where
  length_eq := by
    change (st.cells ++ [slots]).length = _
    rw [List.length_append, List.length_append, h.length_eq]
    rfl
  slots := by
    intro q t shape hq hshape
    rcases Nat.lt_or_ge q plan.length with hlt | hge
    · rw [List.getElem?_append_left hlt] at hq
      rw [cell_addCell_of_lt (h.lt_nextRef hq), h.slots hq hshape]
    · have heq : q = plan.length := by
        have hlt := (List.getElem?_eq_some_iff.mp hq).1
        rw [List.length_append, List.length_singleton] at hlt
        exact Nat.le_antisymm (Nat.le_of_lt_succ hlt) hge
      obtain rfl : st.nextRef = q := h.length_eq.trans heq.symm
      rw [List.getElem?_append_right hge] at hq
      rw [cell_addCell_nextRef]
      exact hslots shape (List.mem_singleton.mp (List.mem_of_getElem? hq) ▸ hshape)

/-! ### Writes through one value -/

/-- Writing through the value leads from one store to the other. -/
def WritesThrough (v : Value) (st st' : Store) : Prop :=
  ∃ slot new, st.writeSlot v slot new = .ok st'

/-- However often it is written through a value, no cell changes but the one it refers to. -/
lemma cell_of_writesThrough (h : Relation.ReflTransGen (WritesThrough v) st st')
    (hr : v.ref? ≠ some r) : st'.cell r = st.cell r := by
  induction h with
  | refl => rfl
  | tail _ hstep ih =>
    obtain ⟨slot, new, hwrite⟩ := hstep
    obtain ⟨q, hq, -, rfl⟩ := writeSlot_eq_ok hwrite
    have hne : q ≠ r := fun h => hr (hq.trans (congrArg some h))
    rw [cell_setCell_of_ne _ hne, ih]

end Store

end LateBinding
