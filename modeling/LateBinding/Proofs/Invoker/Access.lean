import LateBinding.Invoker.OfMember
import LateBinding.Invoker.Run
import LateBinding.Proofs.Registry.Along

/-!
# Access to slots

The invokers of members that are read from a slot or written to one, as they are made, and what they
do to a receiver that passes the guard.
-/

namespace LateBinding

open Run

variable {reg : Registry} {target : TypeId} {m : Member} {d e : Descriptor} {slot : Nat}

/-- The place of a member's slot. -/
def Member.place (m : Member) (slot : Nat) : Place :=
  if m.isStatic then .static m.declaring slot else .receiver slot

/-- What a member demands of its receivers on a target type. -/
def Member.receiverGuard? (m : Member) (target : Descriptor) : Option ReceiverGuard :=
  if m.isStatic then none else some (.ofType target)

/-! ### Making invokers -/

section Made

variable (hd : reg.get? target = some d) (he : reg.get? m.declaring = some e)
  (hid : e.id = m.declaring)

include he hid in
lemma Place.ofSlot_eq (slot : Nat) : ofSlot reg m slot = .ok (m.place slot) := by
  rw [ofSlot, Registry.known_of_get?_eq_some he, Member.place, ← hid]
  split <;> rfl

include hd in
lemma ReceiverGuard.ofMember_eq (m : Member) :
    ofMember reg target m = .ok (m.receiverGuard? d) := by
  rw [ofMember, ofTarget, Registry.known_of_get?_eq_some hd, Member.receiverGuard?]
  split <;> rfl

include he hid in
lemma Access.ofAccessor_eq (slot : Nat) :
    ofAccessor reg m (.slot slot) = .ok (.place (m.place slot)) := by
  rw [ofAccessor, Place.ofSlot_eq he hid]
  rfl

include he in
lemma BoundScript.ofMember_eq (body : Script) : ofMember reg m body = .ok ⟨body, e.toShape⟩ := by
  rw [ofMember, Registry.known_of_get?_eq_some he]
  rfl

include hd he hid

lemma Getter.ofMember_of_readSlot? (h : m.readSlot? = some slot) :
    ofMember reg target m = .ok ⟨m.receiverGuard? d, .place (m.place slot)⟩ := by
  have haccess : accessOf reg m = .ok (.place (m.place slot)) := by
    rw [Member.readSlot?] at h
    rw [accessOf]
    split at h
    · rename_i hbody
      cases h
      simp only [hbody]
      exact Access.ofAccessor_eq he hid slot
    · rename_i getter _ hbody
      cases getter with
      | slot index =>
        cases h
        simp only [hbody]
        exact Access.ofAccessor_eq he hid slot
      | native body => cases h
    · cases h
  rw [ofMember, haccess, ReceiverGuard.ofMember_eq hd]
  rfl

lemma Setter.ofMember_of_writeSlot? (h : m.writeSlot? = some slot) :
    ofMember reg target m =
      .ok ⟨m.receiverGuard? d, .ofType reg m.valueType, .place (m.place slot)⟩ := by
  have haccess : accessOf reg m = .ok (.place (m.place slot)) := by
    rw [Member.writeSlot?] at h
    rw [accessOf]
    split at h
    · rename_i hbody
      cases h
      simp only [hbody]
      exact Access.ofAccessor_eq he hid slot
    · rename_i setter hbody
      cases setter with
      | slot index =>
        cases h
        simp only [hbody]
        exact Access.ofAccessor_eq he hid slot
      | native body => cases h
    · cases h
  rw [ofMember, haccess, ReceiverGuard.ofMember_eq hd]
  rfl

/-- A method of known types can be made. -/
lemma Method.exists_ofMember (hkind : m.kind = .method) :
    ∃ x, ofMember reg target m = .ok x ∧ x.arguments = .ofMember reg m := by
  rw [ofMember]
  rw [Member.kind] at hkind
  cases hbody : m.body with
  | method accessor =>
    simp only [ReceiverGuard.ofMember_eq hd]
    cases accessor with
    | slot index =>
      simp only [MethodBody.ofAccessor, Place.ofSlot_eq he hid]
      cases m.params.getLast? <;> exact ⟨_, rfl, rfl⟩
    | native body =>
      simp only [MethodBody.ofAccessor, BoundScript.ofMember_eq he]
      exact ⟨_, rfl, rfl⟩
  | _ =>
    rw [hbody] at hkind
    cases hkind

end Made

/-! ### Running them -/

section Run

variable {ctx : Context} {g : ReceiverGuard} {receiver new : Value} {s : State}

lemma Getter.run_eq (hg : g.check receiver = .ok ()) :
    Getter.run ctx ⟨some g, .place (.receiver slot)⟩ receiver s =
      Run.ofExcept (s.store.readSlot receiver slot) s := by
  rw [Getter.run, Run.receive, hg]
  rfl

/-- A value that fits is written, as a copy if it is of a value type; any other is refused before
anything is written. -/
lemma Setter.run_eq (hg : g.checkMutable receiver = .ok ()) (value : ValueGuard) :
    Setter.run ctx ⟨some g, value, .place (.receiver slot)⟩ receiver new s =
      match value.check new with
      | .error e => .error e s
      | .ok () => Run.change (fun st => st.writeSlot receiver slot
          (s.store.toStored value.isValueType new)) s := by
  rw [Setter.run, Run.receive, hg]
  cases value.check new <;> rfl

end Run

/-- A known type still exists. -/
lemma Registry.isAlive_of_get? {t : TypeId} (h : reg.get? t = some d) (st : Store) :
    reg.isAlive st t = true := by
  have hcontains : reg.contains t = true := by
    rw [Registry.contains, Table.contains, show reg.types.get? t = some d from h]
    rfl
  rw [Registry.isAlive, hcontains, Bool.true_or, Bool.true_or]

lemma Run.alive_of_get? {ctx : Context} {t : TypeId} (h : ctx.registry.get? t = some d) :
    Run.alive ctx t = pure () := by
  funext s
  change (if ctx.registry.isAlive s.store t then _ else _ : Run Unit) s = _
  rw [Registry.isAlive_of_get? h]
  rfl

lemma ValueGuard.check_ofType (reg : Registry) (type : TypeId) (v : Value) :
    (ofType reg type).check v =
      if v.isAssignableTo type (reg.isValueType type) then .ok ()
      else .error (.mismatch (reg.nameOf type) v.typeName) := by
  rw [check, ofType]
  rfl

end LateBinding
