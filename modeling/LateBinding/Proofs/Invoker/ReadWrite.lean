import LateBinding.Proofs.Invoker.Access
import LateBinding.Proofs.Registry.Populated
import LateBinding.Proofs.Session.History
import LateBinding.Proofs.Store.Plan

/-!
# Reading after writing

What is written through a setter is what the getter reads afterwards, and nothing else changes: no
other slot of the receiver, no other instance, no static slot. A value type is stored as a copy, so
that what happens to the wrapper later does not reach the slot.

Main statement: `Populated.set_get`.
-/

namespace LateBinding.Registry

variable {reg : Registry} {st : Store} {plan : Plan} {target : TypeId} {d : Descriptor}
  {m m' : Member} {i j : Nat} {r : Ref} {receiver : Value}

/-! ### Receivers -/

/-- The value is an object of the target type or of a type that derives from it, or a wrapper of the
target type, and its slots are behind the reference. -/
inductive ReceiverAt (reg : Registry) (plan : Plan) (target : TypeId) : Value → Ref → Prop where
  | object {shape : Shape} {r : Ref} (hs : reg.HasShape shape) (htarget : target ∈ shape.ancestors)
      (hr : plan[r]? = some (.object shape)) : ReceiverAt reg plan target (.object shape r) r
  | wrapper {shape : Shape} {r : Ref} (hs : reg.HasShape shape) (hid : shape.id = target)
      (hr : plan[r]? = some (.wrapper shape)) : ReceiverAt reg plan target (.wrapped shape r) r

namespace ReceiverAt

lemma slots?_eq (h : ReceiverAt reg plan target receiver r) (st : Store) :
    st.slots? receiver = some (st.cell r) := by
  cases h <;> rfl

lemma writeSlot_eq (h : ReceiverAt reg plan target receiver r) (st : Store) (new : Value) :
    st.writeSlot receiver i new = st.writeCell r i new := by
  cases h <;> rfl

lemma readSlot_eq (h : ReceiverAt reg plan target receiver r) {v : Value}
    (hv : (st.cell r)[i]? = some v) : st.readSlot receiver i = .ok v := by
  simp only [Store.readSlot, h.slots?_eq, hv]
  rfl

lemma lt_nextRef (h : ReceiverAt reg plan target receiver r) (hst : st.Arranged plan) :
    r < st.nextRef := by
  cases h with
  | object _ _ hr => exact hst.lt_nextRef hr
  | wrapper _ _ hr => exact hst.lt_nextRef hr

lemma isAssignableTo (h : ReceiverAt reg plan target receiver r)
    (isValueType : Bool) : receiver.isAssignableTo target isValueType = true := by
  cases h with
  | object hs htarget hr => simp [Value.isAssignableTo, Shape.derivesFrom, htarget]
  | wrapper hs hid hr => simp [Value.isAssignableTo, Value.typeId, hid]

/-- The guard of the target type lets the receiver pass. -/
lemma check (h : ReceiverAt reg plan target receiver r) (hid : d.id = target) :
    (ReceiverGuard.ofType d).check receiver = .ok () := by
  have hnull : receiver.isNull = false := by cases h <;> rfl
  have hassignable := h.isAssignableTo d.isValueType
  rw [ReceiverGuard.check, hnull, ReceiverGuard.ofType, hid, hassignable]
  rfl

lemma checkMutable (h : ReceiverAt reg plan target receiver r) (hid : d.id = target) :
    (ReceiverGuard.ofType d).checkMutable receiver = .ok () := by
  have hcheck := h.check hid
  cases h <;> (simp only [ReceiverGuard.checkMutable, hcheck]; rfl)

/-- A setter writes a value that fits to the slot, and refuses any other. -/
lemma run_setter (h : ReceiverAt reg plan target receiver r) (hid : d.id = target) {s : State}
    (hlt : i < (s.store.cell r).length) (ctx : Context) (known : Registry) (type : TypeId)
    (v : Value) :
    Setter.run ctx ⟨some (.ofType d), .ofType known type, .place (.receiver i)⟩ receiver v s =
      if v.isAssignableTo type (known.isValueType type) then
        .ok () { s with store := s.store.setCell r ((s.store.cell r).set i
          (s.store.toStored (known.isValueType type) v)) }
      else .error (.mismatch (known.nameOf type) v.typeName) s := by
  rw [Setter.run_eq (h.checkMutable hid), ValueGuard.check_ofType]
  by_cases hfits : v.isAssignableTo type (known.isValueType type) = true
  · simp only [if_pos hfits, Run.change, h.writeSlot_eq, Store.writeCell_of_lt hlt]
    rfl
  · simp only [if_neg hfits]

/-- The slots of the target type are slots of the receiver. -/
lemma length_le {st₀ : Store} (hv : Settled reg st₀) (h : ReceiverAt reg plan target receiver r)
    (hd : reg.get? target = some d) (hst : st.Arranged plan) :
    d.slotNames.length ≤ (st.cell r).length := by
  cases h with
  | object hs htarget hr =>
    obtain ⟨e, he, rfl⟩ := hs
    obtain ⟨farther, hc, hlaid⟩ := hv.archive.laidOut he
    obtain ⟨rest, hc', -⟩ := hv.archive.laidOut hd
    have hend := hv.archive.chain_of_ancestor he htarget hc hc'
    rw [hst.slots hr rfl]
    exact (hlaid.within hend).2.1.length_le
  | wrapper hs hid hr =>
    obtain ⟨e, he, rfl⟩ := hs
    rw [hid, hd] at he
    cases he
    exact Nat.le_of_eq (hst.slots hr rfl).symm

end ReceiverAt

/-! ### Slots along a chain -/

/-- The slot of an instance member is one of the slots of the target type. -/
lemma Settled.slot_lt (hv : Settled reg st) (hm : reg.Along target m)
    (hd : reg.get? target = some d) (hinstance : m.isStatic = false) (hi : i ∈ m.slots) :
    i < d.slotNames.length := by
  obtain ⟨levels, hc, e, he, hmem⟩ := hm
  obtain ⟨d', farther, hd', rfl, hlaid⟩ := hv.archive.laidOut_of_chain hc
  obtain rfl := Option.some.inj (hd.symm.trans hd')
  obtain ⟨f, hf, -⟩ := hlaid.storedIn he hmem hinstance hi
  rw [← hlaid.occupy.length_eq]
  exact (List.getElem?_eq_some_iff.mp hf).1

/-- So it is one of the slots of a receiver. -/
lemma ReceiverAt.slot_lt {st₀ : Store} (hv : Settled reg st₀)
    (hr : ReceiverAt reg plan target receiver r) (hm : reg.Along target m)
    (hinstance : m.isStatic = false) (hi : i ∈ m.slots) (hst : st.Arranged plan) :
    i < (st.cell r).length := by
  obtain ⟨d, e, hd, -⟩ := hv.archive.exists_declaring hm
  exact Nat.lt_of_lt_of_le (hv.slot_lt hm hd hinstance hi) (hr.length_le hv hd hst)

/-- A type does not store its own instances in its fields. -/
lemma Settled.storedType_ne (hv : Settled reg st) (hm : reg.Along target m)
    (hinstance : m.isStatic = false) (hi : i ∈ m.slots) : m.storedType ≠ target := by
  obtain ⟨levels, hc, e, he, hmem⟩ := hm
  obtain ⟨d, farther, hd, rfl, hlaid⟩ := hv.archive.laidOut_of_chain hc
  obtain ⟨f, hf, hstored⟩ := hlaid.storedIn he hmem hinstance hi
  obtain ⟨b, hb, hfield⟩ := List.mem_flatMap.mp (List.mem_of_getElem? hf)
  obtain ⟨hfmem, hkind, -⟩ := mem_fieldsOf.mp hfield
  -- the type of a field is older than the type that declares it, which is no newer than the target
  have hb := List.mem_reverse.mp hb
  have hlt := hv.ordered.fields (hv.archive.get?_of_mem_chain hc hb) hfmem hkind
  have hle := hv.ordered.ancestors hd b.id (hlaid.ancestors_eq ▸ List.mem_map_of_mem hb)
  rintro rfl
  rw [hstored.valueType] at hlt
  exact Nat.lt_irrefl _ (Nat.lt_of_lt_of_le hlt hle)

/-- A wrapper that may be stored in a member of a value type is not the receiver. -/
lemma Settled.ref?_ne (hv : Settled reg st) (hm : reg.Along target m)
    (hinstance : m.isStatic = false) (hi : i ∈ m.slots) (hr : ReceiverAt reg plan target receiver r)
    {shape : Shape} {q : Ref} (hq : plan[q]? = some (.wrapper shape))
    (hvalue : reg.isValueType m.storedType = true)
    (hfits : (Value.wrapped shape q).isAssignableTo m.storedType true = true) : q ≠ r := by
  rintro rfl
  cases hr with
  | object _ _ hr =>
    rw [hq] at hr
    cases hr
  | wrapper hs htarget hr =>
    rw [hq] at hr
    cases hr
    simp only [Value.isAssignableTo, Value.typeId, Bool.or_eq_true, beq_iff_eq] at hfits
    rcases hfits with hwild | hid
    · rw [hv.not_isValueType_wildcard hwild] at hvalue
      cases hvalue
    · exact hv.storedType_ne hm hinstance hi (hid.symm.trans htarget)

lemma Settled.readSlot?_of_writeSlot? (hv : Settled reg st) (hm : reg.Along target m)
    (hi : m.writeSlot? = some i) : m.readSlot? = some i := by
  obtain ⟨levels, hc, e, he, hmem⟩ := hm
  obtain ⟨d, farther, -, rfl, hlaid⟩ := hv.archive.laidOut_of_chain hc
  exact hlaid.readSlot?_of_writeSlot? he hmem hi

/-! ### The setter and the getter -/

/-- The setter of a member, and what it does: a value that fits goes to the slot, and any other is
refused. -/
lemma Settled.setter (hv : Settled reg st) (hm : reg.Along target m)
    (hinstance : m.isStatic = false) (hi : m.writeSlot? = some i) (ctx : Context)
    {s : State} (hs : s.store.Arranged plan) (hr : ReceiverAt reg plan target receiver r)
    (v : Value) :
    ∃ setter, Setter.ofMember reg target m = .ok setter ∧
      setter.run ctx receiver v s =
        if v.isAssignableTo m.valueType (reg.isValueType m.valueType) then
          .ok () { s with store := s.store.setCell r ((s.store.cell r).set i
            (s.store.toStored (reg.isValueType m.valueType) v)) }
        else .error (.mismatch (reg.nameOf m.valueType) v.typeName) s := by
  obtain ⟨d, e, hd, he, hid, -⟩ := hv.archive.exists_declaring hm
  refine ⟨_, Setter.ofMember_of_writeSlot? hd he hid hi, ?_⟩
  have hlt := hr.slot_lt hv hm hinstance (Member.mem_slots_of_writeSlot? hi) hs
  rw [Member.receiverGuard?, Member.place, hinstance]
  exact hr.run_setter (hv.valid.id hd) hlt ctx reg m.valueType v

/-- The getter of a member, and what it gives. -/
lemma Settled.getter (hv : Settled reg st) (hm : reg.Along target m)
    (hinstance : m.isStatic = false) (hi : m.readSlot? = some i) (ctx : Context)
    (hr : ReceiverAt reg plan target receiver r) :
    ∃ getter, Getter.ofMember reg target m = .ok getter ∧
      ∀ {s : State} {v : Value}, (s.store.cell r)[i]? = some v →
        getter.run ctx receiver s = .ok v s := by
  obtain ⟨d, e, hd, he, hid, -⟩ := hv.archive.exists_declaring hm
  refine ⟨_, Getter.ofMember_of_readSlot? hd he hid hi, ?_⟩
  intro s v hread
  rw [Member.receiverGuard?, Member.place, hinstance]
  simp only [Bool.false_eq_true, if_false]
  rw [Getter.run_eq (hr.check (hv.valid.id hd)), hr.readSlot_eq hread]
  rfl

/-! ### Reading after writing -/

/-- A setter takes exactly the values that fit the declared type. Afterwards the getter gives the
value, or the copy of it where a value type is declared; the getter of a member with another slot
gives what it gave before; and the slots of every other instance, unwrapped copies among them, and
all static slots are as they were. What is written later through a wrapper does not reach the copy
that was made of it. -/
theorem Populated.set_get (h : Populated reg st) (hm : reg.Along target m)
    (hinstance : m.isStatic = false) (hi : m.writeSlot? = some i) (hm' : reg.Along target m')
    (hinstance' : m'.isStatic = false) (hj : m'.readSlot? = some j) (ctx : Context) {s : State}
    (hs : s.store.Arranged plan) (hr : ReceiverAt reg plan target receiver r) (v : Value) :
    ∃ setter getter getter', Setter.ofMember reg target m = .ok setter ∧
      Getter.ofMember reg target m = .ok getter ∧ Getter.ofMember reg target m' = .ok getter' ∧
      ((∃ t, setter.run ctx receiver v s = .ok () t) ↔
        v.isAssignableTo m.valueType (reg.isValueType m.valueType) = true) ∧
      ∀ t, setter.run ctx receiver v s = .ok () t →
        t.store.Arranged plan ∧
        getter.run ctx receiver t = .ok (s.store.toStored (reg.isValueType m.valueType) v) t ∧
        (i ≠ j → ∃ w, getter'.run ctx receiver s = .ok w s ∧
          getter'.run ctx receiver t = .ok w t) ∧
        (∀ w, w.ref? ≠ some r → t.store.slots? w = s.store.slots? w) ∧
        (∀ type, t.store.staticsOf type = s.store.staticsOf type) ∧
        ∀ shape q, v = .wrapped shape q → plan[q]? = some (.wrapper shape) →
          reg.isValueType m.valueType = true →
          ∀ u : State, Relation.ReflTransGen (Store.WritesThrough v) t.store u.store →
            getter.run ctx receiver u = .ok (.struct shape (s.store.cell q)) u := by
  have hv := h.settled
  have hslot := Member.mem_slots_of_writeSlot? hi
  obtain ⟨setter, hsetter, hset⟩ := hv.setter hm hinstance hi ctx hs hr v
  obtain ⟨getter, hgetter, hget⟩ := hv.getter hm hinstance (hv.readSlot?_of_writeSlot? hm hi) ctx hr
  obtain ⟨getter', hgetter', hget'⟩ := hv.getter hm' hinstance' hj ctx hr
  have hlt := hr.slot_lt hv hm hinstance hslot hs
  have hlt' := hr.slot_lt hv hm' hinstance' (Member.mem_slots_of_readSlot? hj) hs
  refine ⟨setter, getter, getter', hsetter, hgetter, hgetter', ?_, fun t ht => ?_⟩
  · rw [hset]
    split
    · exact ⟨fun _ => ‹_›, fun _ => ⟨_, rfl⟩⟩
    · refine ⟨?_, fun hfits => absurd hfits ‹_›⟩
      rintro ⟨t, ht⟩
      cases ht
  rw [hset] at ht
  split at ht
  case isFalse => cases ht
  rename_i hfits
  cases ht
  generalize hnew : s.store.toStored (reg.isValueType m.valueType) v = new
  have hself := Store.cell_setCell_self (hr.lt_nextRef hs) ((s.store.cell r).set i new)
  have hread : ((s.store.setCell r ((s.store.cell r).set i new)).cell r)[i]? = some new := by
    rw [hself, List.getElem?_set_self hlt]
  refine ⟨hs.setCell (List.length_set ..), hget hread, fun hne => ?_, ?_, fun type => rfl, ?_⟩
  · refine ⟨(s.store.cell r)[j], hget' (List.getElem?_eq_getElem hlt'), hget' ?_⟩
    rw [hself, List.getElem?_set_ne hne, List.getElem?_eq_getElem hlt']
  · exact fun w hw => Store.slots?_setCell hw _
  · rintro shape q rfl hq hvalue u hwrites
    have hstored := Member.storedType_of_writeSlot? hi
    rw [hvalue] at hfits hnew
    -- the wrapper has a cell of its own, so what is written there later does not reach the slot
    have hne : q ≠ r := hv.ref?_ne hm hinstance hslot hr hq (hstored ▸ hvalue) (hstored ▸ hfits)
    have hlater := Store.cell_of_writesThrough hwrites fun h => hne (Option.some.inj h)
    refine hget ?_
    rw [hlater, hread, ← hnew]
    rfl

lemma Populated.step_register {s : Session} (h : Populated s.registry s.state.store)
    {spec : TypeSpec} (hspec : spec.Allocated s.state.store.nextType) :
    Populated (s.step (.register spec)).2.registry (s.step (.register spec)).2.state.store := by
  cases hr : s.registry.register s.state.store spec with
  | error e =>
    rw [Session.step_register_of_error hr]
    exact h
  | ok r =>
    rw [Session.step_register_of_ok hr]
    exact h.register hspec hr

/-- A value type, a type with a field of it, and a type that derives from the latter and declares
the name of the field anew. -/
def renamedRegistry : Session :=
  let s := (({} : Session).step (.register
    { name := "Point", isValueType := true
      members := [.field { name := "x", type := TypeId.int }] })).2
  let s := (s.step (.register
    { name := "Holder", members := [.field { name := "at", type := ⟨64⟩ }] })).2
  (s.step (.register
    { name := "Renamed", base := ⟨65⟩, members := [.field { name := "at", type := ⟨64⟩ }] })).2

/-- The shape of the value type. -/
def pointShape : Shape :=
  ⟨⟨64⟩, "Point", some TypeId.object, true, [⟨64⟩, TypeId.object], ["x"], []⟩

/-- The shape of the most derived type. -/
def renamedShape : Shape :=
  ⟨⟨66⟩, "Renamed", some ⟨65⟩, false, [⟨66⟩, ⟨65⟩, TypeId.object], ["at", "at"], []⟩

/-- The field that the most derived type inherits. -/
def inheritedField : Member where
  name := "at"
  declaring := ⟨65⟩
  isStatic := false
  visibility := .declaring
  params := []
  valueType := ⟨64⟩
  isSynthesized := false
  body := .field 0 false

/-- The field of the same name that the most derived type declares itself. -/
def ownField : Member := { inheritedField with declaring := ⟨66⟩, body := .field 1 false }

/-- An instance of the most derived type, and a wrapper of the value type. -/
def renamedState : State where
  store := { cells := [[.struct pointShape [.int 0], .struct pointShape [.int 5]], [.int 7]] }

/-- What the cells of the state belong to. -/
def renamedPlan : Plan := [.object renamedShape, .wrapper pointShape]

/-- The wrapper is stored in the inherited field, and the getter gives the copy. The field of the
same name that hides the inherited one is as it was, and what is written to the wrapper later does
not reach the copy. -/
theorem Populated.set_get_renamed : ∃ setter getter getter' t,
    Populated renamedRegistry.registry renamedRegistry.state.store ∧
    Along renamedRegistry.registry ⟨66⟩ inheritedField ∧
    Along renamedRegistry.registry ⟨66⟩ ownField ∧ renamedState.store.Arranged renamedPlan ∧
    ReceiverAt renamedRegistry.registry renamedPlan ⟨66⟩ (.object renamedShape 0) 0 ∧
    Setter.ofMember renamedRegistry.registry ⟨66⟩ inheritedField = .ok setter ∧
    Getter.ofMember renamedRegistry.registry ⟨66⟩ inheritedField = .ok getter ∧
    Getter.ofMember renamedRegistry.registry ⟨66⟩ ownField = .ok getter' ∧
    setter.run renamedRegistry.binder.toContext (.object renamedShape 0) (.wrapped pointShape 1)
      renamedState = .ok () t ∧
    getter.run renamedRegistry.binder.toContext (.object renamedShape 0) t =
      .ok (.struct pointShape [.int 7]) t ∧
    getter'.run renamedRegistry.binder.toContext (.object renamedShape 0) t =
      .ok (.struct pointShape [.int 5]) t ∧
    ∀ u : State, t.store.writeSlot (.wrapped pointShape 1) 0 (.int 9) = .ok u.store →
      getter.run renamedRegistry.binder.toContext (.object renamedShape 0) u =
        .ok (.struct pointShape [.int 7]) u := by
  have h : Populated renamedRegistry.registry renamedRegistry.state.store :=
    ((Populated.start.step_register (by decide)).step_register (by decide)).step_register
      (by decide)
  have hc : renamedRegistry.registry.Chain ⟨66⟩ [_, _, _] := ⟨_, rfl, rfl⟩
  have hm : Along renamedRegistry.registry ⟨66⟩ inheritedField :=
    ⟨_, hc, _, List.mem_cons_of_mem _ List.mem_cons_self, List.mem_cons_self⟩
  have hm' : Along renamedRegistry.registry ⟨66⟩ ownField :=
    ⟨_, hc, _, List.mem_cons_self, List.mem_cons_self⟩
  have hs : renamedState.store.Arranged renamedPlan := by
    refine ⟨rfl, fun {r tenant shape} hr hshape => ?_⟩
    match r with
    | 0 => cases hr; cases hshape; rfl
    | 1 => cases hr; cases hshape; rfl
    | r + 2 => cases hr
  have hr : ReceiverAt renamedRegistry.registry renamedPlan ⟨66⟩ (.object renamedShape 0) 0 :=
    .object ⟨_, rfl, rfl⟩ (by decide) rfl
  obtain ⟨setter, getter, getter', hsetter, hgetter, hgetter', hset, hget⟩ :=
    h.set_get hm rfl rfl hm' rfl rfl renamedRegistry.binder.toContext hs hr (.wrapped pointShape 1)
  obtain ⟨t, ht⟩ := hset.mpr rfl
  obtain ⟨-, hread, hother, -, -, hlater⟩ := hget t ht
  obtain ⟨w, hbefore, hafter⟩ := hother (by decide)
  obtain rfl : w = .struct pointShape [.int 5] := by
    cases hgetter'
    cases hbefore
    rfl
  exact ⟨setter, getter, getter', t, h, hm, hm', hs, hr, hsetter, hgetter, hgetter', ht, hread,
    hafter, fun u hu => hlater _ _ rfl rfl rfl u (.single ⟨_, _, hu⟩)⟩

end LateBinding.Registry
