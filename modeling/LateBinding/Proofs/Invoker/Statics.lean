import LateBinding.Proofs.Caches
import LateBinding.Proofs.Invoker.ReadWrite
import LateBinding.Proofs.Registry.ReadOnly
import LateBinding.Proofs.Run.InStep
import LateBinding.Proofs.Store.Filled
import LateBinding.Proofs.Store.Keeps

/-!
# Static members

A static member has one place: the static slot of the type that declares it, through whatever type
the member is reached and whatever the receiver is. What is written through one type is read through
every other one, and by everything that was brought along with the member; no other slot of any type
or instance changes, whatever its name or position.

Main statement: `Populated.set_get_static`.
-/

namespace LateBinding

open Run Registry

variable {reg : Registry} {native : Native} {ctx : Context} {type owner target target' : TypeId}
  {m n : Member} {d e : Descriptor} {st : Store} {s t : State} {i j : Nat} {new v receiver : Value}

/-! ### Slots of types -/

namespace Store

lemma readStatic_of_getElem? (h : (st.staticsOf type)[i]? = some v) :
    st.readStatic type i = .ok v := by
  rw [readStatic, h]
  rfl

/-- From the first store to the second one a static slot of a type has been written, and nothing
else. -/
structure StaticWritten (st : Store) (type : TypeId) (i : Nat) (new : Value) (st' : Store) :
    Prop where
  cells : st'.cells = st.cells
  log : st'.log = st.log
  self : st'.staticsOf type = (st.staticsOf type).set i new
  others : ∀ u, u ≠ type → st'.staticsOf u = st.staticsOf u

lemma exists_writeStatic (h : i < (st.staticsOf type).length) (new : Value) :
    ∃ st', st.writeStatic type i new = .ok st' ∧ st.StaticWritten type i new st' := by
  refine ⟨_, if_pos h, rfl, rfl, ?_, fun u hu => ?_⟩
  · rw [staticsOf_insert, if_pos rfl]
  · rw [staticsOf_insert, if_neg hu]

namespace StaticWritten

variable {st' : Store} (h : st.StaticWritten type i new st')
include h

lemma readStatic_self (hi : i < (st.staticsOf type).length) : st'.readStatic type i = .ok new := by
  refine readStatic_of_getElem? ?_
  rw [h.self, List.getElem?_set_self hi]

/-- All other static slots are read as before. -/
lemma readStatic_of_ne (hne : owner = type → j ≠ i) :
    st'.readStatic owner j = st.readStatic owner j := by
  by_cases howner : owner = type
  · subst howner
    rw [readStatic, readStatic, h.self, List.getElem?_set_ne (Ne.symm (hne rfl)), List.length_set]
  · exact readStatic_congr (h.others owner howner) j

lemma slots?_eq (w : Value) : st'.slots? w = st.slots? w := by
  cases w <;> simp only [slots?, cell, h.cells]

end StaticWritten

end Store

/-! ### Invokers of static members -/

lemma Place.read_static (he : ctx.registry.get? owner = some e) (receiver : Value) (i : Nat)
    (s : State) :
    Place.read ctx receiver (.static owner i) s =
      Run.ofExcept (s.store.readStatic owner i) s := by
  rw [Place.read, alive_of_get? he]
  rfl

lemma Getter.run_static (ctx : Context) (he : ctx.registry.get? owner = some e)
    (receiver : Value) (i : Nat) (s : State) :
    Getter.run ctx ⟨none, .place (.static owner i)⟩ receiver s =
      Run.ofExcept (s.store.readStatic owner i) s :=
  Place.read_static he .null i s

/-- A value that fits is written whatever the receiver is, as a copy if it is of a value type. -/
lemma Setter.run_static (ctx : Context) (he : ctx.registry.get? owner = some e)
    (value : ValueGuard) (receiver new : Value) (i : Nat) (s : State) :
    Setter.run ctx ⟨none, value, .place (.static owner i)⟩ receiver new s =
      match value.check new with
      | .error e => .error e s
      | .ok () => Run.change (fun st => st.writeStatic owner i
          (s.store.toStored value.isValueType new)) s := by
  have hstore : ∀ w, Place.write ctx .null w (.static owner i) =
      Run.change fun st => st.writeStatic owner i w := by
    intro w
    rw [Place.write, alive_of_get? he]
    rfl
  rw [Setter.run, Run.receive]
  cases value.check new with
  | error e => rfl
  | ok u => exact congrFun (hstore _) s

section Made

variable (hd : reg.get? target = some d) (he : reg.get? m.declaring = some e)
  (hid : e.id = m.declaring)
include hd he hid

/-- A method without parameters that goes to a slot reads it. -/
lemma Method.ofMember_of_slot (hbody : m.body = .method (.slot i)) (hparams : m.params = []) :
    ofMember reg target m =
      .ok ⟨m.receiverGuard? d, ⟨m.text, []⟩, .read (m.place i), []⟩ := by
  have hmade : MethodBody.ofAccessor reg m (.slot i) = .ok (.read (m.place i)) := by
    rw [MethodBody.ofAccessor, Place.ofSlot_eq he hid, hparams]
    rfl
  rw [ofMember, hbody]
  simp only [hmade, ReceiverGuard.ofMember_eq hd, ArgumentsGuard.ofMember, hparams]
  rfl

end Made

lemma Method.run_static (ctx : Context) (he : ctx.registry.get? owner = some e) (text : String)
    (receiver : Value) (h : s.store.readStatic owner i = .ok v) :
    Method.run ctx ⟨none, ⟨text, []⟩, .read (.static owner i), []⟩ receiver [] s =
      .ok (v, []) s := by
  have hread := Place.read_static he .null i s
  rw [h] at hread
  have hperform : Method.perform ctx ⟨none, ⟨text, []⟩, .read (.static owner i), []⟩ .null [] s =
      .ok (v, []) s := bind_eq_of_ok hread
  exact bind_eq_of_ok hperform

/-! ### Other members -/

/-- A getter reads the same if its place does. -/
lemma Getter.answer_congr {p : Place}
    (h : ∀ r, answer (p.read ctx r t) = answer (p.read ctx r s)) (guard : Option ReceiverGuard)
    (receiver : Value) :
    answer (Getter.run ctx ⟨guard, .place p⟩ receiver t) =
      answer (Getter.run ctx ⟨guard, .place p⟩ receiver s) := by
  cases guard with
  | none => exact h .null
  | some g =>
    rw [Getter.run, Run.receive]
    cases g.check receiver with
    | error e => rfl
    | ok u => exact h receiver

/-- Every member that is not at the written slot is read as before. -/
lemma Registry.Settled.getter_of_staticWritten (hv : Settled reg st) (hn : reg.Along type n)
    (hj : n.readSlot? = some j) (h : s.store.StaticWritten owner i new t.store)
    (hne : n.isStatic = true → n.declaring = owner → j ≠ i) :
    ∃ getter, Getter.ofMember reg type n = .ok getter ∧ ∀ receiver,
      answer (getter.run ⟨reg, native⟩ receiver t) =
        answer (getter.run ⟨reg, native⟩ receiver s) := by
  obtain ⟨d, e, hd, he, hid, -⟩ := hv.archive.exists_declaring hn
  refine ⟨_, Getter.ofMember_of_readSlot? hd he hid hj, fun receiver => ?_⟩
  refine Getter.answer_congr (fun r => ?_) _ receiver
  rw [Member.place]
  cases hstatic : n.isStatic with
  | true =>
    have he' : (⟨reg, native⟩ : Context).registry.get? n.declaring = some e := he
    rw [if_pos rfl, Place.read_static he', Place.read_static he', h.readStatic_of_ne (hne hstatic)]
    cases s.store.readStatic n.declaring j <;> rfl
  | false =>
    change answer (Run.ask (fun st => st.readSlot r j) t) =
      answer (Run.ask (fun st => st.readSlot r j) s)
    rw [Run.ask, Run.ask, Store.readSlot_congr (h.slots?_eq r)]
    cases s.store.readSlot r j <;> rfl

/-! ### Reading after writing -/

/-- A static member is written to its own type, through whatever type it is reached. -/
lemma Registry.Settled.static_setter (hv : Settled reg st) (native : Native)
    (hm : reg.Along target m) (hstatic : m.isStatic = true) (hi : m.writeSlot? = some i)
    (hlt : i < (s.store.staticsOf m.declaring).length) (receiver v : Value) :
    ∃ setter t, Setter.ofMember reg target m = .ok setter ∧
      s.store.StaticWritten m.declaring i
        (s.store.toStored (reg.isValueType m.valueType) v) t.store ∧
      setter.run ⟨reg, native⟩ receiver v s =
        if v.isAssignableTo m.valueType (reg.isValueType m.valueType) then .ok () t
        else .error (.mismatch (reg.nameOf m.valueType) v.typeName) s := by
  obtain ⟨d, e, hd, he, hid, -⟩ := hv.archive.exists_declaring hm
  obtain ⟨st', hwrite, hwritten⟩ := Store.exists_writeStatic hlt
    (s.store.toStored (reg.isValueType m.valueType) v)
  refine ⟨_, { s with store := st' }, Setter.ofMember_of_writeSlot? hd he hid hi, hwritten, ?_⟩
  rw [Member.receiverGuard?, Member.place, if_pos hstatic, if_pos hstatic]
  rw [Setter.run_static ⟨reg, native⟩ he, ValueGuard.check_ofType]
  by_cases hfits : v.isAssignableTo m.valueType (reg.isValueType m.valueType) = true
  · simp only [if_pos hfits, Run.change, ValueGuard.ofType, hwrite]
  · simp only [if_neg hfits]

/-- A static member is read from its own type, through whatever type it is reached. -/
lemma Registry.Settled.static_getter (hv : Settled reg st) (native : Native)
    (hm : reg.Along target m) (hstatic : m.isStatic = true) (hi : m.readSlot? = some i) :
    ∃ getter, Getter.ofMember reg target m = .ok getter ∧ ∀ receiver s,
      getter.run ⟨reg, native⟩ receiver s =
        Run.ofExcept (s.store.readStatic m.declaring i) s := by
  obtain ⟨d, e, hd, he, hid, -⟩ := hv.archive.exists_declaring hm
  refine ⟨_, Getter.ofMember_of_readSlot? hd he hid hi, fun receiver s => ?_⟩
  rw [Member.receiverGuard?, Member.place, if_pos hstatic, if_pos hstatic]
  exact Getter.run_static ⟨reg, native⟩ he receiver i s

/-- The same goes for the methods that read the slot. -/
lemma Registry.Settled.static_method (hv : Settled reg st) (native : Native)
    (hn : reg.Along target n) (hstatic : n.isStatic = true) (hbody : n.body = .method (.slot i))
    (hparams : n.params = []) :
    ∃ method, Method.ofMember reg target n = .ok method ∧ ∀ receiver s v,
      s.store.readStatic n.declaring i = .ok v →
        method.run ⟨reg, native⟩ receiver [] s = .ok (v, []) s := by
  obtain ⟨d, e, hd, he, hid, -⟩ := hv.archive.exists_declaring hn
  refine ⟨_, Method.ofMember_of_slot hd he hid hbody hparams, fun receiver s v hread => ?_⟩
  rw [Member.receiverGuard?, Member.place, if_pos hstatic, if_pos hstatic]
  exact Method.run_static ⟨reg, native⟩ he n.text receiver hread

/-- The slot of a static member is one of those of its type. -/
lemma Registry.Settled.static_slot_lt (hv : Settled reg st) (hm : reg.Along target m)
    (hstatic : m.isStatic = true) (hi : m.writeSlot? = some i) :
    ∃ e, reg.get? m.declaring = some e ∧ i < e.staticNames.length := by
  have hslot := Along.exists_slot hv hm (.writes hi)
  rw [if_pos hstatic] at hslot
  exact hslot.lt_staticNames hv

namespace Registry

/-- The type is known, and it is the owner or derives from it. -/
def Under (reg : Registry) (type owner : TypeId) : Prop :=
  ∃ d, reg.get? type = some d ∧ owner ∈ d.ancestors

/-- What an ancestor declares is a member along the chain. -/
lemma Settled.along (hv : Settled reg st) (h : reg.Under type owner)
    (he : reg.get? owner = some e) (hm : m ∈ e.members) : reg.Along type m := by
  obtain ⟨d, hd, hancestor⟩ := h
  obtain ⟨farther, hc, hlaid⟩ := hv.archive.laidOut hd
  rw [hlaid.ancestors_eq] at hancestor
  obtain ⟨b, hb, rfl⟩ := List.mem_map.mp hancestor
  obtain rfl := Option.some.inj ((hv.archive.get?_of_mem_chain hc hb).symm.trans he)
  exact ⟨_, hc, b, hb, hm⟩

/-- From the first state to the second one a value has been stored in a static slot of a type. -/
structure StaticStored (reg : Registry) (native : Native) (owner : Descriptor) (i : Nat)
    (stored : Value) (s t : State) : Prop where
  /-- Fields and properties at the slot give the value, through whatever type they are reached. -/
  getter : ∀ {target n}, reg.Under target owner.id → n ∈ owner.members → n.isStatic = true →
    n.readSlot? = some i → ∃ getter, Getter.ofMember reg target n = .ok getter ∧
      ∀ receiver, getter.run ⟨reg, native⟩ receiver t = .ok stored t
  /-- So do the methods that read the slot. -/
  method : ∀ {target n}, reg.Under target owner.id → n ∈ owner.members → n.isStatic = true →
    n.body = .method (.slot i) → n.params = [] →
      ∃ method, Method.ofMember reg target n = .ok method ∧
        ∀ receiver, method.run ⟨reg, native⟩ receiver [] t = .ok (stored, []) t
  slot : t.store.readStatic owner.id i = .ok stored
  /-- All other static slots are as they were, those of other types among them. -/
  statics : ∀ type j, (type = owner.id → j ≠ i) →
    t.store.readStatic type j = s.store.readStatic type j
  instances : ∀ w j, t.store.readSlot w j = s.store.readSlot w j
  /-- Every member that does not go to the slot is read as before. -/
  others : ∀ {type n j}, reg.Along type n → n.readSlot? = some j →
    (n.isStatic = true → n.declaring = owner.id → j ≠ i) →
      ∃ getter, Getter.ofMember reg type n = .ok getter ∧ ∀ receiver,
        answer (getter.run ⟨reg, native⟩ receiver t) =
          answer (getter.run ⟨reg, native⟩ receiver s)

lemma Settled.staticStored (hv : Settled reg st) (he : reg.get? e.id = some e)
    (hlt : i < (s.store.staticsOf e.id).length)
    (h : s.store.StaticWritten e.id i v t.store) : reg.StaticStored native e i v s t where
  getter := by
    intro target n htarget hn hstatic hread
    obtain ⟨getter, hgetter, hrun⟩ :=
      hv.static_getter native (hv.along htarget he hn) hstatic hread
    refine ⟨getter, hgetter, fun receiver => ?_⟩
    rw [hrun, hv.valid.declaring he hn, h.readStatic_self hlt]
    rfl
  method := by
    intro target n htarget hn hstatic hbody hparams
    obtain ⟨method, hmethod, hrun⟩ :=
      hv.static_method native (hv.along htarget he hn) hstatic hbody hparams
    refine ⟨method, hmethod, fun receiver => hrun receiver t v ?_⟩
    rw [hv.valid.declaring he hn, h.readStatic_self hlt]
  slot := h.readStatic_self hlt
  statics := fun _ _ hne => h.readStatic_of_ne hne
  instances := fun w j => Store.readSlot_congr (h.slots?_eq w) j
  others := fun hn hj hne => hv.getter_of_staticWritten hn hj h hne

/-- A setter of a static member takes exactly the values that fit the declared type, whatever the
receiver is and through whatever type the member is reached. The value, or the copy of it where a
value type is declared, is then read through every type that is the owner or derives from it, and
everything else is as it was. -/
theorem Populated.set_get_static (h : Populated reg st) (he : reg.get? e.id = some e)
    (hm : m ∈ e.members) (hstatic : m.isStatic = true) (hi : m.writeSlot? = some i)
    (htarget : reg.Under target e.id) (native : Native) {s : State}
    (hs : ∀ {t d}, reg.get? t = some d → (s.store.staticsOf t).length = d.staticNames.length)
    (receiver v : Value) :
    m.readSlot? = some i ∧ ∃ setter, Setter.ofMember reg target m = .ok setter ∧
      ((∃ t, setter.run ⟨reg, native⟩ receiver v s = .ok () t) ↔
        v.isAssignableTo m.valueType (reg.isValueType m.valueType) = true) ∧
      ∀ t, setter.run ⟨reg, native⟩ receiver v s = .ok () t →
        reg.StaticStored native e i (s.store.toStored (reg.isValueType m.valueType) v) s t := by
  have hv := h.settled
  have halong := hv.along htarget he hm
  have hdeclaring := hv.valid.declaring he hm
  obtain ⟨e', he', hlt⟩ := hv.static_slot_lt halong hstatic hi
  rw [← hs he'] at hlt
  obtain ⟨setter, t', hsetter, hwritten, hset⟩ :=
    hv.static_setter native halong hstatic hi hlt receiver v
  rw [hdeclaring] at hlt hwritten
  refine ⟨hv.readSlot?_of_writeSlot? halong hi, setter, hsetter, ?_⟩
  rw [hset]
  by_cases hfits : v.isAssignableTo m.valueType (reg.isValueType m.valueType) = true
  · -- the value fits, so the slot is written
    rw [if_pos hfits]
    refine ⟨⟨fun _ => hfits, fun _ => ⟨t', rfl⟩⟩, fun t ht => ?_⟩
    cases ht
    exact hv.staticStored he hlt hwritten
  · -- the value does not fit, and the setter fails
    rw [if_neg hfits]
    exact ⟨⟨nofun, fun h => absurd h hfits⟩, nofun⟩

/-! ### An example -/

/-- A value type, a type with a static property of it, and two types that derive from the latter, of
which the first one declares a static property of the same name. -/
def tokenRegistry : Session :=
  let at64 : MemberSpec :=
    .property { name := "at", type := ⟨64⟩, isStatic := true, body := .auto false }
  let s := (({} : Session).step (.register
    { name := "Point", isValueType := true
      members := [.field { name := "x", type := TypeId.int }] })).2
  let s := (s.step (.register { name := "Token", members := [at64] })).2
  let s := (s.step (.register { name := "Left", base := ⟨65⟩, members := [at64] })).2
  (s.step (.register { name := "Right", base := ⟨65⟩ })).2

/-- The session's store with a wrapper of the value type. -/
def tokenState : State where
  store := { tokenRegistry.state.store with cells := [[.int 7]] }

/-- The static property of the given type. -/
def staticProperty (declaring : TypeId) : Member where
  name := "at"
  declaring
  isStatic := true
  visibility := .everywhere
  params := []
  valueType := ⟨64⟩
  isSynthesized := false
  body := .property (some (.slot 0)) (some (.slot 0))

/-- The wrapper is written through the one type, and its copy is read through the other. The
property of the same name is as it was. -/
theorem Populated.set_get_static_token : ∃ setter getter other t,
    Populated tokenRegistry.registry tokenRegistry.state.store ∧
    Setter.ofMember tokenRegistry.registry ⟨66⟩ (staticProperty ⟨65⟩) = .ok setter ∧
    Getter.ofMember tokenRegistry.registry ⟨67⟩ (staticProperty ⟨65⟩) = .ok getter ∧
    Getter.ofMember tokenRegistry.registry ⟨66⟩ (staticProperty ⟨66⟩) = .ok other ∧
    setter.run tokenRegistry.binder.toContext .null (.wrapped pointShape 0) tokenState =
      .ok () t ∧
    getter.run tokenRegistry.binder.toContext .null t = .ok (.struct pointShape [.int 7]) t ∧
    answer (other.run tokenRegistry.binder.toContext .null t) =
      answer (other.run tokenRegistry.binder.toContext .null tokenState) := by
  have h : Populated tokenRegistry.registry tokenRegistry.state.store :=
    (((Populated.start.step_register (by decide)).step_register (by decide)).step_register
      (by decide)).step_register (by decide)
  have hleft : tokenRegistry.registry.Under ⟨66⟩ ⟨65⟩ := ⟨_, rfl, by decide⟩
  have hright : tokenRegistry.registry.Under ⟨67⟩ ⟨65⟩ := ⟨_, rfl, by decide⟩
  have hself : tokenRegistry.registry.Under ⟨66⟩ ⟨66⟩ := ⟨_, rfl, by decide⟩
  have hown : tokenRegistry.registry.Along ⟨66⟩ (staticProperty ⟨66⟩) :=
    h.settled.along hself rfl (List.mem_cons_of_mem _ List.mem_cons_self)
  obtain ⟨e, he, hm⟩ : ∃ e, tokenRegistry.registry.get? ⟨65⟩ = some e ∧
      staticProperty ⟨65⟩ ∈ e.members := by
    refine ⟨_, rfl, ?_⟩
    exact List.mem_cons_of_mem _ List.mem_cons_self
  have hid : e.id = ⟨65⟩ := h.settled.valid.id he
  obtain ⟨hread, setter, hsetter, hset, hstored⟩ := h.set_get_static (hid ▸ he) hm rfl rfl
    (hid ▸ hleft) tokenRegistry.binder.native (s := tokenState)
    (fun hd => h.settled.archive.statics hd) .null (.wrapped pointShape 0)
  obtain ⟨t, ht⟩ := hset.mpr rfl
  have hstored := hstored t ht
  obtain ⟨getter, hgetter, hrun⟩ := hstored.getter (hid ▸ hright) hm rfl hread
  obtain ⟨other, hother, hsame⟩ := hstored.others hown rfl fun _ hne => by
    rw [hid] at hne
    cases hne
  exact ⟨setter, getter, other, t, h, hsetter, hgetter, hother, ht, hrun .null, hsame .null⟩

end Registry

end LateBinding
