import LateBinding.Proofs.Invoker.Access
import LateBinding.Proofs.Lookup.Fields
import LateBinding.Proofs.Registry.Consistent
import LateBinding.Proofs.Registry.Populated
import LateBinding.Proofs.Session.CutOff

/-!
# Fields by search and by layout

Native code that a type declares reads a field of its receiver by the layout of this type, and
everyone else asks for the getter of the field. As long as nothing is unloaded, a getter that is
answered reads the slot that the layout means, of every instance of the type or of one that derives
from it; where no field is found the layout has no such slot; and otherwise the question is
ambiguous.

Main statement: `getter_agrees`.
-/

namespace LateBinding

open Run

/-! ### Instances -/

/-- The value is an instance of a known type: a copy or a wrapper of a value type, an object of any
other type, and it has the slots of the type. -/
structure Store.HasInstance (st : Store) (reg : Registry) (shape : Shape) (v : Value) : Prop where
  shape?_eq : v.shape? = some shape
  known : reg.HasShape shape
  value : v.isValueTypeInstance = shape.isValueType
  slots : ∃ slots, st.slots? v = some slots ∧ slots.length = shape.slotNames.length

namespace Registry

variable {reg : Registry} {st₀ st : Store} {type : TypeId} {d : Descriptor} {v : Value}
  {shape : Shape} {i : Nat}

lemma Settled.nameOf_eq (hv : Settled reg st) (hd : reg.get? type = some d) :
    reg.nameOf type = d.name := by
  have hany : type ≠ TypeId.any := by
    rintro rfl
    rw [hv.valid.builtin rfl] at hd
    cases hd
  rw [nameOf, if_neg hany, hd]

/-- A copy or a wrapper is an instance of no type but its own and the root. -/
lemma isAssignableTo_of_derivesFrom (hr : reg.Consistent) (h : st.HasInstance reg shape v)
    (hderives : shape.derivesFrom type = true) (isValueType : Bool) :
    v.isAssignableTo type isValueType = true := by
  obtain ⟨e, he, rfl⟩ := h.known
  have hvalue : e.isValueType = true → type = e.id ∨ type = TypeId.object := by
    intro hvalue
    rw [Shape.derivesFrom, hr.value he hvalue, List.contains_iff_mem] at hderives
    simpa using hderives
  have hshape := h.shape?_eq
  have hkind := h.value
  cases v with
  | object s r =>
    cases hshape
    simp [Value.isAssignableTo, hderives]
  | struct s fields =>
    cases hshape
    rcases hvalue hkind.symm with rfl | rfl <;> simp [Value.isAssignableTo, Value.typeId]
  | wrapped s r =>
    cases hshape
    rcases hvalue hkind.symm with rfl | rfl <;> simp [Value.isAssignableTo, Value.typeId]
  | _ => cases hshape

lemma check_of_derivesFrom (hr : reg.Consistent) (h : st.HasInstance reg shape v)
    (hderives : shape.derivesFrom type = true) (hid : d.id = type) :
    (ReceiverGuard.ofType d).check v = .ok () := by
  have hnull : v.isNull = false := by
    have hshape := h.shape?_eq
    cases v with
    | null => cases hshape
    | _ => rfl
  have hassignable := isAssignableTo_of_derivesFrom hr h hderives d.isValueType
  rw [ReceiverGuard.check, hnull, ReceiverGuard.ofType, hid, hassignable]
  rfl

/-- An instance has the slots of all types that its own type derives from. -/
lemma exists_readSlot (hv : Settled reg st₀) (h : st.HasInstance reg shape v)
    (hderives : shape.derivesFrom type = true) (hd : reg.get? type = some d)
    (hi : i < d.slotNames.length) : ∃ w, st.readSlot v i = .ok w := by
  obtain ⟨e, he, rfl⟩ := h.known
  obtain ⟨slots, hslots, hlength⟩ := h.slots
  obtain ⟨farther, hc, hlaid⟩ := hv.archive.laidOut he
  obtain ⟨rest, hc', -⟩ := hv.archive.laidOut hd
  have hend := hv.archive.chain_of_ancestor he (List.contains_iff_mem.mp hderives) hc hc'
  have hlt : i < slots.length := by
    rw [hlength]
    exact Nat.lt_of_lt_of_le hi (hlaid.within hend).2.1.length_le
  refine ⟨slots[i], ?_⟩
  simp only [Store.readSlot, hslots, List.getElem?_eq_getElem hlt]
  rfl

end Registry

lemma Store.readFieldOf_of_slot? {st : Store} {shape : Shape} {name : String} {i : Nat}
    (h : shape.slot? name = some i) (v : Value) :
    st.readFieldOf shape v name = st.readSlot v i := by
  rw [readFieldOf, Shape.fieldSlot, h]
  rfl

lemma Store.readFieldOf_of_slot?_eq_none {st : Store} {shape : Shape} {name : String}
    (h : shape.slot? name = none) (v : Value) :
    st.readFieldOf shape v name = .error (.notFound .field name shape.name) := by
  rw [readFieldOf, Shape.fieldSlot, h]
  rfl

/-- By its own type, a value is read as native code of this type reads it. -/
lemma Store.readField_eq {st : Store} {v : Value} {shape : Shape} (h : v.shape? = some shape)
    (name : String) : st.readField v name = st.readFieldOf shape v name := by
  rw [readField, Value.fieldSlot, h, readFieldOf]

/-- An instance of the type itself carries the layout of the type. -/
lemma Store.HasInstance.readField_eq {reg : Registry} {st : Store} {shape : Shape} {v : Value}
    {type : TypeId} {d : Descriptor} (h : st.HasInstance reg shape v)
    (hd : reg.get? type = some d) (htype : shape.id = type) (name : String) :
    st.readField v name = st.readFieldOf d.toShape v name := by
  subst htype
  obtain ⟨e, he, rfl⟩ := h.known
  obtain rfl := Option.some.inj (hd.symm.trans he)
  exact Store.readField_eq h.shape?_eq name

namespace Session

variable {gone : List TypeId} {s : Session} {type : TypeId} {d : Descriptor} {name : String}

/-- As long as nothing is unloaded, every chain is known as a whole and the tables are
consistent. What a store is like beside its identifiers does not matter. -/
lemma Reached.exists_settled (h : Reached gone s) (hgone : gone = []) :
    ∃ st, st.nextType = s.state.store.nextType ∧ Registry.Settled s.registry st ∧
      s.registry.Consistent := by
  induction h with
  | start config => exact ⟨{}, rfl, .initial, Registry.consistent_initial⟩
  | @register gone s s' spec type h hspec hs ih =>
    obtain ⟨st, hnext, hsettled, hconsistent⟩ := ih hgone
    obtain ⟨reg', st', hr, rfl⟩ := register_eq_ok hs
    obtain ⟨store', hr', hnext'⟩ := Registry.register_congr hnext hr
    obtain ⟨rfl, -, base, d, hadmitted⟩ := Registry.admitted_of_register hr'
    exact ⟨store', hnext', hsettled.register (hnext ▸ hspec) hr',
      hadmitted.consistent hsettled.valid hconsistent⟩
  | unload => cases hgone
  | @request gone s h r ih =>
    obtain ⟨st, hnext, hsettled, hconsistent⟩ := ih hgone
    refine ⟨st, hnext.trans (h.sound.nextType_run r).symm, ?_⟩
    rw [run_snd]
    exact ⟨hsettled, hconsistent⟩
  | @outside gone s h change hchange ih =>
    obtain ⟨st, hnext, hsettled, hconsistent⟩ := ih hgone
    have hle : st.nextType.code ≤ (change s.state.store).nextType.code := hnext ▸ hchange
    -- outside, identifiers may be handed out; all else that matters is in the registry
    refine ⟨{ st with nextType := (change s.state.store).nextType }, rfl,
      ⟨⟨?_, ?_, ?_, ?_⟩, ?_, ?_⟩, hconsistent⟩
    · exact hsettled.valid.mono hle
    · exact hsettled.archive.known
    · exact hsettled.archive.laidOut
    · exact hsettled.archive.statics
    · exact hsettled.closed.mono hle
    · exact hsettled.ordered

/-- Whatever has been asked before, the getter of a field without twins is the one that is made for
it now. -/
lemma Sound.answer_getter (hs : Sound gone s) {m : Member} {i : Nat}
    (hd : s.registry.get? type = some d) (hfind : s.registry.find type (.ofField name) = .ok m)
    (hsole : s.registry.Sole m) (hinstance : m.isStatic = false) (hi : m.fieldSlot? = some i) :
    (s.run fun b => b.getter type (.single .field) name .instanceAny).1.map Stamped.value =
      .ok ⟨some (.ofType d), .place (.receiver i)⟩ := by
  have hdeclares := hs.valid.declares_of_find hfind
  obtain ⟨e, he, -⟩ := id hdeclares
  have hread : m.readSlot? = some i := by
    rw [Member.fieldSlot?] at hi
    rw [Member.readSlot?]
    split at hi <;> simp_all
  obtain ⟨s', hs', -, hobtain⟩ := Binder.obtain_eq hs.caches.lookups (q := .ofField name) trivial
    hfind s.config s.binder.native .getter
  have hgot := (hs.caches.invokers.congr hs'.memo).answer_fetch .getter type hs.valid hdeclares
    hsole (Or.inr fun _ => rfl)
  have hmade : Getter.ofMember s.registry type m =
      .ok ⟨some (.ofType d), .place (.receiver i)⟩ := by
    rw [Getter.ofMember_of_readSlot? hd he (hs.valid.id he) hread, Member.receiverGuard?,
      Member.place, hinstance]
    rfl
  rw [run_fst]
  refine Eq.trans ?_ (hgot.trans hmade)
  exact congrArg (fun r => (answer r).map Stamped.value) hobtain

lemma Sound.answer_getter_of_error (hs : Sound gone s) {e : Fault}
    (hfind : s.registry.find type (.ofField name) = .error e) :
    (s.run fun b => b.getter type (.single .field) name .instanceAny).1 = .error e := by
  have hmember := hs.member_fails_of_find (q := .ofField name) trivial hfind
  obtain ⟨t, ht⟩ := hmember.bind fun m =>
    Run.fetch .getters (.ofMember type m) fun _ => Getter.ofMember s.registry type m
  rw [run_fst]
  exact congrArg answer ht

/-- Whatever has been asked before: a getter that is answered for a field of a type gives, for every
instance of the type or of one that derives from it, what native code of the type reads there under
the name, also if the name is declared anew further down. If no field is found, native code finds
none either. For the instances of the type itself the same holds of what is read by their own
layout. Beside these there are only ambiguous questions. -/
theorem getter_agrees (h : Reached [] s) (hd : s.registry.get? type = some d) (name : String) :
    let asked := (s.run fun b => b.getter type (.single .field) name .instanceAny).1
    (∀ g, asked = .ok g → ∀ (ctx : Context) (t : State) (v : Value) (shape : Shape),
      t.store.HasInstance s.registry shape v → shape.derivesFrom type = true →
        ∃ w, g.value.run ctx v t = .ok w t ∧ t.store.readFieldOf d.toShape v name = .ok w ∧
          (shape.id = type → t.store.readField v name = .ok w)) ∧
    ∀ e, asked = .error e →
      (e = .notFound (.member (.single .field)) name d.name ∧
        ∀ (st : Store) (v : Value) (shape : Shape), st.HasInstance s.registry shape v →
          shape.derivesFrom type = true →
            st.readFieldOf d.toShape v name = .error (.notFound .field name d.name) ∧
              (shape.id = type → st.readField v name = .error (.notFound .field name d.name))) ∨
      ∃ n, e = .ambiguous (.single .field) name d.name n := by
  intro asked
  obtain ⟨st₀, -, hv, hconsistent⟩ := h.exists_settled rfl
  obtain ⟨farther, hc, hlaid⟩ := hv.archive.laidOut hd
  rcases Registry.find_ofField h.sound.valid hc hlaid name with
    ⟨m, i, hfind, hsole, hstatic, hi, hslot⟩ | ⟨hfind, hslot⟩ | ⟨n, hfind⟩
  · -- there is a field, and the getter reads the slot that the name stands for
    have hasked := h.sound.answer_getter hd hfind hsole hstatic hi
    refine ⟨fun g hg ctx t v shape hinstance hderives => ?_, fun e he => ?_⟩
    · have hvalue : g.value = ⟨some (.ofType d), .place (.receiver i)⟩ := by
        change asked.map Stamped.value = _ at hasked
        rw [hg] at hasked
        exact Except.ok.inj hasked
      obtain ⟨w, hw⟩ := Registry.exists_readSlot hv hinstance hderives hd (lastIndex?_lt hslot)
      have hread := (Store.readFieldOf_of_slot? hslot v).trans hw
      refine ⟨w, ?_, hread, fun hid => (hinstance.readField_eq hd hid name).trans hread⟩
      have hcheck := Registry.check_of_derivesFrom hconsistent hinstance hderives (hv.valid.id hd)
      rw [hvalue, Getter.run_eq hcheck, hw]
      rfl
    · change asked.map Stamped.value = _ at hasked
      rw [he] at hasked
      cases hasked
  · -- there is none, for the search as for the list of slot names
    have hasked := h.sound.answer_getter_of_error hfind
    rw [hv.nameOf_eq hd] at hasked
    refine ⟨fun g hg => ?_, fun e he => Or.inl ?_⟩
    · cases hg.symm.trans hasked
    · cases he.symm.trans hasked
      refine ⟨rfl, fun st v shape hinstance _ => ?_⟩
      have hread : st.readFieldOf _ v _ = _ := Store.readFieldOf_of_slot?_eq_none hslot v
      exact ⟨hread, fun hid => (hinstance.readField_eq hd hid _).trans hread⟩
  · -- one type declares several fields of the name
    have hasked := h.sound.answer_getter_of_error hfind
    rw [hv.nameOf_eq hd] at hasked
    refine ⟨fun g hg => ?_, fun e he => Or.inr ⟨n, ?_⟩⟩
    · cases hg.symm.trans hasked
    · exact Except.error.inj (he.symm.trans hasked)

/-! ### A field that is declared anew -/

/-- A type with a field, and a type that derives from it and declares the name of the field anew. An
instance of the latter has been made. -/
def shadowedSession : Session :=
  let s := (({} : Session).step (.register
    { name := "Base", members := [.field { name := "x", type := TypeId.int }] })).2
  let s := (s.step (.register
    { name := "Derived", base := ⟨64⟩
      members := [.field { name := "x", type := TypeId.string }] })).2
  (s.run fun b => (Request.create ⟨65⟩ none []).perform b).2

def shadowingShape : Shape :=
  ⟨⟨65⟩, "Derived", some ⟨64⟩, false, [⟨65⟩, ⟨64⟩, TypeId.object], ["x", "x"], []⟩

lemma reached_shadowedSession : Reached [] shadowedSession :=
  (((Reached.start {}).step_register (by decide)).step_register (by decide)).request
    (.create ⟨65⟩ none [])

lemma hasInstance_shadowedSession : shadowedSession.state.store.HasInstance
    shadowedSession.registry shadowingShape (.object shadowingShape 0) :=
  ⟨rfl, ⟨_, rfl, rfl⟩, rfl, _, rfl, rfl⟩

/-- The getter of the base and native code of the base read the inherited field of the instance,
which by its own layout has another field of this name. -/
theorem getter_agrees_shadowedSession : ∃ d g,
    Reached [] shadowedSession ∧ shadowedSession.registry.get? ⟨64⟩ = some d ∧
    (shadowedSession.run fun b => b.getter ⟨64⟩ (.single .field) "x" .instanceAny).1 = .ok g ∧
    g.value.run shadowedSession.binder.toContext (.object shadowingShape 0)
      shadowedSession.state = .ok (.int 0) shadowedSession.state ∧
    shadowedSession.state.store.readFieldOf d.toShape (.object shadowingShape 0) "x" =
      .ok (.int 0) ∧
    shadowedSession.state.store.readField (.object shadowingShape 0) "x" = .ok .null := by
  obtain ⟨hanswered, -⟩ := getter_agrees reached_shadowedSession
    (rfl : shadowedSession.registry.get? ⟨64⟩ = some _) "x"
  obtain ⟨w, hrun, hread, -⟩ := hanswered _ rfl shadowedSession.binder.toContext
    shadowedSession.state _ _ hasInstance_shadowedSession rfl
  have hzero : w = .int 0 := Except.ok.inj (hread.symm.trans rfl)
  subst hzero
  exact ⟨_, _, reached_shadowedSession, rfl, rfl, hrun, hread, rfl⟩

end Session

end LateBinding
