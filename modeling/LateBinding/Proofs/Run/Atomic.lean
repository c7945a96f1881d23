import LateBinding.Proofs.Run.Looks
import LateBinding.Proofs.Run.PlainInvokers
import LateBinding.Proofs.Session.History

/-!
# Runs that fail without a trace

An invoker without a body makes all its demands first and then takes one step: it reads a place, or
writes one, which happens as a whole or not at all. A construction makes its instance before the
last thing that can fail, so a failure may leave a new cell behind, and nobody refers to it.

Main statement: `Request.perform_atomic`.
-/

namespace LateBinding

open Run

variable {α β : Type} {reg : Registry} {P : (c : Category) → c.Item → Prop} {may : Prop}
  {ctx : Context} {receiver new : Value}

/-! ### Rules -/

/-- Between the two stores at most cells have been added, and this only if they may be. -/
def Store.SameButMade (may : Prop) (st st' : Store) : Prop :=
  ∃ made, (made ≠ [] → may) ∧ st' = { st with cells := st.cells ++ made }

lemma Store.SameButMade.of_eq {st st' : Store} (h : st' = st) : st.SameButMade may st' :=
  ⟨[], fun hne => absurd rfl hne, by rw [h, List.append_nil]⟩

/-- If the run fails, the store is as it was, up to new cells if these may be made. -/
def Run.Atomic (reg : Registry) (P : (c : Category) → c.Item → Prop) (may : Prop) (x : Run α) :
    Prop :=
  ∀ s : State, s.caches.Holds reg P → ∀ e t, x s = .error e t → s.store.SameButMade may t.store

namespace Run.Atomic

variable {x : Run α} {Q : α → Prop}

lemma of_looks (h : x.Looks reg P Q) : x.Atomic reg P may := by
  intro s hs e t ht
  have hstore := h.store_eq hs
  rw [ht] at hstore
  exact .of_eq hstore

/-- Whatever is looked up before changes nothing. -/
lemma bind {f : α → Run β} (hx : x.Looks reg P Q) (hf : ∀ a, Q a → (f a).Atomic reg P may) :
    (x >>= f).Atomic reg P may := by
  intro s hs e t ht
  have hend := hx s hs
  cases hxs : x s with
  | error e' s' =>
    rw [hxs] at hend
    cases hend with
    | error hstore _ =>
      cases (bind_eq_of_error hxs).symm.trans ht
      exact .of_eq hstore
  | ok a s' =>
    rw [hxs] at hend
    cases hend with
    | ok hstore hs' hq =>
      rw [← hstore]
      exact hf a hq _ hs' e t ((bind_eq_of_ok hxs).symm.trans ht)

/-- What follows cannot fail. -/
lemma bind_pure (hx : x.Atomic reg P may) (f : α → β) :
    (x >>= fun a => pure (f a)).Atomic reg P may := by
  intro s hs e t ht
  cases hxs : x s with
  | error e' s' =>
    cases (bind_eq_of_error hxs).symm.trans ht
    exact hx s hs _ _ hxs
  | ok a s' => cases (bind_eq_of_ok hxs).symm.trans ht

lemma throw (e : Fault) : Atomic reg P may (MonadExcept.throw e : Run α) :=
  of_looks (Q := fun _ => True) (.throw e)

lemma get_bind {f : State → Run α} (h : ∀ s, (f s).Atomic reg P may) :
    (get >>= f).Atomic reg P may :=
  fun s hs => h s s hs

lemma change (update : Store → Except Fault Store) : (Run.change update).Atomic reg P may := by
  intro s hs e t ht
  rw [Run.change] at ht
  split at ht
  · cases ht
  · cases ht
    exact .of_eq rfl

/-- A step that adds cells may come before all that is looked up. -/
lemma step_bind {step : Store → α × Store} {f : α → Run β} {R : β → Prop}
    (hstep : ∀ st : Store, st.SameButMade may (step st).2) (hf : ∀ a, (f a).Looks reg P R) :
    (Run.step step >>= f).Atomic reg P may := by
  intro s hs e t ht
  have hstore := (hf (step s.store).1).store_eq (s := { s with store := (step s.store).2 }) hs
  change f (step s.store).1 { s with store := (step s.store).2 } = .error e t at ht
  rw [ht] at hstore
  rw [show t.store = _ from hstore]
  exact hstep s.store

end Run.Atomic

/-! ### Invokers without bodies -/

namespace Place

lemma store_atomic (p : Place) (receiver new : Value) (storesValueType : Bool) :
    (p.store ctx receiver new storesValueType).Atomic reg P may := by
  refine .get_bind fun s => ?_
  cases p with
  | receiver slot => exact Atomic.change fun st => st.writeSlot receiver slot _
  | static owner slot => exact .bind (alive_looks owner) fun _ _ => .change _

end Place

lemma Setter.run_atomic {s : Setter} (h : s.Bodiless) (receiver new : Value) :
    (s.run ctx receiver new).Atomic reg P may := by
  obtain ⟨p, haccess⟩ := h
  refine .bind (receive_looks _ receiver s.receiver) fun r _ => ?_
  refine .bind (.ofExcept _) fun _ _ => ?_
  rw [haccess]
  exact p.store_atomic r new _

lemma Method.perform_atomic {m : Method} (h : m.Bodiless) (receiver : Value)
    (arguments : List Value) : (m.perform ctx receiver arguments).Atomic reg P may := by
  rw [perform]
  cases h with
  | @read p hbody =>
    rw [hbody]
    exact .bind_pure (.of_looks (p.read_looks receiver)) _
  | @write p storesValueType hbody =>
    rw [hbody]
    exact .bind_pure (p.store_atomic receiver _ storesValueType) _

lemma Method.run_atomic {m : Method} (h : m.Bodiless) (receiver : Value) (arguments : List Value) :
    (m.run ctx receiver arguments).Atomic reg P may := by
  refine .bind (receive_looks _ receiver m.receiver) fun r _ => ?_
  refine .bind (.ofExcept _) fun _ _ => ?_
  exact .bind_pure (m.perform_atomic h r arguments) _

namespace Construction

variable {c : Construction}

/-- A new object has a cell, and a new copy gets one when it is wrapped. -/
lemma blank_sameButMade (hmay : may) (st : Store) (owner : Descriptor) :
    st.SameButMade may ((st.instantiate owner).2.wrap (st.instantiate owner).1).2 := by
  cases hvalue : owner.isValueType <;> simp only [Store.instantiate, hvalue]
  · exact ⟨[owner.defaults], fun _ => hmay, rfl⟩
  · exact ⟨[owner.defaults], fun _ => hmay, rfl⟩

/-- Once the instance has been made, a type whose descriptor is gone can still make the construction
fail. -/
lemma run_atomic (hn : ctx.native.Idle) (hmay : may) (h : c.Bodiless) (arguments : List Value) :
    (c.run ctx arguments).Atomic reg P may := by
  refine .bind (.ofExcept _) fun _ _ => ?_
  refine .bind (alive_looks c.body.declaring.id) fun _ _ => ?_
  refine .step_bind (R := fun _ => True) (fun st => blank_sameButMade hmay st c.owner)
    fun made => ?_
  refine (inherit_looks hn h.inherited made).bind fun _ _ => ?_
  refine (c.body.run_looks hn h.body made arguments).bind fun _ _ => ?_
  exact .get_bind fun _ => .pure trivial

end Construction

lemma IndexReader.run_atomic {x : IndexReader} (h : ∃ rank, x = .element rank) (receiver : Value)
    (indices : List Value) : (x.run ctx receiver indices).Atomic reg P may := by
  obtain ⟨rank, rfl⟩ := h
  exact .of_looks ((Looks.ofExcept _).bind fun _ _ => .ask _)

lemma IndexWriter.run_atomic {x : IndexWriter} (h : ∃ rank, x = .element rank)
    (receiver : Value) (indices : List Value) (new : Value) :
    (x.run ctx receiver indices new).Atomic reg P may := by
  obtain ⟨rank, rfl⟩ := h
  refine .bind (.ofExcept _) fun ⟨shape, r, offset⟩ _ => ?_
  change Atomic reg P may (if new.isAssignableTo shape.element shape.elementIsValueType then _
    else _)
  split
  · exact .change _
  · exact .throw _

/-! ### Requests -/

namespace Request

/-- The request is about one member: it neither sets several ones nor copies. -/
def Single : Request → Prop
  | setAll _ _ _ | copy _ _ _ => False
  | _ => True

/-- If somebody's own invoker is to be run, it has no body. -/
def Bodiless : Request → Prop
  | useGetter g _ => g.Bodiless
  | useSetter s _ _ => s.Bodiless
  | useMethod m _ _ => m.Bodiless
  | useConstructor c _ => c.Bodiless
  | _ => True

/-- The request is for a new instance. -/
def Makes : Request → Prop
  | create _ _ _ | useConstructor _ _ => True
  | _ => False

/-- Where no known member has a body, a request about one member that fails leaves the store as it
is, up to the cell of an instance that it should have made. -/
lemma perform_atomic (hall : reg.AllBodiless) {native : Native} (hn : native.Idle)
    {config : Config} {r : Request} (hsingle : r.Single) (hbodiless : r.Bodiless) :
    (r.perform (.of reg config native)).Atomic reg Category.Bodiless r.Makes := by
  have hP := hall.built
  cases r with
  | resolve type kinds name flags params =>
    exact .bind_pure (.of_looks (Binder.member_looks (Signature.ofParams_ofRequest params) type)) _
  | resolveAll type kinds name flags params => exact .bind_pure (.of_looks (.ofExcept _)) _
  | get subject kinds name flags =>
    refine .bind_pure (.bind (.ofExcept _) fun type _ => ?_) _
    exact .bind (Binder.getter_looks hP type kinds name _) fun g hg =>
      .of_looks (g.value.run_looks hg subject.receiver)
  | set subject kinds name new flags =>
    refine .bind_pure (.bind (.ofExcept _) fun type _ => ?_) _
    exact .bind (Binder.setter_looks hP type kinds name _) fun s hs =>
      s.value.run_atomic hs subject.receiver new
  | setAll => exact hsingle.elim
  | call subject name params arguments =>
    refine .bind_pure (.bind (.ofExcept _) fun type htype => ?_) _
    exact .bind (Binder.method_looks hP (.ofCall htype name params arguments)) fun m hm =>
      m.value.run_atomic hm subject.receiver arguments
  | create type params arguments =>
    refine .bind_pure ?_ _
    exact .bind (Binder.constructor_looks hP (.ofCreate type params arguments)) fun c hc =>
      c.value.run_atomic hn trivial hc arguments
  | getAt receiver indices =>
    refine .bind_pure ?_ _
    exact .bind (Binder.indexReader_looks hP receiver indices) fun x hx =>
      x.value.run_atomic hx receiver indices
  | setAt receiver indices new =>
    refine .bind_pure ?_ _
    exact .bind (Binder.indexWriter_looks hP receiver indices) fun x hx =>
      x.value.run_atomic hx receiver indices new
  | copy => exact hsingle.elim
  | getter type kinds name flags =>
    exact .bind_pure (.of_looks (Binder.getter_looks hP type kinds name flags)) _
  | setter type kinds name flags =>
    exact .bind_pure (.of_looks (Binder.setter_looks hP type kinds name flags)) _
  | method type name params flags =>
    exact .bind_pure (.of_looks (Binder.method_looks hP (.method type name params flags))) _
  | constructor type params =>
    exact .bind_pure (.of_looks (Binder.constructor_looks hP (.constructor type params))) _
  | useGetter g receiver => exact .bind_pure (.of_looks (g.run_looks hbodiless receiver)) _
  | useSetter s receiver new => exact .bind_pure (s.run_atomic hbodiless receiver new) _
  | useMethod m receiver arguments => exact .bind_pure (m.run_atomic hbodiless receiver arguments) _
  | useConstructor c arguments =>
    exact .bind_pure (c.run_atomic hn trivial hbodiless arguments) _

end Request

end LateBinding
