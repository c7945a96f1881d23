import Mathlib.Data.List.Nodup
import LateBinding.Invoker.Run
import LateBinding.Proofs.Run.InStep

/-!
# Calls in place

A caller hands over a list of arguments and keeps it. The call gives the body a copy of the list,
and when the body has succeeded, what it has left there is written to the caller's list at the
positions that are passed by reference, one by one. So much can go wrong on the way: the list could
be left half written, or a position could be out of range because the body has left fewer arguments
than it got. It does not: the calls in place end as those that give a new list of arguments.

Main statements: `Method.runInPlace_eq` and `Construction.runInPlace_eq`.
-/

namespace LateBinding

open Run

variable {α σ : Type} {params : List Param} {arguments left after : List Value} {p : Param}
  {i : Nat} {positions : List Nat} {s s' : State} {ctx : Context} {receiver v : Value}

/-! ### Operations on the caller's list -/

/-- An operation that works on the caller's list of arguments and on something else. What it has
changed before a fault stays changed. -/
abbrev InPlaceOn (σ : Type) := EStateM Fault (List Value × σ)

/-- An operation on the caller's list, the store and the caches. -/
abbrev InPlace := InPlaceOn State

namespace InPlace

/-- An operation that leaves the caller's list alone. -/
def lift (x : EStateM Fault σ α) : InPlaceOn σ α := fun (arguments, s) =>
  match x s with
  | .ok a s' => .ok a (arguments, s')
  | .error e s' => .error e (arguments, s')

/-- The caller's list. -/
def given : InPlaceOn σ (List Value) := fun (arguments, s) => .ok arguments (arguments, s)

/-- Sets one of the caller's arguments. -/
def setArgument (i : Nat) (v : Value) : InPlaceOn σ Unit := fun (arguments, s) =>
  if i < arguments.length then
    .ok () (arguments.set i v, s)
  else
    .error (.indexOutOfRange (Int64.ofNat i) arguments.length) (arguments, s)

/-- Writes what is left to the caller's list, position by position, and takes it out where it comes
from. -/
def writeBack : List Nat → List Value → InPlaceOn σ Unit
  | [], _ => pure ()
  | i :: positions, left =>
    match left[i]? with
    | none => throw (.indexOutOfRange (Int64.ofNat i) left.length)
    | some v => do
      setArgument i v
      writeBack positions (left.set i .null)

/-- How a call in place ends where the call ends that gives a new list of arguments. -/
def ends (arguments : List Value) : EStateM.Result Fault σ (Value × List Value) →
    EStateM.Result Fault (List Value × σ) Value
  | .ok (v, after) s => .ok v (after, s)
  | .error e s => .error e (arguments, s)

/-- If both go on alike after a common start, they end alike. -/
lemma lift_bind_eq {x : EStateM Fault σ α} {f : α → InPlaceOn σ Value}
    {g : α → EStateM Fault σ (Value × List Value)} {s : σ}
    (h : ∀ a s', x s = .ok a s' → f a (arguments, s') = ends arguments (g a s')) :
    (lift x >>= f) (arguments, s) = ends arguments ((x >>= g) s) := by
  change EStateM.bind (lift x) f _ = _
  cases hx : x s with
  | ok a s' =>
    have hlift : lift x (arguments, s) = .ok a (arguments, s') := by simp only [lift, hx]
    rw [bind_eq_of_ok hx, EStateM.bind, hlift]
    exact h a s' hx
  | error e s' =>
    have hlift : lift x (arguments, s) = .error e (arguments, s') := by simp only [lift, hx]
    rw [bind_eq_of_error hx, EStateM.bind, hlift]
    rfl

end InPlace

/-! ### Positions -/

/-- The positions that are passed by reference. -/
def refPositions (params : List Param) : List Nat :=
  (params.zipIdx.filter (·.1.byRef)).map (·.2)

lemma mem_refPositions : i ∈ refPositions params ↔ ∃ p, params[i]? = some p ∧ p.byRef = true := by
  simp only [refPositions, List.mem_map, List.mem_filter, Prod.exists, exists_eq_right,
    List.mem_zipIdx_iff_getElem?]

lemma nodup_refPositions (params : List Param) : (refPositions params).Nodup := by
  have hsublist : List.Sublist (refPositions params) (params.zipIdx.map (·.2)) :=
    List.filter_sublist.map _
  refine hsublist.nodup ?_
  rw [List.zipIdx_map_snd]
  exact List.nodup_range'

/-- What the body has left reaches all positions that are passed by reference. -/
def Reaches (params : List Param) (left : List Value) : Prop :=
  ∀ i ∈ refPositions params, i < left.length

/-- How the arguments are after a successful call: of what the body has left, only the positions
that are passed by reference are seen. -/
structure Passed (params : List Param) (arguments left after : List Value) : Prop where
  length : after.length = arguments.length
  byValue : ∀ (i : Nat) (p : Param), params[i]? = some p → p.byRef = false →
    after[i]? = arguments[i]?
  byRef : ∀ (i : Nat) (p : Param), params[i]? = some p → p.byRef = true →
    ∃ v, left[i]? = some v ∧ after[i]? = some v

/-! ### Writing back -/

lemma length_writeBack (params : List Param) (arguments left : List Value) :
    (writeBack params arguments left).length = arguments.length := by
  fun_induction writeBack params arguments left with
  | case1 _ _ _ _ _ _ ih => simp [ih]
  | case2 => rfl

lemma mem_writeBack (h : v ∈ writeBack params arguments left) : v ∈ arguments ∨ v ∈ left := by
  fun_induction writeBack params arguments left with
  | case1 p ps a as l ls ih =>
    rcases List.mem_cons.mp h with rfl | h
    · split
      · exact Or.inr List.mem_cons_self
      · exact Or.inl List.mem_cons_self
    · exact (ih h).imp (List.mem_cons_of_mem a) (List.mem_cons_of_mem l)
  | case2 => exact Or.inl h

lemma getElem?_writeBack_of_byRef_eq_false (hp : params[i]? = some p) (href : p.byRef = false) :
    (writeBack params arguments left)[i]? = arguments[i]? := by
  fun_induction writeBack params arguments left generalizing i with
  | case1 q ps a as l ls ih =>
    cases i with
    | zero =>
      obtain rfl := Option.some.inj hp
      simp [href]
    | succ i => exact ih hp
  | case2 => rfl

lemma getElem?_writeBack_of_byRef_eq_true (hp : params[i]? = some p) (href : p.byRef = true)
    (harguments : i < arguments.length) (hleft : i < left.length) :
    (writeBack params arguments left)[i]? = left[i]? := by
  fun_induction writeBack params arguments left generalizing i with
  | case1 q ps a as l ls ih =>
    cases i with
    | zero =>
      obtain rfl := Option.some.inj hp
      simp [href]
    | succ i => exact ih hp (Nat.lt_of_succ_lt_succ harguments) (Nat.lt_of_succ_lt_succ hleft)
  | case2 ps as ls hnot =>
    cases ps with
    | nil => cases hp
    | cons q ps =>
      cases as with
      | nil => cases harguments
      | cons a as =>
        cases ls with
        | nil => cases hleft
        | cons l ls => exact absurd rfl (hnot q ps a as l ls rfl rfl)

lemma passed_writeBack (hlength : arguments.length = params.length) (hleft : Reaches params left) :
    Passed params arguments left (writeBack params arguments left) where
  length := length_writeBack _ _ _
  byValue := fun _ _ hp href => getElem?_writeBack_of_byRef_eq_false hp href
  byRef := fun i p hp href => by
    have hi := hleft i (mem_refPositions.mpr ⟨p, hp, href⟩)
    have harguments : i < arguments.length := hlength ▸ (List.getElem?_eq_some_iff.mp hp).1
    exact ⟨left[i], List.getElem?_eq_getElem hi,
      (getElem?_writeBack_of_byRef_eq_true hp href harguments hi).trans
        (List.getElem?_eq_getElem hi)⟩

/-- Each position is written once, so that what is written is what was left there at first. -/
lemma InPlace.exists_writeBack (hnodup : positions.Nodup)
    (hrange : ∀ i ∈ positions, i < left.length ∧ i < arguments.length) (s : σ) :
    ∃ after, InPlace.writeBack positions left (arguments, s) = .ok () (after, s) ∧
      ∀ i : Nat, after[i]? = if i ∈ positions then left[i]? else arguments[i]? := by
  induction positions generalizing arguments left with
  | nil => exact ⟨arguments, rfl, by simp⟩
  | cons k positions ih =>
    obtain ⟨hk, hnodup⟩ := List.nodup_cons.mp hnodup
    obtain ⟨hleft, harguments⟩ := hrange k List.mem_cons_self
    have hrange' : ∀ i ∈ positions,
        i < (left.set k .null).length ∧ i < (arguments.set k left[k]).length := by
      simpa using fun i hi => hrange i (List.mem_cons_of_mem _ hi)
    obtain ⟨after, hafter, hget⟩ := ih hnodup hrange'
    refine ⟨after, ?_, fun i => ?_⟩
    · rw [InPlace.writeBack, List.getElem?_eq_getElem hleft]
      change EStateM.bind _ _ _ = _
      rw [EStateM.bind, setArgument, if_pos harguments]
      exact hafter
    · rw [hget i]
      by_cases hik : i = k
      · -- a position comes only once, so what was taken out is not asked for again
        subst hik
        simp [hk, harguments, hleft]
      · simp [hik, List.getElem?_set_ne (Ne.symm hik)]

/-- What is written in place is what is written back all at once. -/
lemma InPlace.writeBack_eq (hlength : arguments.length = params.length)
    (hleft : Reaches params left) (s : σ) :
    InPlace.writeBack (refPositions params) left (arguments, s) =
      .ok () (LateBinding.writeBack params arguments left, s) := by
  have hpassed := passed_writeBack hlength hleft
  have hrange : ∀ i ∈ refPositions params, i < left.length ∧ i < arguments.length := by
    intro i hi
    obtain ⟨p, hp, -⟩ := mem_refPositions.mp hi
    exact ⟨hleft i hi, hlength ▸ (List.getElem?_eq_some_iff.mp hp).1⟩
  obtain ⟨after, hafter, hget⟩ := InPlace.exists_writeBack (nodup_refPositions params) hrange s
  rw [hafter]
  refine congrArg (fun after => EStateM.Result.ok () (after, s)) (List.ext_getElem? fun i => ?_)
  rw [hget i]
  split
  · -- a position that is passed by reference
    rename_i hi
    obtain ⟨p, hp, href⟩ := mem_refPositions.mp hi
    obtain ⟨v, hv, hv'⟩ := hpassed.byRef i p hp href
    rw [hv, hv']
  · -- a position that is passed by value, or none at all
    rename_i hi
    cases hp : params[i]? with
    | none =>
      have hout : arguments.length ≤ i := hlength ▸ List.getElem?_eq_none_iff.mp hp
      rw [List.getElem?_eq_none hout, List.getElem?_eq_none (hpassed.length.symm ▸ hout)]
    | some p =>
      refine (hpassed.byValue i p hp ?_).symm
      by_contra href
      exact hi (mem_refPositions.mpr ⟨p, hp, by simpa using href⟩)

/-! ### Invokers -/

/-- Native bodies may change the arguments that they get, but not how many there are. -/
def Native.KeepsLength (native : Native) : Prop :=
  ∀ body declaring receiver arguments s v left s',
    native body declaring receiver arguments s = .ok (v, left) s' → left.length = arguments.length

lemma Run.ofExcept_eq_ok {x : Except Fault α} {a : α} (h : Run.ofExcept x s = .ok a s') :
    x = .ok a ∧ s' = s := by
  cases x with
  | ok b =>
    cases h
    exact ⟨rfl, rfl⟩
  | error e => cases h

lemma Run.alive_eq_ok {t : TypeId} {u : Unit} (h : Run.alive ctx t s = .ok u s') : s' = s := by
  change (if ctx.registry.isAlive s.store t then _ else _ : Run Unit) s = _ at h
  split at h
  · cases h
    rfl
  · cases h

lemma Run.receive_eq_ok {demand : ReceiverGuard → Value → Except Fault Unit}
    {g : Option ReceiverGuard} (h : Run.receive demand receiver g s = .ok v s') : s' = s := by
  cases g with
  | none =>
    cases h
    rfl
  | some g =>
    obtain ⟨u, t, hguard, hpure⟩ := exists_of_ok h
    cases hpure
    exact (ofExcept_eq_ok hguard).2

/-- A native body that has succeeded was run from the state of the call, and to its end. -/
lemma BoundScript.native_eq_ok {script : BoundScript}
    (h : script.run ctx receiver arguments s = .ok (v, left) s') :
    ctx.native script.body script.declaring receiver arguments s = .ok (v, left) s' := by
  obtain ⟨u, t, halive, hrun⟩ := exists_of_ok h
  rwa [alive_eq_ok halive] at hrun

/-- If the arguments pass, there is one for each parameter. -/
lemma ArgumentsGuard.length_eq {g : ArgumentsGuard} (h : g.check arguments = .ok ()) :
    arguments.length = g.params.length := by
  rw [check] at h
  split at h
  · assumption
  · cases h

lemma reaches_of_length_eq (h : left.length = params.length) : Reaches params left := by
  intro i hi
  obtain ⟨p, hp, -⟩ := mem_refPositions.mp hi
  exact h ▸ (List.getElem?_eq_some_iff.mp hp).1

lemma reaches_of_forall_byValue (h : ∀ p ∈ params, p.byRef = false) (left : List Value) :
    Reaches params left := by
  intro i hi
  obtain ⟨p, hp, href⟩ := mem_refPositions.mp hi
  rw [h p (List.mem_of_getElem? hp)] at href
  cases href

/-- The end of both kinds of calls: what is left is written back, and the result is given. -/
lemma InPlace.writeBack_bind_eq {s : σ} (hlength : arguments.length = params.length)
    (hleft : Reaches params left) (f : Unit → InPlaceOn σ Value) :
    (InPlace.writeBack (refPositions params) left >>= f) (arguments, s) =
      f () (LateBinding.writeBack params arguments left, s) := by
  change EStateM.bind _ _ _ = _
  rw [EStateM.bind, writeBack_eq hlength hleft]

namespace Method

variable {m : Method}

/-- What is known of a new method: there is a guard for each parameter, and only a native body gets
arguments by reference. -/
structure Tidy (m : Method) : Prop where
  length : m.arguments.params.length = m.params.length
  slots : (∃ script, m.body = .native script) ∨ ∀ p ∈ m.params, p.byRef = false

/-- Calls the method on the caller's list. -/
def runInPlace (ctx : Context) (m : Method) (receiver : Value) : InPlace Value := do
  let receiver ← InPlace.lift (Run.receive m.demand receiver m.receiver)
  let arguments ← InPlace.given
  InPlace.lift (Run.ofExcept (m.arguments.check arguments))
  let (result, left) ← InPlace.lift (m.perform ctx receiver arguments)
  InPlace.writeBack (refPositions m.params) left
  pure result

lemma Tidy.reaches (hm : m.Tidy) (hn : ctx.native.KeepsLength)
    (hlength : arguments.length = m.params.length)
    (h : m.perform ctx receiver arguments s = .ok (v, left) s') : Reaches m.params left := by
  rcases hm.slots with ⟨script, hbody⟩ | hvalue
  · rw [perform, hbody] at h
    have hleft := hn _ _ _ _ _ _ _ _ (BoundScript.native_eq_ok h)
    exact reaches_of_length_eq (hleft.trans hlength)
  · exact reaches_of_forall_byValue hvalue left

/-- A call in place ends as the call does: if it fails, the caller's list is as it was, and no
position is out of range when it succeeds. -/
theorem runInPlace_eq (hm : m.Tidy) (hn : ctx.native.KeepsLength) (receiver : Value)
    (arguments : List Value) (s : State) : m.runInPlace ctx receiver (arguments, s) =
      InPlace.ends arguments (m.run ctx receiver arguments s) := by
  refine InPlace.lift_bind_eq fun receiver s₁ _ => ?_
  change (InPlace.lift _ >>= _) (arguments, s₁) = _
  refine InPlace.lift_bind_eq fun _ s₂ hguard => ?_
  obtain ⟨hcheck, rfl⟩ := ofExcept_eq_ok hguard
  refine InPlace.lift_bind_eq fun ⟨v, left⟩ s₃ hperform => ?_
  have hlength := (ArgumentsGuard.length_eq hcheck).trans hm.length
  exact InPlace.writeBack_bind_eq hlength (hm.reaches hn hlength hperform) _

/-- What a successful call gives comes from what the method has done with the arguments. -/
lemma exists_perform (hm : m.Tidy) (hn : ctx.native.KeepsLength)
    (h : m.run ctx receiver arguments s = .ok (v, after) s') : ∃ r left,
      m.perform ctx r arguments s = .ok (v, left) s' ∧ arguments.length = m.params.length ∧
        Passed m.params arguments left after := by
  obtain ⟨r, s₁, hreceive, h₁⟩ := exists_of_ok h
  obtain ⟨_, s₂, hguard, h₂⟩ := exists_of_ok h₁
  obtain ⟨hcheck, hs₂⟩ := ofExcept_eq_ok hguard
  obtain ⟨⟨v', left⟩, s₃, hperform, h₃⟩ := exists_of_ok h₂
  cases h₃
  have hlength := (ArgumentsGuard.length_eq hcheck).trans hm.length
  rw [hs₂, receive_eq_ok hreceive] at hperform
  exact ⟨r, left, hperform, hlength, passed_writeBack hlength (hm.reaches hn hlength hperform)⟩

end Method

namespace Construction

variable {c : Construction}

/-- What is known of a new construction: there is a guard for each parameter. -/
def Tidy (c : Construction) : Prop := c.arguments.params.length = c.params.length

/-- Makes an instance with the arguments on the caller's list. -/
def runInPlace (ctx : Context) (c : Construction) : InPlace Value := do
  let arguments ← InPlace.given
  InPlace.lift (Run.ofExcept (c.arguments.check arguments))
  InPlace.lift (Run.alive ctx c.body.declaring.id)
  let made ← InPlace.lift c.blank
  InPlace.lift (inherit ctx made c.inherited)
  let (_, left) ← InPlace.lift (c.body.run ctx made arguments)
  InPlace.writeBack (refPositions c.params) left
  let st := (← get).2.store
  pure (st.unwrap made)

/-- A construction in place ends as the construction does, also if a constructor of an ancestor
fails. -/
theorem runInPlace_eq (hc : c.Tidy) (hn : ctx.native.KeepsLength) (arguments : List Value)
    (s : State) : c.runInPlace ctx (arguments, s) =
      InPlace.ends arguments (c.run ctx arguments s) := by
  change (InPlace.lift _ >>= _) (arguments, s) = _
  refine InPlace.lift_bind_eq fun _ s₁ hguard => ?_
  obtain ⟨hcheck, rfl⟩ := ofExcept_eq_ok hguard
  refine InPlace.lift_bind_eq fun _ s₂ _ => ?_
  refine InPlace.lift_bind_eq fun made s₃ _ => ?_
  refine InPlace.lift_bind_eq fun _ s₄ _ => ?_
  refine InPlace.lift_bind_eq fun ⟨v, left⟩ s₅ hbody => ?_
  have hlength := (ArgumentsGuard.length_eq hcheck).trans hc
  have hleft := hn _ _ _ _ _ _ _ _ (BoundScript.native_eq_ok hbody)
  exact InPlace.writeBack_bind_eq hlength (reaches_of_length_eq (hleft.trans hlength)) _

/-- What a successful construction gives comes from what the chosen constructor has done with the
arguments. -/
lemma exists_native (hc : c.Tidy) (hn : ctx.native.KeepsLength)
    (h : c.run ctx arguments s = .ok (v, after) s') : ∃ made t result left,
      ctx.native c.body.body c.body.declaring made arguments t = .ok (result, left) s' ∧
        arguments.length = c.params.length ∧ Passed c.params arguments left after := by
  obtain ⟨_, s₁, hguard, h₁⟩ := exists_of_ok h
  obtain ⟨hcheck, -⟩ := ofExcept_eq_ok hguard
  obtain ⟨_, s₂, -, h₂⟩ := exists_of_ok h₁
  obtain ⟨made, s₃, -, h₃⟩ := exists_of_ok h₂
  obtain ⟨_, s₄, -, h₄⟩ := exists_of_ok h₃
  obtain ⟨⟨result, left⟩, s₅, hbody, h₅⟩ := exists_of_ok h₄
  cases h₅
  have hlength := (ArgumentsGuard.length_eq hcheck).trans hc
  have hnative := BoundScript.native_eq_ok hbody
  have hleft := hn _ _ _ _ _ _ _ _ hnative
  exact ⟨made, s₄, result, left, hnative, hlength,
    passed_writeBack hlength (reaches_of_length_eq (hleft.trans hlength))⟩

end Construction

end LateBinding
