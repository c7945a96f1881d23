import LateBinding.Proofs.Run.Scripts
import LateBinding.Session

/-!
# Histories of a session

What can happen to a session, one step after the other: types are registered and unloaded, the
binder is asked, and the world outside changes the store. A type that is registered can name only
identifiers that have been handed out, since nobody can know any other.
-/

namespace LateBinding

/-! ### Requests -/

/-- What may be asked of the binder. -/
inductive Request where
  | resolve (type : TypeId) (kinds : KindSet) (name : String) (flags : Flags)
      (params : Option (List Param))
  | resolveAll (type : TypeId) (kinds : KindSet) (name : Option String) (flags : Flags)
      (params : Option (List Param))
  | get (subject : Subject) (kinds : KindSet) (name : String) (flags : Option Flags)
  | set (subject : Subject) (kinds : KindSet) (name : String) (new : Value)
      (flags : Option Flags)
  | setAll (subject : Subject) (values : List (String × Value)) (flags : Option Flags)
  | call (subject : Subject) (name : String) (params : Option (List Param))
      (arguments : List Value)
  | create (type : TypeId) (params : Option (List Param)) (arguments : List Value)
  | getAt (receiver : Value) (indices : List Value)
  | setAt (receiver : Value) (indices : List Value) (new : Value)
  | copy (source target : Value) (o : CopyOptions)
  | getter (type : TypeId) (kinds : KindSet) (name : String) (flags : Flags)
  | setter (type : TypeId) (kinds : KindSet) (name : String) (flags : Flags)
  | method (type : TypeId) (name : String) (params : List Param) (flags : Flags)
  | constructor (type : TypeId) (params : List Param)
  /-- Runs an invoker that somebody has kept, and likewise below. -/
  | useGetter (g : Getter) (receiver : Value)
  | useSetter (s : Setter) (receiver new : Value)
  | useMethod (m : Method) (receiver : Value) (arguments : List Value)
  | useConstructor (c : Construction) (arguments : List Value)

/-- What the binder answers. -/
inductive Answer where
  | done
  | member (m : Member)
  | members (ms : List Member)
  | value (v : Value)
  | call (result : Value) (arguments : List Value)
  | getter (g : Stamped Getter)
  | setter (s : Stamped Setter)
  | method (m : Stamped Method)
  | constructor (c : Stamped Construction)

/-- The signature that an optional parameter list asks for. -/
def Signature.ofParams : Option (List Param) → Signature
  | some params => .exact params
  | none => .any

lemma Signature.ofParams_ofRequest (params : Option (List Param)) :
    (Signature.ofParams params).OfRequest := by
  cases params <;> trivial

/-- Asks the binder. -/
def Request.perform (b : Binder) : Request → Run Answer
  | resolve type kinds name flags params => do
    pure (.member (← b.member type { kinds, name, flags, signature := .ofParams params }))
  | resolveAll type kinds name flags params => do
    pure (.members (← Run.ofExcept
      (b.registry.findAll type { kinds, name, flags, signature := .ofParams params })))
  | get subject kinds name flags => do
    pure (.value (← b.get subject kinds name flags))
  | set subject kinds name new flags => do
    b.set subject kinds name new flags
    pure .done
  | setAll subject values flags => do
    b.setAll subject values flags
    pure .done
  | call subject name params arguments => do
    let (result, arguments) ← b.call subject name params arguments
    pure (.call result arguments)
  | create type params arguments => do
    let (made, arguments) ← b.create type params arguments
    pure (.call made arguments)
  | getAt receiver indices => do
    pure (.value (← b.getAt receiver indices))
  | setAt receiver indices new => do
    b.setAt receiver indices new
    pure .done
  | copy source target o => do
    b.copy source target o
    pure .done
  | getter type kinds name flags => do
    pure (.getter (← b.getter type kinds name flags))
  | setter type kinds name flags => do
    pure (.setter (← b.setter type kinds name flags))
  | method type name params flags => do
    pure (.method (← b.method type name (.exact params) flags))
  | constructor type params => do
    pure (.constructor (← b.constructor type (.exact params)))
  | useGetter g receiver => do
    pure (.value (← g.run b.toContext receiver))
  | useSetter s receiver new => do
    s.run b.toContext receiver new
    pure .done
  | useMethod m receiver arguments => do
    let (result, arguments) ← m.run b.toContext receiver arguments
    pure (.call result arguments)
  | useConstructor c arguments => do
    let (made, arguments) ← c.run b.toContext arguments
    pure (.call made arguments)

/-- Whether the request asks for an invoker. -/
def Request.forInvoker : Request → Bool
  | getter .. => true
  | setter .. => true
  | method .. => true
  | constructor .. => true
  | _ => false

/-- The answer without the number of the store that has made the invoker. -/
def Answer.unstamped : Answer → Answer
  | getter g => getter ⟨g.value, 0⟩
  | setter s => setter ⟨s.value, 0⟩
  | method m => method ⟨m.value, 0⟩
  | constructor c => constructor ⟨c.value, 0⟩
  | a => a

namespace Harmony

variable {reg : Registry} {config : Config} {r₁ r₂ : Bool} {R : Bond}
  (hR : Harmony reg config r₁ r₂ R)
include hR

/-- In harmony every request goes in step that does not ask for an invoker. -/
lemma perform {r : Request} (hr : r.forInvoker = false) :
    Binder.InStep reg config r₁ r₂ R fun b => r.perform b := by
  intro n₁ n₂ hn
  cases r with
  | resolve type kinds name flags params =>
    exact (hR.member n₁ n₂ type _ (Signature.ofParams_ofRequest params)).bind
      fun _ _ => .pure trivial
  | resolveAll type kinds name flags params =>
    exact (Run.InStep.ofExcept _).bind fun _ _ => .pure trivial
  | get subject kinds name flags =>
    exact (hR.toConcord.get subject kinds name flags n₁ n₂ hn).bind fun _ _ => .pure trivial
  | set subject kinds name new flags =>
    exact (hR.toConcord.set subject kinds name new flags n₁ n₂ hn).bind fun _ _ => .pure trivial
  | setAll subject values flags =>
    exact (hR.setAll subject values flags n₁ n₂ hn).bind fun _ _ => .pure trivial
  | call subject name params arguments =>
    exact (hR.toConcord.call subject name params arguments n₁ n₂ hn).bind fun _ _ => .pure trivial
  | create type params arguments =>
    exact (hR.toConcord.create type params arguments n₁ n₂ hn).bind fun _ _ => .pure trivial
  | getAt receiver indices =>
    exact (hR.getAt receiver indices n₁ n₂ hn).bind fun _ _ => .pure trivial
  | setAt receiver indices new =>
    exact (hR.setAt receiver indices new n₁ n₂ hn).bind fun _ _ => .pure trivial
  | copy source target o =>
    exact (hR.copy source target o n₁ n₂ hn).bind fun _ _ => .pure trivial
  | useGetter g receiver =>
    exact (g.run_inStep (hR.contexts reg hn) (fun _ _ => trivial) receiver).bind
      fun _ _ => .pure trivial
  | useSetter s receiver new =>
    exact (s.run_inStep (hR.contexts reg hn) (fun _ _ => trivial) receiver new).bind
      fun _ _ => .pure trivial
  | useMethod m receiver arguments =>
    exact (m.run_inStep (hR.contexts reg hn) (fun _ _ => trivial) receiver arguments).bind
      fun _ _ => .pure trivial
  | useConstructor c arguments =>
    exact (c.run_inStep (hR.contexts reg hn) (fun _ _ => trivial) arguments).bind
      fun _ _ => .pure trivial
  | _ => cases hr

/-- In harmony every request goes in step, up to the numbers in its answer. -/
lemma perform_unstamped (r : Request) :
    Binder.InStep reg config r₁ r₂ R fun b => Answer.unstamped <$> r.perform b := by
  intro n₁ n₂ hn
  cases hr : r.forInvoker with
  | false => exact (hR.perform hr n₁ n₂ hn).map Answer.unstamped
  | true =>
    cases r with
    | getter type kinds name flags =>
      simp only [Request.perform, map_bind, map_pure]
      exact hR.toConcord.served n₁ n₂ (.getter type kinds name flags)
        (Q := fun _ => True) (f := fun x => pure (Answer.getter ⟨x, 0⟩)) fun _ => .pure trivial
    | setter type kinds name flags =>
      simp only [Request.perform, map_bind, map_pure]
      exact hR.toConcord.served n₁ n₂ (.setter type kinds name flags)
        (Q := fun _ => True) (f := fun x => pure (Answer.setter ⟨x, 0⟩)) fun _ => .pure trivial
    | method type name params flags =>
      simp only [Request.perform, map_bind, map_pure]
      exact hR.toConcord.served n₁ n₂ (.method type name params flags)
        (Q := fun _ => True) (f := fun x => pure (Answer.method ⟨x, 0⟩)) fun _ => .pure trivial
    | constructor type params =>
      simp only [Request.perform, map_bind, map_pure]
      exact hR.toConcord.served n₁ n₂ (.constructor type params)
        (Q := fun _ => True) (f := fun x => pure (Answer.constructor ⟨x, 0⟩)) fun _ => .pure trivial
    | _ => cases hr

end Harmony

/-- Under an accord every request goes in step. -/
lemma Accord.perform {reg : Registry} {config : Config} {r₁ r₂ : Bool}
    {R : Bond} (hR : Accord reg config r₁ r₂ R) (r : Request) :
    Binder.InStep reg config r₁ r₂ R fun b => r.perform b := by
  intro n₁ n₂ hn
  cases hr : r.forInvoker with
  | false => exact hR.toHarmony.perform hr n₁ n₂ hn
  | true =>
    cases r with
    | getter type kinds name flags =>
      exact (hR.getter type kinds name flags n₁ n₂ hn).bind fun _ _ => .pure trivial
    | setter type kinds name flags =>
      exact (hR.setter type kinds name flags n₁ n₂ hn).bind fun _ _ => .pure trivial
    | method type name params flags =>
      exact (hR.method type name _ flags (.method type name params flags) n₁ n₂ hn).bind
        fun _ _ => .pure trivial
    | constructor type params =>
      exact (hR.constructor type _ (.constructor type params) n₁ n₂ hn).bind
        fun _ _ => .pure trivial
    | _ => cases hr

/-! ### Steps -/

/-- What can happen to a session. -/
inductive Step where
  | register (spec : TypeSpec)
  | unload (type : TypeId)
  | request (r : Request)
  /-- The world outside changes the store. It may hand out identifiers. -/
  | outside (change : Store → Store) (h : ∀ st, st.nextType.code ≤ (change st).nextType.code)

/-- What is seen of a step. -/
inductive Outcome where
  | registered (r : Except Fault TypeId)
  | unloaded (r : Except Fault Nat)
  | answered (r : Except Fault Answer)
  | outside

/-- The outcome without the number of entries that were forgotten. -/
def Outcome.withoutCount : Outcome → Outcome
  | unloaded r => unloaded (r.map fun _ => 0)
  | o => o

namespace Session

/-- The session in which the world outside has changed the store. -/
def changeStore (s : Session) (change : Store → Store) : Session :=
  { s with state := { s.state with store := change s.state.store } }

/-- What one step does, and what is seen of it. -/
def step (s : Session) : Step → Outcome × Session
  | .register spec => match s.register spec with
    | .ok (type, s) => (.registered (.ok type), s)
    | .error e => (.registered (.error e), s)
  | .unload type => match s.unload type with
    | .ok (removed, s) => (.unloaded (.ok removed), s)
    | .error e => (.unloaded (.error e), s)
  | .request r =>
    let (answer, s) := s.run fun b => r.perform b
    (.answered answer, s)
  | .outside change _ => (.outside, s.changeStore change)

variable {s : Session}

lemma step_register_of_error {spec : TypeSpec} {e : Fault}
    (h : s.registry.register s.state.store spec = .error e) :
    s.step (.register spec) = (.registered (.error e), s) := by
  rw [step, register, h]
  rfl

lemma step_register_of_ok {spec : TypeSpec} {type : TypeId} {registry : Registry} {store : Store}
    (h : s.registry.register s.state.store spec = .ok (type, registry, store)) :
    s.step (.register spec) =
      (.registered (.ok type), { s with registry, state := { s.state with store } }) := by
  rw [step, register, h]
  rfl

lemma step_unload_of_none {type : TypeId} (h : s.registry.unload type = none) :
    s.step (.unload type) = (.unloaded (.error (.unknownType type)), s) := by
  simp only [step, unload, h]
  rfl

lemma step_unload_of_some {type : TypeId} {registry : Registry}
    (h : s.registry.unload type = some registry) :
    s.step (.unload type) =
      let purged := s.state.caches.purge (registry.descendants type ++ [type])
      (.unloaded (.ok purged.1),
        { s with registry, state := { s.state with caches := purged.2 } }) := by
  simp only [step, unload, h]
  rfl

lemma step_register_cases (s : Session) (spec : TypeSpec) :
    (s.step (.register spec)).2 = s ∨
      ∃ type s', s.register spec = .ok (type, s') ∧ (s.step (.register spec)).2 = s' := by
  rw [step]
  cases s.register spec with
  | error e => exact .inl rfl
  | ok r => exact .inr ⟨r.1, r.2, rfl, rfl⟩

/-- Everything that a step can do: a type is registered or unloaded or the session stays as it is, a
request is carried out, or the world outside changes the store. -/
inductive Takes (s : Session) : Step → Outcome × Session → Prop where
  | notRegistered {spec : TypeSpec} {e : Fault}
      (h : s.registry.register s.state.store spec = .error e) :
      Takes s (.register spec) (.registered (.error e), s)
  | registered {spec : TypeSpec} {type : TypeId} {registry : Registry} {store : Store}
      (h : s.registry.register s.state.store spec = .ok (type, registry, store)) :
      Takes s (.register spec)
        (.registered (.ok type), { s with registry, state := { s.state with store } })
  | notUnloaded {type : TypeId} (h : s.registry.unload type = none) :
      Takes s (.unload type) (.unloaded (.error (.unknownType type)), s)
  | unloaded {type : TypeId} {registry : Registry} {removed : Nat} {caches : Caches}
      (h : s.registry.unload type = some registry)
      (hpurge : s.state.caches.purge (registry.descendants type ++ [type]) = (removed, caches)) :
      Takes s (.unload type)
        (.unloaded (.ok removed), { s with registry, state := { s.state with caches } })
  | request (r : Request) : Takes s (.request r)
      (.answered (s.run fun b => r.perform b).1, (s.run fun b => r.perform b).2)
  | outside (change : Store → Store)
      (h : ∀ st, st.nextType.code ≤ (change st).nextType.code) :
      Takes s (.outside change h) (.outside, s.changeStore change)

lemma takes_step (s : Session) (x : Step) : s.Takes x (s.step x) := by
  cases x with
  | register spec =>
    cases h : s.registry.register s.state.store spec with
    | error e => exact step_register_of_error h ▸ .notRegistered h
    | ok r => exact step_register_of_ok h ▸ .registered h
  | unload type =>
    cases h : s.registry.unload type with
    | none => exact step_unload_of_none h ▸ .notUnloaded h
    | some registry => exact step_unload_of_some h ▸ .unloaded h rfl
  | request r => exact .request r
  | outside change h => exact .outside change h

/-- Takes steps one after the other. -/
def follow (s : Session) : List Step → List Outcome × Session
  | [] => ([], s)
  | x :: xs =>
    let (o, s) := s.step x
    let (os, s) := s.follow xs
    (o :: os, s)

end Session

end LateBinding
