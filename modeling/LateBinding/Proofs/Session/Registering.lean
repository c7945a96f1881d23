import LateBinding.Proofs.Invoker.Access
import LateBinding.Proofs.Invoker.Jobs
import LateBinding.Proofs.Session.CutOff
import LateBinding.Proofs.Store.Filled

/-!
# What a registration leaves as it is

Whatever has been asked about identifiers that have been handed out is answered in the same way
after a further registration, no matter whether the types are registered, unloaded or builtin and
whether the answer is a result or a fault. What is remembered therefore never has to be forgotten
because of a registration.

Main statement: `register_keeps_answers`.
-/

namespace LateBinding

open Run

/-! ### States that differ in a new type -/

/-- The states differ at most in the static slots of types that are not below an identifier, and in
the identifier that is handed out next. -/
structure State.AgreesBelow (next : TypeId) (s t : State) : Prop where
  cells : s.store.cells = t.store.cells
  log : s.store.log = t.store.log
  held : s.store.held = t.store.held
  statics : ∀ u, u.code < next.code → s.store.staticsOf u = t.store.staticsOf u
  caches : s.caches = t.caches

lemma State.framed_agreesBelow {next : TypeId} {P : TypeId → Prop}
    (hP : ∀ t, P t → t.code < next.code) : Framed P (AgreesBelow next) where
  cells := fun h => h.cells
  statics := fun h hu => h.statics _ (hP _ hu)
  setCells := fun cells h => ⟨rfl, h.log, h.held, h.statics, h.caches⟩
  setStatics := fun {s t u} slots h hu => by
    refine ⟨h.cells, h.log, h.held, fun v hv => ?_, h.caches⟩
    rw [Store.staticsOf_insert, Store.staticsOf_insert]
    split
    · rfl
    · exact h.statics v hv

lemma Run.framed_eq (P : TypeId → Prop) : Framed P (Eq : State → State → Prop) where
  cells := fun h => by rw [h]
  statics := fun h _ => by rw [h]
  setCells := fun _ h => by rw [h]
  setStatics := fun _ h _ => by rw [h]

/-- Two runs that go in step from every state are the same. -/
lemma Run.InStep.eq {α : Type} {Q : α → Prop} {x y : Run α}
    (h : Run.InStep (Eq : State → State → Prop) Q x y) : x = y := by
  funext s
  have hend := h s s rfl
  generalize x s = r at hend
  generalize y s = r' at hend
  cases hend with
  | ok _ hr => exact congrArg _ hr
  | error hr => exact congrArg _ hr
  | parted h => cases h

lemma Run.InStep.refl {α : Type} (x : Run α) :
    Run.InStep (Eq : State → State → Prop) (fun _ => True) x x := by
  rintro s _ rfl
  cases x s with
  | ok a s => exact .ok trivial rfl
  | error e s => exact .error rfl

lemma Category.Relates.mono {rel rel' : ∀ {α : Type}, Run α → Run α → Prop} {ctx₁ ctx₂ : Context}
    {c : Category} {x : c.Item} (h : c.Relates rel ctx₁ ctx₂ x)
    (hrel : ∀ {α : Type} {x y : Run α}, rel x y → rel' x y) : c.Relates rel' ctx₁ ctx₂ x := by
  cases c with
  | lookups => trivial
  | getters => exact fun receiver => hrel (h receiver)
  | setters => exact fun receiver new => hrel (h receiver new)
  | constructors => exact fun arguments => hrel (h arguments)
  | methods => exact fun receiver arguments => hrel (h receiver arguments)
  | indexReaders => exact fun receiver indices => hrel (h receiver indices)
  | indexWriters => exact fun receiver indices new => hrel (h receiver indices new)
  | batchSetters => exact fun receiver values => hrel (h receiver values)
  | copiers => exact fun source target => hrel (h source target)

/-! ### Known types in two registries -/

namespace Registry

variable {reg reg' : Registry} {next : TypeId}

/-- Known types exist alike in two registries that know the same of them. -/
lemma SameBelow.contexts (h : SameBelow next reg reg') (hv : reg.Valid next) {R : Bond}
    (hR : Framed (fun t => ∃ d, reg.get? t = some d) R) {n₁ n₂ : Native}
    (hn : Native.InStep R n₁ n₂) :
    Context.InStep (fun t => ∃ d, reg.get? t = some d) R ⟨reg, n₁⟩ ⟨reg', n₂⟩ := by
  refine ⟨hR, fun t ht => ?_, hn⟩
  obtain ⟨d, hd⟩ := ht
  have hd' : reg'.get? t = some d := (h t (hv.allocated hd)).trans hd
  have halive : Run.alive ⟨reg, n₁⟩ t = pure () := Run.alive_of_get? hd
  have halive' : Run.alive ⟨reg', n₂⟩ t = pure () := Run.alive_of_get? hd'
  rw [halive, halive']
  exact .pure trivial

lemma newInstance_congr {st st' : Store} (h : st.cells = st'.cells) (t : TypeId) :
    reg.newInstance st t = reg.newInstance st' t := by
  rw [newInstance, newInstance]
  cases reg.known t with
  | error e => rfl
  | ok d =>
    simp only [Store.instantiate, bind, Except.bind]
    split
    · rfl
    · simp only [Store.slots?, Store.cell, Store.nextRef, Store.addCell, h]

end Registry

/-! ### Registering -/

namespace Session

variable {gone : List TypeId} {s s' : Session} {spec : TypeSpec} {type : TypeId}

lemma agreesBelow_register (hs : s.register spec = .ok (type, s')) :
    s.state.AgreesBelow type s'.state := by
  obtain ⟨reg', st', hr, rfl⟩ := register_eq_ok hs
  obtain ⟨rfl, -, base, d, hreg⟩ := Registry.registered_of_register hr
  obtain ⟨_, -, -, -, -, -, rfl⟩ :=
    Registry.register_eq_ok hr ((hreg.get? s.state.store.nextType).trans (if_pos rfl))
  refine ⟨rfl, rfl, rfl, fun u hu => ?_, rfl⟩
  have hne : u ≠ s.state.store.nextType := by
    rintro rfl
    exact Nat.lt_irrefl _ hu
  have hget := Table.get?_insert_of_ne s.state.store.statics hne
  exact congrArg (·.getD []) (hget _).symm

/-- Registering a type changes no answer about identifiers that have been handed out before: not
what the registry says of them or finds for them, faults included; not what a new instance is like;
not whether an invoker is made, nor which one; and not what this invoker does, whatever native
bodies do. It goes in step with itself also from the states before and after the registration, if
native bodies do. -/
theorem register_keeps_answers (h : Reached gone s) (hs : s.register spec = .ok (type, s')) :
    type = s.state.store.nextType ∧
    Registry.SameAnswers type s.registry s'.registry ∧
    (∀ t, t.code < type.code →
      s'.registry.newInstance s'.state.store t = s.registry.newInstance s.state.store t) ∧
    s.state.AgreesBelow type s'.state ∧
    (∀ t d m, s.registry.get? t = some d → m ∈ d.members → m.Below type) ∧
    ∀ {c : Category} (job : Job c), job.Below type →
      job.make s'.registry = job.make s.registry ∧
      ∀ x, job.make s.registry = .ok x →
        (∀ native, c.Relates (· = ·) ⟨s.registry, native⟩ ⟨s'.registry, native⟩ x) ∧
        ∀ n₁ n₂, Native.InStep (State.AgreesBelow type) n₁ n₂ →
          c.Relates (Run.InStep (State.AgreesBelow type) fun _ => True)
            ⟨s.registry, n₁⟩ ⟨s'.registry, n₂⟩ x := by
  have hagrees := agreesBelow_register hs
  obtain ⟨reg', st', hr, rfl⟩ := register_eq_ok hs
  obtain ⟨rfl, -, base, d, hreg⟩ := Registry.registered_of_register hr
  have hv := h.sound.valid
  have hsame := hreg.sameBelow
  have hanswers := hsame.sameAnswers hv
  refine ⟨rfl, hanswers, fun t ht => ?_, hagrees,
    fun t e m he hm => h.sound.closed.below hv he hm, fun {c} job hjob => ?_⟩
  · exact (hanswers.newInstance _ t ht).trans (Registry.newInstance_congr hagrees.cells t).symm
  refine ⟨job.make_eq hsame hv hjob, fun x hx => ⟨fun native => ?_, fun n₁ n₂ hn => ?_⟩⟩
  · -- the same native bodies, in the same state
    have hcontexts : Context.InStep (fun t => ∃ e, s.registry.get? t = some e)
        (Eq : State → State → Prop) ⟨s.registry, native⟩ ⟨reg', native⟩ :=
      hsame.contexts hv (Run.framed_eq _) fun _ _ _ _ => .refl _
    exact (c.relates hcontexts x fun t ht => job.known_owners hv hx ht).mono fun h => h.eq
  · -- native bodies in step, in states that agree about all older types
    have hframed := State.framed_agreesBelow fun t (ht : ∃ e, s.registry.get? t = some e) =>
      hv.allocated ht.choose_spec
    exact c.relates (hsame.contexts hv hframed hn) x fun t ht => job.known_owners hv hx ht

/-- A type whose base has been unloaded is cut off, before and after a further registration: its
chain is broken at the same place, and for that reason its constructor cannot be made. The getters
of another type are the same and do the same. -/
theorem register_keeps_answers_renewedSession : ∃ s' d e,
    renewedSession.register { name := "Other", base := ⟨66⟩ } = .ok (⟨67⟩, s') ∧
    renewedSession.registry.get? ⟨65⟩ = some d ∧ renewedSession.registry.get? ⟨66⟩ = some e ∧
    s'.registry.hierarchy ⟨65⟩ = .error (.unknownType ⟨64⟩) ∧
    (∀ m ∈ d.members, Construction.ofMember s'.registry m = .error (.unknownType ⟨64⟩)) ∧
    ∀ m ∈ e.members, ∀ g, Getter.ofMember renewedSession.registry ⟨66⟩ m = .ok g →
      Getter.ofMember s'.registry ⟨66⟩ m = .ok g ∧ ∀ native receiver,
        g.run ⟨renewedSession.registry, native⟩ receiver =
          g.run ⟨s'.registry, native⟩ receiver := by
  obtain ⟨-, hanswers, -, -, hbelow, hjobs⟩ := register_keeps_answers reached_renewedSession
    (rfl : renewedSession.register { name := "Other", base := ⟨66⟩ } = .ok (⟨67⟩, _))
  refine ⟨_, _, _, rfl, rfl, rfl, (hanswers.hierarchy ⟨65⟩ (by decide)).trans rfl,
    fun m hm => ?_, fun m hm g hg => ?_⟩
  · have hmade := hjobs (.member .constructor ⟨65⟩ m) ⟨by decide, hbelow ⟨65⟩ _ m rfl hm⟩
    obtain rfl := List.mem_singleton.mp hm
    exact hmade.1.trans rfl
  · have hmade := hjobs (.member .getter ⟨66⟩ m) ⟨by decide, hbelow ⟨66⟩ _ m rfl hm⟩
    exact ⟨hmade.1.trans hg, (hmade.2 g hg).1⟩

end Session

end LateBinding
