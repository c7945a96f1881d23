import LateBinding.Proofs.Run.Lookups
import LateBinding.Proofs.Session.History

/-!
# Sessions with and without a memory

Two sessions take the same steps, one remembers lookups and the other one does not. They are seen to
do the same, whatever their native bodies mean, as long as these go in step: a body that starts from
states which differ in the lookups alone has to end in such states again, with the same result.
Scripts go in step.

Main statements: `Session.followBy_remembering` and, with scripts for native bodies,
`Session.follow_remembering`.
-/

namespace LateBinding

open Run

variable {config : Config}

/-! ### Native bodies -/

/-- What the native bodies of a session do, which may depend on its types and its configuration. -/
abbrev Meaning := Registry → Config → Native

/-- Native bodies that are run as scripts. -/
def Meaning.scripted : Meaning := fun reg config => Script.run reg config Script.maxDepth

/-- Bodies of the one meaning, where lookups are remembered, go in step with those of the other,
where they are not. -/
def Meaning.InStep (config : Config) (n₁ n₂ : Meaning) : Prop :=
  ∀ reg next, Native.InStep (ButLookups reg next) (n₁ reg (config.remembering true))
    (n₂ reg (config.remembering false))

lemma Meaning.inStep_scripted (config : Config) : scripted.InStep config scripted :=
  fun reg next => Script.run_inStep (accord_butLookups reg config next).toConcord Script.maxDepth

namespace Session

/-- Takes a step with native bodies of some meaning. -/
def stepBy (native : Meaning) (s : Session) : Step → Outcome × Session
  | .request r =>
    let (answer, s) := s.run fun b => r.perform { b with native := native b.registry b.config }
    (.answered answer, s)
  | x => s.step x

/-- Takes steps one after the other. -/
def followBy (native : Meaning) (s : Session) : List Step → List Outcome × Session
  | [] => ([], s)
  | x :: xs =>
    let (o, s) := s.stepBy native x
    let (os, s) := s.followBy native xs
    (o :: os, s)

lemma step_eq_stepBy (s : Session) (x : Step) : s.step x = s.stepBy .scripted x := by
  cases x <;> rfl

lemma follow_eq_followBy (s : Session) (xs : List Step) :
    s.follow xs = s.followBy .scripted xs := by
  induction xs generalizing s with
  | nil => rfl
  | cons x xs ih =>
    simp only [follow, followBy, step_eq_stepBy, ih]

end Session

/-! ### Steps -/

/-- Two sessions that differ in whether lookups are remembered, and in the lookups. -/
structure Session.SameButLookups (config : Config) (s t : Session) : Prop where
  registry : s.registry = t.registry
  remembering : s.config = config.remembering true
  forgetting : t.config = config.remembering false
  valid : s.registry.Valid s.state.store.nextType
  state : ButLookups s.registry s.state.store.nextType s.state t.state

/-- Two outcomes are the same but for the number of entries that were forgotten. -/
def Outcome.Same (o o' : Outcome) : Prop := o.withoutCount = o'.withoutCount

namespace Session.SameButLookups

variable {s t : Session} (h : Session.SameButLookups config s t)
include h

lemma step_register (spec : TypeSpec) :
    (s.step (.register spec)).1.Same (t.step (.register spec)).1 ∧
      SameButLookups config (s.step (.register spec)).2 (t.step (.register spec)).2 := by
  cases hr : s.registry.register s.state.store spec with
  | error e =>
    have hr' : t.registry.register t.state.store spec = .error e := by
      rw [← h.registry, ← h.state.store, hr]
    rw [step_register_of_error hr, step_register_of_error hr']
    exact ⟨rfl, h⟩
  | ok r =>
    obtain ⟨type, reg', store⟩ := r
    have hr' : t.registry.register t.state.store spec = .ok (type, reg', store) := by
      rw [← h.registry, ← h.state.store, hr]
    obtain ⟨rfl, hnext, base, d, hreg⟩ := Registry.registered_of_register hr
    rw [step_register_of_ok hr, step_register_of_ok hr']
    refine ⟨rfl, rfl, h.remembering, h.forgetting, ?_, rfl, rfl, h.state.memo, ?_⟩
    · exact hnext ▸ hreg.valid h.valid
    · exact h.state.sound.registered h.valid hreg

lemma step_unload (type : TypeId) :
    (s.step (.unload type)).1.Same (t.step (.unload type)).1 ∧
      SameButLookups config (s.step (.unload type)).2 (t.step (.unload type)).2 := by
  cases hr : s.registry.unload type with
  | none =>
    rw [step_unload_of_none hr, step_unload_of_none (h.registry ▸ hr)]
    exact ⟨rfl, h⟩
  | some reg' =>
    have hu := Registry.unloaded_of_unload hr
    rw [step_unload_of_some hr, step_unload_of_some (h.registry ▸ hr)]
    refine ⟨rfl, rfl, h.remembering, h.forgetting, hu.valid h.valid, h.state.store, rfl, ?_, ?_⟩
    · intro c hc
      rw [Caches.memo_purge, Caches.memo_purge, Caches.purged, Caches.purged, h.state.memo hc]
    · exact h.state.sound.unloaded h.valid hu

/-- A request goes in step if the native bodies do. -/
lemma stepBy_request {n₁ n₂ : Meaning} (hn : n₁.InStep config n₂) (r : Request) :
    (s.stepBy n₁ (.request r)).1.Same (t.stepBy n₂ (.request r)).1 ∧
      SameButLookups config (s.stepBy n₁ (.request r)).2 (t.stepBy n₂ (.request r)).2 := by
  obtain ⟨reg, c, state⟩ := s
  obtain ⟨reg', c', state'⟩ := t
  obtain ⟨rfl, rfl, rfl, hv, hstate⟩ := h
  have hagree : Agree (ButLookups reg state.store.nextType) (fun _ => True)
      (r.perform (.of reg (config.remembering true) (n₁ reg (config.remembering true))) state)
      (r.perform (.of reg (config.remembering false) (n₂ reg (config.remembering false))) state') :=
    (accord_butLookups reg config state.store.nextType).perform r _ _
      (hn reg state.store.nextType) state state' hstate
  simp only [Session.stepBy, Session.run, Session.binder, Binder.scripted]
  generalize r.perform (.of reg (config.remembering true) _) state = a at hagree
  generalize r.perform (.of reg (config.remembering false) _) state' = a' at hagree
  cases hagree with
  | ok _ hr => exact ⟨rfl, rfl, rfl, rfl, hr.next.symm ▸ hv, hr.next.symm ▸ hr⟩
  | error hr => exact ⟨rfl, rfl, rfl, rfl, hr.next.symm ▸ hv, hr.next.symm ▸ hr⟩
  | parted h => exact h.elim

lemma step_outside (change : Store → Store)
    (hc : ∀ st, st.nextType.code ≤ (change st).nextType.code) :
    (s.step (.outside change hc)).1.Same (t.step (.outside change hc)).1 ∧
      SameButLookups config (s.step (.outside change hc)).2 (t.step (.outside change hc)).2 :=
  ⟨rfl, h.registry, h.remembering, h.forgetting, h.valid.mono (hc s.state.store),
    congrArg change h.state.store, rfl, h.state.memo, h.state.sound⟩

/-- Two such sessions stay the same, and what is seen of them is the same. -/
lemma stepBy {n₁ n₂ : Meaning} (hn : n₁.InStep config n₂) (x : Step) :
    (s.stepBy n₁ x).1.Same (t.stepBy n₂ x).1 ∧
      SameButLookups config (s.stepBy n₁ x).2 (t.stepBy n₂ x).2 := by
  cases x with
  | register spec => exact h.step_register spec
  | unload type => exact h.step_unload type
  | request r => exact h.stepBy_request hn r
  | outside change hc => exact h.step_outside change hc

lemma followBy {n₁ n₂ : Meaning} (hn : n₁.InStep config n₂) (xs : List Step) :
    (s.followBy n₁ xs).1.map Outcome.withoutCount =
        (t.followBy n₂ xs).1.map Outcome.withoutCount ∧
      SameButLookups config (s.followBy n₁ xs).2 (t.followBy n₂ xs).2 := by
  induction xs generalizing s t with
  | nil => exact ⟨rfl, h⟩
  | cons x xs ih =>
    obtain ⟨hx, hstep⟩ := h.stepBy hn x
    obtain ⟨hxs, hend⟩ := ih hstep
    exact ⟨List.cons_eq_cons.mpr ⟨hx, hxs⟩, hend⟩

end Session.SameButLookups

lemma Session.sameButLookups_start (config : Config) :
    SameButLookups config { config := config.remembering true }
      { config := config.remembering false } where
  registry := rfl
  remembering := rfl
  forgetting := rfl
  valid := Registry.valid_initial
  state := ⟨rfl, rfl, fun _ => rfl, fun _ _ h => by cases h⟩

/-- Whatever happens to a session and whatever native bodies mean, if only they go in step, one that
remembers lookups and one that does not are seen to do the same, up to the numbers of forgotten
entries, and end with the same types, the same store and the same memory of everything but
lookups. -/
theorem Session.followBy_remembering {n₁ n₂ : Meaning} (hn : n₁.InStep config n₂)
    (xs : List Step) :
    let remembering := ({ config := config.remembering true } : Session).followBy n₁ xs
    let forgetting := ({ config := config.remembering false } : Session).followBy n₂ xs
    remembering.1.map Outcome.withoutCount = forgetting.1.map Outcome.withoutCount ∧
      remembering.2.registry = forgetting.2.registry ∧
      remembering.2.state.store = forgetting.2.state.store ∧
      ∀ c, c ≠ .lookups →
        remembering.2.state.caches.memo c = forgetting.2.state.caches.memo c := by
  obtain ⟨hseen, hend⟩ := (Session.sameButLookups_start config).followBy hn xs
  exact ⟨hseen, hend.registry, hend.state.store, fun _ hc => hend.state.memo hc⟩

/-- With scripts for native bodies, a session that remembers lookups and one that does not are seen
to do the same, whatever happens to them. -/
theorem Session.follow_remembering (config : Config) (xs : List Step) :
    let remembering := ({ config := config.remembering true } : Session).follow xs
    let forgetting := ({ config := config.remembering false } : Session).follow xs
    remembering.1.map Outcome.withoutCount = forgetting.1.map Outcome.withoutCount ∧
      remembering.2.registry = forgetting.2.registry ∧
      remembering.2.state.store = forgetting.2.state.store ∧
      ∀ c, c ≠ .lookups →
        remembering.2.state.caches.memo c = forgetting.2.state.caches.memo c := by
  rw [Session.follow_eq_followBy, Session.follow_eq_followBy]
  exact Session.followBy_remembering (Meaning.inStep_scripted config) xs

end LateBinding
