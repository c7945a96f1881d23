import LateBinding.Proofs.Registry.Slots
import LateBinding.Proofs.Run.Remembered
import LateBinding.Proofs.Session.History

/-!
# Reached sessions

The sessions that registrations, unloads and requests lead to, and what holds of all of them: the
registry is valid, and whatever is remembered is sound.
-/

namespace LateBinding.Session

variable {gone : List TypeId} {s s' : Session}

/-- A session that can be reached, with the types that have been unloaded on the way. A definition
can name only identifiers that have been handed out. -/
inductive Reached : List TypeId → Session → Prop where
  | start (config : Config) : Reached [] { config }
  | register {gone : List TypeId} {s s' : Session} {spec : TypeSpec} {type : TypeId}
      (h : Reached gone s) (hspec : spec.Allocated s.state.store.nextType)
      (hs : s.register spec = .ok (type, s')) : Reached gone s'
  | unload {gone : List TypeId} {s s' : Session} {type : TypeId} {removed : Nat}
      (h : Reached gone s) (hs : s.unload type = .ok (removed, s')) : Reached (type :: gone) s'
  | request {gone : List TypeId} {s : Session} (h : Reached gone s) (r : Request) :
      Reached gone (s.run fun b => r.perform b).2
  | outside {gone : List TypeId} {s : Session} (h : Reached gone s) (change : Store → Store)
      (hchange : s.state.store.nextType.code ≤ (change s.state.store).nextType.code) :
      Reached gone (s.changeStore change)

/-- What holds of every session that is reached. -/
structure Sound (gone : List TypeId) (s : Session) : Prop where
  valid : s.registry.Valid s.state.store.nextType
  closed : s.registry.Closed s.state.store.nextType
  user : ∀ t ∈ gone, t.isBuiltin = false
  caches : CachesSound s.registry s.config gone s.state.store.nextType s.state

lemma register_eq_ok {spec : TypeSpec} {type : TypeId} (h : s.register spec = .ok (type, s')) :
    ∃ reg' st', s.registry.register s.state.store spec = .ok (type, reg', st') ∧
      s' = { s with registry := reg', state := { s.state with store := st' } } := by
  rw [Session.register] at h
  cases hr : s.registry.register s.state.store spec with
  | error e =>
    rw [hr] at h
    cases h
  | ok r =>
    rw [hr] at h
    cases h
    exact ⟨_, _, rfl, rfl⟩

lemma unload_eq_ok {type : TypeId} {removed : Nat} (h : s.unload type = .ok (removed, s')) :
    ∃ reg', s.registry.unload type = some reg' ∧
      s' = ({ s with registry := reg' }.purge (reg'.descendants type ++ [type])).2 := by
  rw [Session.unload] at h
  cases hr : s.registry.unload type with
  | none =>
    rw [hr] at h
    cases h
  | some reg' =>
    rw [hr] at h
    cases h
    exact ⟨reg', rfl, rfl⟩

lemma run_fst {α : Type} (s : Session) (operation : Binder → Run α) :
    (s.run operation).1 = Run.answer (operation s.binder s.state) := by
  rw [Session.run]
  cases operation s.binder s.state <;> rfl

lemma run_snd {α : Type} (s : Session) (operation : Binder → Run α) :
    (s.run operation).2 = { s with state := Run.after (operation s.binder s.state) } := by
  rw [Session.run]
  cases operation s.binder s.state <;> rfl

lemma step_request (s : Session) (r : Request) : s.step (.request r) =
    (.answered (Run.answer (r.perform s.binder s.state)),
      { s with state := Run.after (r.perform s.binder s.state) }) := by
  change (Outcome.answered (s.run fun b => r.perform b).1, (s.run fun b => r.perform b).2) = _
  rw [run_fst, run_snd]

lemma config_step (s : Session) (x : Step) : (s.step x).2.config = s.config := by
  have htakes := takes_step s x
  generalize s.step x = result at htakes
  cases htakes with
  | request r => rw [run_snd]
  | _ => rfl

lemma config_run (s : Session) (r : Request) :
    (s.run fun b => r.perform b).2.config = s.config := config_step s (.request r)

lemma config_follow (s : Session) (xs : List Step) : (s.follow xs).2.config = s.config := by
  induction xs generalizing s with
  | nil => rfl
  | cons x xs ih => exact (ih _).trans (config_step s x)

lemma sound_start (config : Config) : Sound [] { config } where
  valid := Registry.valid_initial
  closed := Registry.closed_initial _
  user := fun _ ht => by cases ht
  caches := by
    refine ⟨rfl, fun _ _ h => ?_, fun sort _ _ h => ?_⟩
    · cases h
    · cases sort <;> cases h

namespace Sound

variable (h : Sound gone s)
include h

lemma register {spec : TypeSpec} {type : TypeId}
    (hspec : spec.Allocated s.state.store.nextType) (hs : s.register spec = .ok (type, s')) :
    Sound gone s' := by
  obtain ⟨reg', st', hr, rfl⟩ := register_eq_ok hs
  obtain ⟨rfl, hnext, base, d, hreg⟩ := Registry.registered_of_register hr
  refine ⟨hnext ▸ hreg.valid h.valid, hnext ▸ hreg.closed h.valid h.closed hspec, h.user, rfl,
    h.caches.lookups.registered h.valid hreg, h.caches.invokers.registered h.valid h.closed hreg⟩

lemma unload {type : TypeId} {removed : Nat} (hs : s.unload type = .ok (removed, s')) :
    Sound (type :: gone) s' := by
  obtain ⟨reg', hr, rfl⟩ := unload_eq_ok hs
  have hu := Registry.unloaded_of_unload hr
  refine ⟨hu.valid h.valid, hu.closed h.closed, fun t ht => ?_, rfl,
    h.caches.lookups.unloaded h.valid hu, h.caches.invokers.unloaded h.valid hu⟩
  rcases List.mem_cons.mp ht with rfl | ht
  · exact hu.user
  · exact h.user t ht

lemma request (r : Request) : Sound gone (s.run fun b => r.perform b).2 := by
  have hkept := kept_cachesSound s.registry s.config gone s.state.store.nextType
  have hcaches := hkept.scripted ((hkept.accord _).perform r) h.caches
  rw [run_snd]
  refine ⟨?_, ?_, h.user, ?_⟩
  · exact hcaches.next.symm ▸ h.valid
  · exact hcaches.next.symm ▸ h.closed
  · exact hcaches.next.symm ▸ hcaches

lemma outside (change : Store → Store)
    (hchange : s.state.store.nextType.code ≤ (change s.state.store).nextType.code) :
    Sound gone (s.changeStore change) :=
  ⟨h.valid.mono hchange, h.closed.mono hchange, h.user, rfl, h.caches.lookups, h.caches.invokers⟩

end Sound

lemma Reached.step_register (h : Reached gone s) {spec : TypeSpec}
    (hspec : spec.Allocated s.state.store.nextType) :
    Reached gone (s.step (.register spec)).2 := by
  rcases s.step_register_cases spec with heq | ⟨type, s', hs, heq⟩ <;> rw [heq]
  · exact h
  · exact h.register hspec hs

/-- What holds of the members of every laid-out type, and where there are none, holds of the members
of every known type. -/
lemma Reached.forall_members {P : List Member → Prop} (hnone : P [])
    (hlaid : ∀ default owner base spec, P (Layout.ofSpec default owner base spec).members)
    (h : Reached gone s) {t : TypeId} {d : Descriptor} (hd : s.registry.get? t = some d) :
    P d.members := by
  induction h with
  | start config =>
    obtain ⟨name, isValueType, -, rfl⟩ := Registry.get?_initial_eq_some hd
    exact hnone
  | @register gone s s' spec type _ _ hs ih =>
    obtain ⟨reg', st', hr, rfl⟩ := register_eq_ok hs
    obtain ⟨rfl, -, base, e, hreg⟩ := Registry.registered_of_register hr
    rcases hreg.new_or_old hd with ⟨rfl, rfl⟩ | hd
    · obtain ⟨base, -, -, -, -, rfl, -⟩ := Registry.register_eq_ok hr hd
      exact hlaid _ _ base spec
    · exact ih hd
  | unload _ hs ih =>
    obtain ⟨reg', hr, rfl⟩ := unload_eq_ok hs
    exact ih ((Registry.unloaded_of_unload hr).get?_of_some hd).2
  | request _ r ih =>
    rw [run_snd] at hd
    exact ih hd
  | outside _ change hchange ih => exact ih hd

lemma Reached.sound (h : Reached gone s) : Sound gone s := by
  induction h with
  | start config => exact sound_start config
  | register _ hspec hs ih => exact ih.register hspec hs
  | unload _ hs ih => exact ih.unload hs
  | request _ r ih => exact ih.request r
  | outside _ change hchange ih => exact ih.outside change hchange

end LateBinding.Session
