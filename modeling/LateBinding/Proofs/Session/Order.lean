import LateBinding.Proofs.Registry.Consistent
import LateBinding.Proofs.Session.Reached

/-!
# The types of a session in the course of time

Whatever happens to a session, its registry is consistent at all times, agrees with what was known
at any earlier time, and hands out every identifier once. Assignability is then a preorder that
tells known types apart.

Main statement: `Session.follow_consistent`.
-/

namespace LateBinding

open Run

/-- The identifier that a step has handed out. -/
def Outcome.handedOut : Outcome → Option TypeId
  | registered (.ok type) => some type
  | _ => none

/-- Whether a type could not be registered or unloaded. -/
inductive Outcome.Refused : Outcome → Prop where
  | register (e : Fault) : Refused (.registered (.error e))
  | unload (e : Fault) : Refused (.unloaded (.error e))

namespace Session

variable {s s' : Session} {x : Step} {o : Outcome} {earlier : Registry}

/-! ### One step -/

/-- What a step does to the types. -/
inductive Turn (s : Session) : Outcome → Session → Prop where
  | registered {spec : TypeSpec} {base d : Descriptor} {s' : Session}
      (h : s.registry.Admitted spec s.state.store.nextType base d s'.registry)
      (hnext : s'.state.store.nextType = s.state.store.nextType.next) :
      Turn s (.registered (.ok s.state.store.nextType)) s'
  | unloaded {type : TypeId} {removed : Nat} {s' : Session}
      (h : s.registry.unload type = some s'.registry)
      (hnext : s'.state.store.nextType = s.state.store.nextType) :
      Turn s (.unloaded (.ok removed)) s'
  /-- No type is registered or unloaded; the world outside may have handed out identifiers. -/
  | still {o : Outcome} {s' : Session} (ho : o.handedOut = none)
      (hreg : s'.registry = s.registry)
      (hnext : s.state.store.nextType.code ≤ s'.state.store.nextType.code) : Turn s o s'

/-- The types of the session are in order, and so is what is remembered of lookups. -/
structure Orderly (s : Session) : Prop where
  valid : s.registry.Valid s.state.store.nextType
  consistent : s.registry.Consistent
  precedes : s.registry.Precedes s.registry
  lookups : LookupsSound s.registry s.state.caches

lemma Orderly.start (config : Config) : Orderly { config } where
  valid := Registry.valid_initial
  consistent := Registry.consistent_initial
  precedes := Registry.precedes_initial
  lookups := fun _ _ h => by cases h

/-- A request hands out no identifier. -/
lemma Orderly.run_request (h : Orderly s) (r : Request) :
    (s.run fun b => r.perform b).2.state.store.nextType = s.state.store.nextType ∧
      LookupsSound s.registry (s.run fun b => r.perform b).2.state.caches := by
  have hkept : Kept s.registry s.config fun t =>
      t.store.nextType = s.state.store.nextType ∧ LookupsSound s.registry t.caches ∧ True :=
    kept_beside _ (fun _ _ => trivial) fun _ _ _ => trivial
  have hend := hkept.scripted ((hkept.accord _).perform r) ⟨rfl, h.lookups, trivial⟩
  rw [run_snd]
  exact ⟨hend.1, hend.2.1⟩

lemma Orderly.turn (h : Orderly s) (x : Step) : Turn s (s.step x).1 (s.step x).2 := by
  have htakes := takes_step s x
  generalize s.step x = result at htakes
  cases htakes with
  | notRegistered => exact .still rfl rfl (Nat.le_refl _)
  | registered hr =>
    obtain ⟨rfl, hnext, base, d, hadmitted⟩ := Registry.admitted_of_register hr
    exact .registered hadmitted hnext
  | notUnloaded => exact .still rfl rfl (Nat.le_refl _)
  | unloaded hu => exact .unloaded hu rfl
  | request r =>
    refine .still rfl ?_ (Nat.le_of_eq (congrArg TypeId.code (h.run_request r).1.symm))
    rw [run_snd]
  | outside change hc => exact .still rfl rfl (hc s.state.store)

lemma Orderly.lookups_step (h : Orderly s) (x : Step) :
    LookupsSound (s.step x).2.registry (s.step x).2.state.caches := by
  have htakes := takes_step s x
  generalize s.step x = result at htakes
  cases htakes with
  | registered hr =>
    obtain ⟨rfl, -, base, d, hreg⟩ := Registry.registered_of_register hr
    exact h.lookups.registered h.valid hreg
  | unloaded hu hpurge =>
    have hkept := h.lookups.unloaded h.valid (Registry.unloaded_of_unload hu)
    rwa [hpurge] at hkept
  | request r =>
    have hend := (h.run_request r).2
    rw [run_snd] at hend ⊢
    exact hend
  | _ => exact h.lookups

lemma Turn.le (h : Turn s o s') :
    s.state.store.nextType.code ≤ s'.state.store.nextType.code := by
  cases h with
  | registered _ hnext => exact hnext ▸ Nat.le_succ _
  | unloaded _ hnext => exact Nat.le_of_eq (congrArg TypeId.code hnext.symm)
  | still _ _ hnext => exact hnext

/-- The session may be one that comes after a time at which the registry was `earlier`. -/
structure After (earlier : Registry) (s : Session) : Prop where
  valid : earlier.Valid s.state.store.nextType
  precedes : earlier.Precedes s.registry

lemma Turn.after (h : Turn s o s') (hs : Orderly s) (ha : After earlier s) : After earlier s' := by
  refine ⟨ha.valid.mono h.le, ?_⟩
  cases h with
  | registered h => exact h.precedes hs.valid ha.valid ha.precedes
  | unloaded h =>
    exact ha.precedes.mono id fun hd => ((Registry.unloaded_of_unload h).get?_of_some hd).2
  | still _ hreg => exact hreg.symm ▸ ha.precedes

lemma Turn.orderly (h : Turn s o s') (hs : Orderly s)
    (hlookups : LookupsSound s'.registry s'.state.caches) : Orderly s' := by
  cases h with
  | registered h hnext =>
    exact ⟨hnext ▸ h.valid hs.valid, h.consistent hs.valid hs.consistent,
      h.precedes_self hs.valid hs.precedes, hlookups⟩
  | unloaded h hnext =>
    have hu := Registry.unloaded_of_unload h
    exact ⟨hnext ▸ hu.valid hs.valid, hs.consistent.unload h,
      hs.precedes.mono (fun hd => (hu.get?_of_some hd).2) fun hd => (hu.get?_of_some hd).2,
      hlookups⟩
  | still _ hreg hnext =>
    refine ⟨?_, ?_, ?_, hlookups⟩ <;> rw [hreg]
    · exact hs.valid.mono hnext
    · exact hs.consistent
    · exact hs.precedes

lemma Orderly.step (h : Orderly s) (x : Step) : Orderly (s.step x).2 :=
  (h.turn x).orderly h (h.lookups_step x)

lemma step_of_refused (h : (s.step x).1.Refused) : (s.step x).2 = s := by
  have htakes := takes_step s x
  generalize s.step x = result at htakes h
  cases htakes with
  | notRegistered => rfl
  | notUnloaded => rfl
  | _ => cases h

/-! ### Many steps -/

lemma Orderly.follow (h : Orderly s) (xs : List Step) : Orderly (s.follow xs).2 := by
  induction xs generalizing s with
  | nil => exact h
  | cons x xs ih => exact ih (h.step x)

lemma Orderly.after_follow (h : Orderly s) (ha : After earlier s) (ys : List Step) :
    After earlier (s.follow ys).2 := by
  induction ys generalizing s with
  | nil => exact ha
  | cons y ys ih => exact ih (h.step y) ((h.turn y).after h ha)

/-! ### Sessions that are visited -/

/-- A session that any steps lead to, where in between cached entries may have been forgotten by
hand. -/
inductive Visited : Session → Prop where
  | start (config : Config) : Visited { config }
  | step {s : Session} (h : Visited s) (x : Step) : Visited (s.step x).2
  | purge {s : Session} (h : Visited s) (types : List TypeId) : Visited (s.purge types).2
  | clear {s : Session} (h : Visited s) : Visited s.clearCaches

lemma Visited.request (h : Visited s) (r : Request) : Visited (s.run fun b => r.perform b).2 :=
  h.step (.request r)

lemma Visited.follow (h : Visited s) (xs : List Step) : Visited (s.follow xs).2 := by
  induction xs generalizing s with
  | nil => exact h
  | cons x xs ih => exact ih (h.step x)

lemma Visited.orderly (h : Visited s) : Orderly s := by
  induction h with
  | start config => exact .start config
  | step _ x ih => exact ih.step x
  | purge _ types ih =>
    refine ⟨ih.valid, ih.consistent, ih.precedes, fun k found hk => ?_⟩
    exact ih.lookups k found (Caches.get?_of_get?_purge hk).1
  | clear _ ih => exact ⟨ih.valid, ih.consistent, ih.precedes, fun k found hk => by cases hk⟩

/-! ### All steps together -/

/-- From some time on only identifiers are handed out that have not been handed out before. -/
lemma Orderly.handedOut_follow (h : Orderly s) (xs : List Step) :
    ((s.follow xs).1.filterMap Outcome.handedOut).Nodup ∧
      ∀ t ∈ (s.follow xs).1.filterMap Outcome.handedOut,
        s.state.store.nextType.code ≤ t.code := by
  induction xs generalizing s with
  | nil => exact ⟨List.nodup_nil, fun t ht => by cases ht⟩
  | cons x xs ih =>
    obtain ⟨hnodup, hle⟩ := ih (h.step x)
    have hturn := h.turn x
    have hseen : (s.follow (x :: xs)).1 = (s.step x).1 :: ((s.step x).2.follow xs).1 := rfl
    rw [hseen]
    generalize s.step x = p at hturn hnodup hle
    obtain ⟨o, s'⟩ := p
    have hle' : ∀ t ∈ (s'.follow xs).1.filterMap Outcome.handedOut,
        s.state.store.nextType.code ≤ t.code := fun t ht => Nat.le_trans hturn.le (hle t ht)
    cases hturn with
    | registered _ hnext =>
      refine ⟨List.nodup_cons.mpr ⟨fun hmem => ?_, hnodup⟩, fun t ht => ?_⟩
      · -- what is handed out later is larger
        have hlt := hle _ hmem
        rw [hnext] at hlt
        exact Nat.not_succ_le_self _ hlt
      · rcases List.mem_cons.mp ht with rfl | ht
        · exact Nat.le_refl _
        · exact hle' t ht
    | unloaded => exact ⟨hnodup, hle'⟩
    | still ho =>
      rw [List.filterMap_cons_none ho]
      exact ⟨hnodup, hle'⟩

/-- Whatever happens to a session, at all times names and types fit together and so do the lists of
ancestors, also with what was known at any earlier time; no identifier is handed out twice, and a
registration or an unload that fails changes nothing. Assignability is reflexive and transitive on
all identifiers, known or not, and antisymmetric on those that are known. -/
theorem follow_consistent (config : Config) (xs ys : List Step) :
    let seen := (({ config } : Session).follow xs).1
    let s := (({ config } : Session).follow xs).2
    s.registry.Consistent ∧
      (∀ name d, s.registry.named? name = some d ↔
        s.registry.get? d.id = some d ∧ d.name = name) ∧
      s.registry.Precedes (s.follow ys).2.registry ∧
      (seen.filterMap Outcome.handedOut).Nodup ∧
      (∀ t ∈ seen.filterMap Outcome.handedOut, t.isBuiltin = false) ∧
      (∀ x, (s.step x).1.Refused → (s.step x).2 = s) ∧
      (∀ a, s.registry.isAssignable a a = true) ∧
      (∀ a b c, s.registry.isAssignable a b = true → s.registry.isAssignable b c = true →
        s.registry.isAssignable a c = true) ∧
      ∀ a b, s.registry.contains a = true → s.registry.contains b = true →
        s.registry.isAssignable a b = true → s.registry.isAssignable b a = true → a = b := by
  intro seen s
  have hs : Orderly s := (Orderly.start config).follow xs
  have hafter : After s.registry s := ⟨hs.valid, hs.precedes⟩
  obtain ⟨hnodup, hle⟩ := (Orderly.start config).handedOut_follow xs
  refine ⟨hs.consistent, fun name d => hs.consistent.named?_eq_some_iff,
    (hs.after_follow hafter ys).precedes, hnodup, fun t ht => ?_, fun x => step_of_refused,
    s.registry.isAssignable_refl, fun a b c => Registry.isAssignable_trans hs.valid hs.precedes,
    fun a b ha hb => ?_⟩
  · -- identifiers are handed out behind those of the builtin types
    exact decide_eq_false (Nat.not_lt.mpr (hle t ht))
  · obtain ⟨d, hd⟩ := Option.isSome_iff_exists.mp ha
    obtain ⟨e, he⟩ := Option.isSome_iff_exists.mp hb
    exact Registry.isAssignable_antisymm hs.valid hs.consistent hs.precedes hd he

end Session

end LateBinding
