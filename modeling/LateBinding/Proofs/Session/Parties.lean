import LateBinding.Proofs.Registry.Owned
import LateBinding.Proofs.Session.CutOff

/-!
# Sessions of several parties

Several parties have a registry each. The store is one for all, as identifiers are handed out to all
of them from one place and every party may hold any value; the caches may be shared as well or not.
Whatever the parties do, a type is known to one of them at most, and with caches of its own a party
never finds a member through a type of another one.
-/

namespace LateBinding

open Run Registry

/-- Parties, each with a session. -/
abbrev Parties (ι : Type) : Type := ι → Session

namespace Parties

/-! ### Steps of the parties -/

section Steps

variable {ι : Type}

/-- The parties at the start. -/
def start (configs : ι → Config) : Parties ι := fun i => { config := configs i }

/-- A party may take the step: a definition names only identifiers that have been handed out, and
its members name no types of other parties. -/
def Admits (w : Parties ι) (i : ι) : Step → Prop
  | .register spec => spec.Allocated (w i).state.store.nextType ∧
      ∀ m ∈ spec.members, ∀ t ∈ m.types, ∀ j, j ≠ i → ¬ (w j).registry.Owns t
  | _ => True

variable [DecidableEq ι]

/-- One party has come to another session. All others see the new store, and the new caches too if
these are shared. -/
def moved (w : Parties ι) (shared : Bool) (i : ι) (s : Session) : Parties ι := fun j =>
  if j = i then s
  else if shared then { w j with state := s.state }
  else (w j).changeStore fun _ => s.state.store

/-- What one step of one party does, and what the party sees of it. -/
def step (w : Parties ι) (shared : Bool) (i : ι) (x : Step) : Outcome × Parties ι :=
  (((w i).step x).1, w.moved shared i ((w i).step x).2)

/-- The parties take steps, one after the other. -/
def follow (w : Parties ι) (shared : Bool) : List (ι × Step) → List Outcome × Parties ι
  | [] => ([], w)
  | (i, x) :: xs =>
    let (o, w) := w.step shared i x
    let (os, w) := follow w shared xs
    (o :: os, w)

/-- The parties may take these steps. -/
def Orderly (w : Parties ι) : List (ι × Step) → Prop
  | [] => True
  | (i, x) :: xs => w.Admits i x ∧ Orderly (w.step false i x).2 xs

variable {w : Parties ι} {i j : ι} {s : Session}

@[simp] lemma moved_self (w : Parties ι) (shared : Bool) (i : ι) (s : Session) :
    w.moved shared i s i = s :=
  if_pos rfl

lemma moved_of_ne (hj : j ≠ i) (s : Session) :
    w.moved false i s j = (w j).changeStore fun _ => s.state.store :=
  if_neg hj

lemma store_moved (w : Parties ι) (i j : ι) (s : Session) :
    (w.moved false i s j).state.store = s.state.store := by
  rw [moved]
  split <;> rfl

lemma moved_moved (w : Parties ι) (shared : Bool) (i : ι) (s s' : Session) :
    (w.moved shared i s).moved shared i s' = w.moved shared i s' := by
  funext j
  by_cases hj : j = i
  · simp only [moved, if_pos hj]
  · cases shared <;> simp only [moved, if_neg hj] <;> rfl

lemma config_step (w : Parties ι) (i j : ι) (x : Step) :
    ((w.step false i x).2 j).config = (w j).config := by
  by_cases hj : j = i
  · subst hj
    exact (congrArg Session.config (moved_self w false j _)).trans (Session.config_step _ x)
  · exact (congrArg Session.config (moved_of_ne hj _)).trans rfl

lemma config_follow (w : Parties ι) (xs : List (ι × Step)) (j : ι) :
    ((w.follow false xs).2 j).config = (w j).config := by
  induction xs generalizing w with
  | nil => rfl
  | cons x xs ih => exact (ih _).trans (config_step w x.1 j x.2)

end Steps

/-! ### Separate parties -/

section Separate

variable {ι : Type} {w : Parties ι} {i j : ι} {s : Session} {t : TypeId}

/-- What holds of the parties whatever they have done: the store is one for all, and no party names
a type that another one owns. -/
structure Separate (w : Parties ι) : Prop where
  reached : ∀ i, ∃ gone, Session.Reached gone (w i)
  tidy : ∀ i, (w i).registry.Tidy
  store : ∀ i j, (w i).state.store = (w j).state.store
  apart : ∀ {i j t}, (w i).registry.Mentions t → (w j).registry.Owns t → i = j

/-- The identifier has been handed out, and no other party owns its type. -/
def Free (w : Parties ι) (i : ι) (t : TypeId) : Prop :=
  t.code < (w i).state.store.nextType.code ∧ ∀ j, j ≠ i → ¬ (w j).registry.Owns t

/-- One party can come to the session, as far as types are concerned. -/
structure Advances (w : Parties ι) (i : ι) (s : Session) : Prop where
  reached : ∃ gone, Session.Reached gone s
  tidy : s.registry.Tidy
  next : (w i).state.store.nextType.code ≤ s.state.store.nextType.code
  owns : ∀ {t}, s.registry.Owns t →
    (w i).registry.Owns t ∨ (w i).state.store.nextType.code ≤ t.code
  mentions : ∀ {t j}, s.registry.Mentions t → j ≠ i → ¬ (w j).registry.Owns t

lemma not_owns_initial : ¬ Registry.initial.Owns t := by
  rintro ⟨huser, d, hd⟩
  rw [TypeId.isBuiltin, decide_eq_false_iff_not] at huser
  exact huser (valid_initial.allocated hd)

lemma separate_start (configs : ι → Config) : Separate (start configs) where
  reached := fun i => ⟨[], .start (configs i)⟩
  tidy := fun _ => tidy_initial
  store := fun _ _ => rfl
  apart := fun _ howns => absurd howns not_owns_initial

namespace Separate

variable (h : Separate w)
include h

lemma sound (i : ι) : ∃ gone, Session.Sound gone (w i) := by
  obtain ⟨gone, hi⟩ := h.reached i
  exact ⟨gone, hi.sound⟩

lemma valid (i : ι) : (w i).registry.Valid (w i).state.store.nextType :=
  (h.sound i).choose_spec.valid

lemma not_owns (ht : (w i).registry.Mentions t) (hj : j ≠ i) : ¬ (w j).registry.Owns t :=
  fun hown => hj (h.apart ht hown).symm

lemma free_of_mentions (ht : (w i).registry.Mentions t) : w.Free i t := by
  obtain ⟨gone, hi⟩ := h.sound i
  exact ⟨hi.valid.allocated_of_mentions hi.closed ht, fun _ hj => h.not_owns ht hj⟩

/-- A type that another party owns is not known. -/
lemma get?_of_owns (ht : (w j).registry.Owns t) (hj : j ≠ i) : (w i).registry.get? t = none := by
  cases hd : (w i).registry.get? t with
  | none => rfl
  | some d => exact absurd ht (h.not_owns (Or.inl ⟨ht.1, d, hd⟩) hj)

/-- Nobody owns an identifier that has not been handed out. -/
lemma not_owns_of_le (ht : (w i).state.store.nextType.code ≤ t.code) :
    ¬ (w j).registry.Owns t := fun howns =>
  Nat.not_lt.mpr (h.store j i ▸ ht) ((h.valid j).allocated_of_owns howns)

/-- With caches of its own, a request that has to find a member through a type of another party
fails. -/
lemma perform_fails (howns : (w j).registry.Owns t) (hj : j ≠ i) {r : Request}
    (hr : Session.ResolvesThrough (w i).registry t r) :
    ((w i).run fun b => r.perform b).1 = .error (.unknownType t) := by
  obtain ⟨gone, hi⟩ := h.sound i
  obtain ⟨s', hs'⟩ := hi.perform_fails (Or.inl ⟨h.get?_of_owns howns hj, rfl⟩) hr
  rw [Session.run, hs']

/-! ### What a step does to the types -/

lemma advances_same (i : ι) : w.Advances i (w i) where
  reached := h.reached i
  tidy := h.tidy i
  next := Nat.le_refl _
  owns := Or.inl
  mentions := fun ht hj => h.not_owns ht hj

lemma advances_register {spec : TypeSpec} (hspec : w.Admits i (.register spec)) :
    w.Advances i ((w i).step (.register spec)).2 := by
  obtain ⟨hallocated, hmembers⟩ := hspec
  obtain ⟨gone, hreached⟩ := h.reached i
  have hreached' := hreached.step_register hallocated
  cases hr : (w i).registry.register (w i).state.store spec with
  | error e =>
    rw [Session.step_register_of_error hr]
    exact h.advances_same i
  | ok r =>
    obtain ⟨type, reg', store⟩ := r
    rw [Session.step_register_of_ok hr] at hreached' ⊢
    obtain ⟨rfl, hnext, base, d, hreg⟩ := registered_of_register hr
    refine ⟨⟨gone, hreached'⟩, (h.tidy i).register hr, ?_, fun ht => ?_, fun ht hj hown => ?_⟩
    · change _ ≤ store.nextType.code
      rw [hnext]
      exact Nat.le_succ _
    · -- the new type is the only one that the party did not own
      rcases hreg.owns_or_new ht with ht | rfl
      · exact Or.inl ht
      · exact Or.inr (Nat.le_refl _)
    · -- the definition mentions no type of another party
      rcases hreg.mentions ht with ht | rfl | hbuiltin | ⟨m, hm, ht⟩
      · exact h.not_owns ht hj hown
      · exact h.not_owns_of_le (Nat.le_refl _) hown
      · rw [hown.1] at hbuiltin
        cases hbuiltin
      · exact hmembers m hm _ ht _ hj hown

lemma advances_unload (i : ι) (type : TypeId) :
    w.Advances i ((w i).step (.unload type)).2 := by
  obtain ⟨gone, hreached⟩ := h.reached i
  cases hr : (w i).registry.unload type with
  | none =>
    rw [Session.step_unload_of_none hr]
    exact h.advances_same i
  | some reg' =>
    have hs : (w i).unload type =
        .ok ({ w i with registry := reg' }.purge (reg'.descendants type ++ [type])) := by
      rw [Session.unload, hr]
      rfl
    have hu := unloaded_of_unload hr
    rw [Session.step_unload_of_some hr]
    exact ⟨⟨_, hreached.unload hs⟩, (h.tidy i).unload hr, Nat.le_refl _,
      fun ht => Or.inl (hu.owns_before ht).2, fun ht hj => h.not_owns (hu.mentions ht) hj⟩

lemma advances_request (i : ι) (r : Request) :
    w.Advances i ((w i).step (.request r)).2 := by
  obtain ⟨gone, hreached⟩ := h.reached i
  have hreached' := hreached.request r
  have hnext := hreached.sound.nextType_run r
  rw [Session.run_snd] at hreached' hnext
  rw [Session.step_request]
  exact ⟨⟨gone, hreached'⟩, h.tidy i, Nat.le_of_eq (congrArg TypeId.code hnext.symm), Or.inl,
    fun ht hj => h.not_owns ht hj⟩

lemma advances_outside (i : ι) (change : Store → Store)
    (hchange : ∀ st, st.nextType.code ≤ (change st).nextType.code) :
    w.Advances i ((w i).step (.outside change hchange)).2 := by
  obtain ⟨gone, hreached⟩ := h.reached i
  have hle := hchange (w i).state.store
  exact ⟨⟨gone, hreached.outside change hle⟩, h.tidy i, hle, Or.inl,
    fun ht hj => h.not_owns ht hj⟩

lemma advances {x : Step} (hx : w.Admits i x) : w.Advances i ((w i).step x).2 := by
  cases x with
  | register spec => exact h.advances_register hx
  | unload type => exact h.advances_unload i type
  | request r => exact h.advances_request i r
  | outside change hchange => exact h.advances_outside i change hchange

end Separate

variable [DecidableEq ι]

lemma Free.moved_self (ht : w.Free i t) (ha : w.Advances i s) : (w.moved false i s).Free i t := by
  refine ⟨?_, fun j hj => ?_⟩
  · rw [store_moved]
    exact Nat.lt_of_lt_of_le ht.1 ha.next
  · rw [moved_of_ne hj]
    exact ht.2 j hj

/-- What no other party owned before, no other party owns afterwards. -/
lemma Free.moved_of_ne (ht : w.Free j t) (h : Separate w) (ha : w.Advances i s) (hj : j ≠ i) :
    (w.moved false i s).Free j t := by
  have hlt : t.code < (w i).state.store.nextType.code := h.store i j ▸ ht.1
  refine ⟨?_, fun k hkj => ?_⟩
  · rw [store_moved]
    exact Nat.lt_of_lt_of_le hlt ha.next
  · by_cases hki : k = i
    · subst hki
      rw [Parties.moved_self]
      intro hown
      rcases ha.owns hown with hown | hle
      · exact ht.2 k hkj hown
      · exact Nat.not_lt.mpr hle hlt
    · rw [Parties.moved_of_ne hki]
      exact ht.2 k hkj

namespace Separate

lemma moved (h : Separate w) (ha : w.Advances i s) : Separate (w.moved false i s) where
  reached := by
    intro j
    by_cases hj : j = i
    · subst hj
      rw [moved_self]
      exact ha.reached
    · rw [moved_of_ne hj]
      obtain ⟨gone, hreached⟩ := h.reached j
      exact ⟨gone, hreached.outside _ (h.store j i ▸ ha.next)⟩
  tidy := by
    intro j
    by_cases hj : j = i
    · subst hj
      rw [moved_self]
      exact ha.tidy
    · rw [moved_of_ne hj]
      exact h.tidy j
  store := by
    intro j k
    rw [store_moved, store_moved]
  apart := by
    intro j k t hj hk
    by_contra hne
    by_cases hji : j = i
    · -- what the party mentions belongs to nobody else
      subst hji
      rw [moved_self] at hj
      rw [moved_of_ne (Ne.symm hne)] at hk
      exact ha.mentions hj (Ne.symm hne) hk
    · rw [moved_of_ne hji] at hj
      exact ((h.free_of_mentions hj).moved_of_ne h ha hji).2 k (Ne.symm hne) hk

lemma follow (h : Separate w) {xs : List (ι × Step)} (hxs : w.Orderly xs) :
    Separate (w.follow false xs).2 := by
  induction xs generalizing w with
  | nil => exact h
  | cons x xs ih => exact ih (h.moved (h.advances hxs.1)) hxs.2

end Separate

end Separate

end Parties

end LateBinding
