import Mathlib.Logic.Basic
import LateBinding.Run

/-!
# Runs in step

Two runs go in step under a relation between states if, started from related states, they end alike:
with equal results or at equal faults, and again in related states. The two runs may differ in what
the relation does not see. At some faults they may part: if the second run ends there, nothing is
said of the first one.

A steady relation is one that sees the whole store and is kept by every change of it. Everything
that works on the store alone then goes in step with itself, and only what asks the caches has to
be looked at for each relation anew.
-/

namespace LateBinding

/-- A relation between the states of two runs, and the faults at which the runs may part. -/
structure Bond where
  rel : State → State → Prop
  parts : Fault → Prop := fun _ => False

instance : CoeFun Bond fun _ => State → State → Prop := ⟨Bond.rel⟩

/-- A relation is a bond under which two runs never part. -/
instance : Coe (State → State → Prop) Bond := ⟨fun rel => { rel }⟩

variable {α β : Type} {R : Bond} {P Q : α → Prop}

/-- Two ends of runs agree: the results are equal and as they should be, or the faults are equal,
and the states are related; or the runs have parted. -/
inductive Agree (R : Bond) (Q : α → Prop) :
    EStateM.Result Fault State α → EStateM.Result Fault State α → Prop where
  | ok {a : α} {s t : State} (hq : Q a) (hr : R s t) : Agree R Q (.ok a s) (.ok a t)
  | error {e : Fault} {s t : State} (hr : R s t) : Agree R Q (.error e s) (.error e t)
  | parted {r : EStateM.Result Fault State α} {e : Fault} {t : State} (h : R.parts e) :
      Agree R Q r (.error e t)

lemma Agree.mono {r r' : EStateM.Result Fault State α} (h : Agree R P r r')
    (hpq : ∀ a, P a → Q a) : Agree R Q r r' := by
  cases h with
  | ok hp hr => exact .ok (hpq _ hp) hr
  | error hr => exact .error hr
  | parted h => exact .parted h

namespace Run

/-! ### Ends of compositions -/

section Composition

variable {σ : Type} {x y : EStateM Fault σ α} {f : α → EStateM Fault σ β} {s t : σ}

lemma bind_eq_of_ok {a : α} (h : x s = .ok a t) : (x >>= f) s = f a t := by
  change EStateM.bind x f s = f a t
  rw [EStateM.bind, h]

lemma bind_eq_of_error {e : Fault} (h : x s = .error e t) : (x >>= f) s = .error e t := by
  change EStateM.bind x f s = .error e t
  rw [EStateM.bind, h]

/-- If a composition has succeeded, so have its parts. -/
lemma exists_of_ok {b : β} (h : (x >>= f) s = .ok b t) :
    ∃ a u, x s = .ok a u ∧ f a u = .ok b t := by
  cases hx : x s with
  | ok a u => exact ⟨a, u, rfl, (bind_eq_of_ok hx).symm.trans h⟩
  | error e u => cases (bind_eq_of_error hx).symm.trans h

lemma bind_congr_left (h : x s = y t) : (x >>= f) s = (y >>= f) t := by
  change EStateM.bind x f s = EStateM.bind y f t
  rw [EStateM.bind, EStateM.bind, h]

end Composition

/-! ### Rules -/

/-- From related states the two runs end alike, with a result as it should be. -/
def InStep (R : Bond) (Q : α → Prop) (x y : Run α) : Prop :=
  ∀ s t, R s t → Agree R Q (x s) (y t)

namespace InStep

lemma mono {x y : Run α} (h : InStep R P x y) (hpq : ∀ a, P a → Q a) : InStep R Q x y :=
  fun s t hst => (h s t hst).mono hpq

lemma pure {a : α} (hq : Q a) : InStep R Q (Pure.pure a) (Pure.pure a) :=
  fun _ _ hst => .ok hq hst

lemma throw (e : Fault) : InStep R Q (throw e : Run α) (MonadExcept.throw e) :=
  fun _ _ hst => .error hst

lemma bind {x y : Run α} {f g : α → Run β} {Q : β → Prop} (hxy : InStep R P x y)
    (hfg : ∀ a, P a → InStep R Q (f a) (g a)) : InStep R Q (x >>= f) (y >>= g) := by
  intro s t hst
  change Agree R Q (EStateM.bind x f s) (EStateM.bind y g t)
  unfold EStateM.bind
  have hend := hxy s t hst
  generalize x s = r at hend
  generalize y t = r' at hend
  cases hend with
  | ok hp hr => exact hfg _ hp _ _ hr
  | error hr => exact .error hr
  | parted h => exact .parted h

lemma map {x y : Run α} (h : InStep R P x y) (f : α → β) :
    InStep R (fun _ => True) (f <$> x) (f <$> y) := by
  rw [map_eq_pure_bind, map_eq_pure_bind]
  exact h.bind fun _ _ => pure trivial

lemma discard {x y : Run α} (h : InStep R P x y) :
    InStep R (fun _ => True) (discard x) (Functor.discard y) := by
  intro s t hst
  change Agree R _ (EStateM.map _ x s) (EStateM.map _ y t)
  unfold EStateM.map
  have hend := h s t hst
  generalize x s = r at hend
  generalize y t = r' at hend
  cases hend with
  | ok _ hr => exact .ok trivial hr
  | error hr => exact .error hr
  | parted h => exact .parted h

lemma ofExcept (x : Except Fault α) :
    InStep R (fun a => x = .ok a) (Run.ofExcept x) (Run.ofExcept x) := by
  cases x with
  | ok a => exact pure rfl
  | error e => exact throw e

end InStep

/-! ### Steady relations -/

/-- A relation that sees the whole store and is kept when both stores become the same new one,
unless this hands out identifiers. -/
structure Steady (R : Bond) : Prop where
  store_eq : ∀ {s t}, R s t → s.store = t.store
  change : ∀ {s t st}, R s t → st.nextType = s.store.nextType →
    R { s with store := st } { t with store := st }

namespace Steady

variable (hR : Steady R)
include hR

lemma ask (question : Store → Except Fault α) :
    InStep R (fun _ => True) (Run.ask question) (Run.ask question) := by
  intro s t hst
  unfold Run.ask
  rw [hR.store_eq hst]
  cases question t.store with
  | ok a => exact .ok trivial hst
  | error e => exact .error hst

lemma update {update : Store → Except Fault Store}
    (h : ∀ {st st'}, update st = .ok st' → st'.nextType = st.nextType) :
    InStep R (fun _ => True) (Run.change update) (Run.change update) := by
  intro s t hst
  unfold Run.change
  rw [hR.store_eq hst]
  cases hu : update t.store with
  | ok st => exact .ok trivial (hR.change hst (by rw [h hu, hR.store_eq hst]))
  | error e => exact .error hst

lemma step {step : Store → α × Store} (h : ∀ st, (step st).2.nextType = st.nextType) :
    InStep R (fun _ => True) (Run.step step) (Run.step step) := by
  intro s t hst
  unfold Run.step
  rw [hR.store_eq hst]
  exact .ok trivial (hR.change hst (by rw [h, hR.store_eq hst]))

/-- What follows a question for the whole state may use that the two stores are equal. -/
lemma get_bind {f g : State → Run α}
    (h : ∀ s t, s.store = t.store → InStep R Q (f s) (g t)) :
    InStep R Q (get >>= f) (get >>= g) :=
  fun s t hst => h s t (hR.store_eq hst) s t hst

end Steady

end Run

end LateBinding
