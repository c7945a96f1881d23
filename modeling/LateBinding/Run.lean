import LateBinding.Caches
import LateBinding.Registry.Basic

/-!
# Running

An operation works on the store and the caches and gives a result or a fault; what it has changed
before a fault stays changed. The registry does not change while an operation runs.

What a native body does is left open: operations take its meaning as a part of their context, so
what is said about them holds for all bodies that neither register nor unload types. Constructions
whose bodies may do that as well are in `Proofs.Session.Bodies`.
-/

namespace LateBinding

/-- What operations change. -/
structure State where
  store : Store := {}
  caches : Caches := {}

/-- An operation with a result in `α`. -/
abbrev Run := EStateM Fault State

/-- What native bodies do: given the body, the declaring type, the receiver and the arguments, a run
that gives the result and the arguments as the body leaves them. -/
abbrev Native := Script → Shape → Value → List Value → Run (Value × List Value)

/-- What operations rely on: the known types, and the meaning of native bodies. -/
structure Context where
  registry : Registry
  native : Native

namespace Run

/-- A result or fault that depends on nothing. -/
def ofExcept {α : Type} : Except Fault α → Run α
  | .ok a => pure a
  | .error e => throw e

/-- Asks the store. -/
def ask {α : Type} (question : Store → Except Fault α) : Run α := fun s =>
  ofExcept (question s.store) s

/-- Changes the store; a fault leaves it as it is. -/
def change (update : Store → Except Fault Store) : Run Unit := fun s =>
  match update s.store with
  | .ok st => .ok () { s with store := st }
  | .error e => .error e s

/-- Changes the store and gives a result. -/
def step {α : Type} (step : Store → α × Store) : Run α := fun s =>
  let (a, st) := step s.store
  .ok a { s with store := st }

/-- What is remembered under a key; if nothing is, what is made now and remembered from now on. -/
def fetch (c : Category) (key : c.Key) (make : Unit → Except Fault c.Item) :
    Run (Stamped c.Item) := fun s =>
  match Memo.fetch key (Memo.lift make) (s.caches.memo c) with
  | .ok held m => .ok held { s with caches := s.caches.setMemo c m }
  | .error e m => .error e { s with caches := s.caches.setMemo c m }

end Run

end LateBinding
