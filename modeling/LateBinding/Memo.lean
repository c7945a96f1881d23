import LateBinding.Table

/-!
# Remembered results

A memo remembers the result of a computation under a key. The first result that is stored for a key
is the one that every later call gets; a failed computation leaves nothing behind. Hits and misses
are counted, and each stored result carries the number of the store that made it, so that two
results can be told to be the very same one.
-/

namespace LateBinding

/-- A remembered result and the number of the store that made it. -/
structure Stamped (α : Type) where
  value : α
  stamp : Nat

/-- A memo: what is remembered, and what its calls have counted. -/
structure Memo (κ α : Type) where
  table : Table κ (Stamped α) := {}
  hits : Nat := 0
  misses : Nat := 0
  /-- How many results have ever been stored. -/
  stores : Nat := 0

/-- The counters of a memo and the number of its entries. -/
structure Memo.Stats where
  hits : Nat
  misses : Nat
  entries : Nat
deriving DecidableEq

namespace Memo

variable {ε κ α : Type} [DecidableEq κ]

/-- What is remembered for the key, without counting the question. -/
def get? (m : Memo κ α) (key : κ) : Option (Stamped α) := m.table.get? key

/-- The number of remembered results. -/
def size (m : Memo κ α) : Nat := m.table.size

/-- The counters. -/
def stats (m : Memo κ α) : Stats := ⟨m.hits, m.misses, m.size⟩

/-- Remembers `a` for the key, unless something is remembered already; gives what is remembered. -/
def store (m : Memo κ α) (key : κ) (a : α) : Stamped α × Memo κ α :=
  match m.get? key with
  | some held => (held, m)
  | none =>
    let new := ⟨a, m.stores⟩
    (new, { m with table := m.table.insert key new, stores := m.stores + 1 })

/-- What is remembered for the key; if nothing is, the result of `make`, which is then remembered.
While `make` runs it may use the memo itself. -/
def fetch (key : κ) (make : EStateM ε (Memo κ α) α) : EStateM ε (Memo κ α) (Stamped α) := fun m =>
  match m.get? key with
  | some held => .ok held { m with hits := m.hits + 1 }
  | none =>
    match make { m with misses := m.misses + 1 } with
    | .error e m => .error e m
    | .ok a m => let (held, m) := m.store key a; .ok held m

/-- A computation that does not use the memo. -/
def lift (make : Unit → Except ε α) : EStateM ε (Memo κ α) α := fun m =>
  match make () with
  | .ok a => .ok a m
  | .error e => .error e m

/-- Forgets the results whose key is doomed, and tells how many those were. -/
def purge (m : Memo κ α) (doomed : κ → Bool) : Nat × Memo κ α :=
  let kept := m.table.keep fun k => !doomed k
  (m.table.size - kept.size, { m with table := kept })

/-- Forgets all results and starts counting anew. -/
def clear (m : Memo κ α) : Memo κ α := { stores := m.stores }

end Memo

end LateBinding
