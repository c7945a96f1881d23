/-!
# Finite maps

A finite map kept as the list of its entries, the oldest first. The view of a table is `get?`.
-/

namespace LateBinding

/-- A finite map: its entries in the order in which their keys were first put in. -/
structure Table (κ α : Type) where
  entries : List (κ × α) := []

namespace Table

variable {κ α : Type} [DecidableEq κ]

/-- What the table holds for `k`. -/
def get? (t : Table κ α) (k : κ) : Option α := t.entries.lookup k

/-- Whether the table holds something for `k`. -/
def contains (t : Table κ α) (k : κ) : Bool := (t.get? k).isSome

/-- Forgets what the table holds for `k`. -/
def erase (t : Table κ α) (k : κ) : Table κ α := ⟨t.entries.filter fun e => e.1 ≠ k⟩

/-- Puts `a` under `k`, in place of what was there. -/
def insert (t : Table κ α) (k : κ) (a : α) : Table κ α := ⟨(t.erase k).entries ++ [(k, a)]⟩

/-- Keeps the entries whose key passes the test. -/
def keep (t : Table κ α) (p : κ → Bool) : Table κ α := ⟨t.entries.filter fun e => p e.1⟩

/-- The number of entries. -/
def size (t : Table κ α) : Nat := t.entries.length

/-- The keys, the oldest first. -/
def keys (t : Table κ α) : List κ := t.entries.map (·.1)

/-- The held values, the oldest first. -/
def values (t : Table κ α) : List α := t.entries.map (·.2)

end Table

end LateBinding
