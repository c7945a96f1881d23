import LateBinding.Script.Eval

/-!
# Sessions

A session is a registry together with the store and the caches that belong to it. Types are
registered and unloaded between the operations of its binder, never during one.
-/

namespace LateBinding

/-- A registry with its store and caches. -/
structure Session where
  registry : Registry := .initial
  config : Config := {}
  state : State := {}

namespace Session

/-- The binder of the session, whose native bodies are run as scripts. -/
def binder (s : Session) : Binder := .scripted s.registry s.config

/-- Runs an operation of the binder. What it has changed before a fault stays changed. -/
def run {α : Type} (s : Session) (operation : Binder → Run α) : Except Fault α × Session :=
  match operation s.binder s.state with
  | .ok a state => (.ok a, { s with state })
  | .error e state => (.error e, { s with state })

/-- Registers a type. -/
def register (s : Session) (spec : TypeSpec) : Except Fault (TypeId × Session) := do
  let (type, registry, store) ← s.registry.register s.state.store spec
  pure (type, { s with registry, state := { s.state with store } })

/-- Forgets cached entries that involve one of the types; gives their number. -/
def purge (s : Session) (types : List TypeId) : Nat × Session :=
  let (removed, caches) := s.state.caches.purge types
  (removed, { s with state := { s.state with caches } })

/-- Unloads a type and forgets the cached entries that involve it or a known type that derives from
it; gives their number. -/
def unload (s : Session) (type : TypeId) : Except Fault (Nat × Session) :=
  match s.registry.unload type with
  | none => throw (.unknownType type)
  | some registry => pure ({ s with registry }.purge (registry.descendants type ++ [type]))

/-- Forgets all that is cached. -/
def clearCaches (s : Session) : Session :=
  { s with state := { s.state with caches := s.state.caches.clear } }

/-- Keeps a value from outside, and with it the descriptors of the types that it mentions. -/
def hold (s : Session) (v : Value) : Session :=
  { s with state := { s.state with store := s.state.store.hold v } }

end Session

end LateBinding
