import LateBinding.Invoker.Key
import LateBinding.Lookup.Find

/-!
# Copying between types

A copy from one type to another goes from each readable member of the source to the first writable
member of the target that has the same name. Members without a counterpart are passed over.
-/

namespace LateBinding

/-- Which members a copy goes from and to. -/
structure CopyOptions where
  sourceKinds : KindSet := .fieldsAndProperties
  targetKinds : KindSet := .fieldsAndProperties
  flags : Flags := .instanceAny
  /-- The names of the members to copy; all members if there are none. -/
  names : List String := []
deriving DecidableEq

namespace CopyOptions

/-- The options that copy everything between two sets of kinds. -/
def between (sourceKinds targetKinds : KindSet) : CopyOptions := { sourceKinds, targetKinds }

/-- Copies fields to fields. -/
def fields : CopyOptions := between (.single .field) (.single .field)

/-- Copies properties to properties. -/
def properties : CopyOptions := between (.single .property) (.single .property)

/-- Copies fields to properties. -/
def fieldsToProperties : CopyOptions := between (.single .field) (.single .property)

/-- Copies properties to fields. -/
def propertiesToFields : CopyOptions := between (.single .property) (.single .field)

/-- The flags of both searches. Between different kinds the case of names does not count, since the
kinds tend to be spelled differently. -/
def effectiveFlags (o : CopyOptions) : Flags :=
  if o.sourceKinds = o.targetKinds then o.flags else { o.flags with ignoreCase := true }

end CopyOptions

/-- The member among `targets` that a source member is copied to. -/
def counterpart? (flags : Flags) (targets : List Member) (source : Member) : Option Member :=
  targets.find? fun t => flags.fold source.name == flags.fold t.name

namespace Registry

/-- The members that a copy reads, in the order in which it reads them. -/
def copySources (reg : Registry) (source : TypeId) (o : CopyOptions) :
    Except Fault (List Member) := do
  let found ← reg.findNamed source (o.sourceKinds.inter .fieldsAndProperties) o.effectiveFlags
    o.names
  pure (found.filter (·.isReadable))

/-- The members that a copy may write. -/
def copyTargets (reg : Registry) (target : TypeId) (o : CopyOptions) :
    Except Fault (List Member) := do
  let found ← reg.findAll target
    { kinds := o.targetKinds.inter .fieldsAndProperties, flags := o.effectiveFlags }
  pure (found.filter (·.isWritable))

/-- The pairs of members that a copy goes through. -/
def copyPairs (reg : Registry) (source target : TypeId) (o : CopyOptions) :
    Except Fault (List (Member × Member)) := do
  let sources ← reg.copySources source o
  let targets ← reg.copyTargets target o
  pure <| sources.filterMap fun s => (counterpart? o.effectiveFlags targets s).map (s, ·)

end Registry

/-- The key of the copy from one type to another along given pairs. -/
def CopyKey.ofPairs (source target : TypeId) (o : CopyOptions) (pairs : List (Member × Member)) :
    CopyKey where
  source
  target
  sourceKinds := o.sourceKinds
  targetKinds := o.targetKinds
  pairs := pairs.map fun (s, t) => PairKey.ofPair s t

end LateBinding
