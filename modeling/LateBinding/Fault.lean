import LateBinding.TypeId
import LateBinding.Member.Kind

/-!
# Faults

Every way in which an operation can fail, by its cause, and the one place where the causes are put
into words.
-/

namespace LateBinding

/-- What a search looked for in vain. -/
inductive Sought where
  /-- A member of one of the kinds. -/
  | member (kinds : KindSet)
  /-- An instance slot with a given name. -/
  | field
  /-- A static slot with a given name. -/
  | staticField
deriving DecidableEq

/-- Why an operation is refused whatever the values are. Members are given by their text. -/
inductive Refusal where
  | nameTaken (name : String)
  | valueTypeAsBase (name base : String)
  | valueTypeWithBase (name : String)
  | nullTarget
  | nullReceiver (typeName : String)
  | slotOfNull
  | noSlots (typeName : String)
  | noFields (typeName : String)
  /-- A write to a value type that no wrapper holds would be lost. -/
  | unwrappedCopy (typeName : String)
  | argumentCount (member : String) (expected got : Nat)
  | noGetter (property : String)
  | noSetter (property : String)
  | readonly (field : String)
  | notAValue (member : String)
  | notAMethod (member : String)
  | notAConstructor (member : String)
  | notAnIndexer (member : String)
  | indexerWithoutGetter (typeName : String)
  | indexerWithoutSetter (typeName : String)
  | rank (rank indices : Nat)
  | elementRank (rank indices : Nat)
  | valueCount (expected got : Nat)
  /-- A refusal that a native body words itself. -/
  | custom (text : String)
deriving DecidableEq

/-- Why an operation failed. -/
inductive Fault where
  | notFound (sought : Sought) (name typeName : String)
  | ambiguous (kinds : KindSet) (name typeName : String) (candidates : Nat)
  | mismatch (expected actual : String)
  | indexOutOfRange (index : Int64) (length : Nat)
  | unknownType (type : TypeId)
  | refused (why : Refusal)
  /-- Native bodies called each other more deeply than is allowed. -/
  | depthExceeded
deriving DecidableEq

/-- The words for what was looked for. -/
def Sought.text : Sought → String
  | member kinds => kinds.text
  | field => "field"
  | staticField => "static field"

/-- The words for a refusal. -/
def Refusal.text : Refusal → String
  | nameTaken name => s!"type '{name}' is already registered"
  | valueTypeAsBase name base => s!"type '{name}' cannot derive from value type '{base}'"
  | valueTypeWithBase name => s!"value type '{name}' cannot declare a base type"
  | nullTarget => "target instance is null"
  | nullReceiver typeName => s!"instance member of '{typeName}' accessed on a null receiver"
  | slotOfNull => "instance member accessed on a null receiver"
  | noSlots typeName => s!"values of type '{typeName}' have no instance slots"
  | noFields typeName => s!"'{typeName}' has no fields"
  | unwrappedCopy typeName =>
    s!"cannot mutate an unwrapped '{typeName}' copy; wrap the value first"
  | argumentCount member expected got => s!"{member} expects {expected} arguments, got {got}"
  | noGetter property => s!"property '{property}' has no getter"
  | noSetter property => s!"property '{property}' has no setter"
  | readonly field => s!"field '{field}' is readonly"
  | notAValue member => s!"{member} is not a field or property"
  | notAMethod member => s!"{member} is not a method"
  | notAConstructor member => s!"{member} is not a constructor"
  | notAnIndexer member => s!"{member} is not an indexer"
  | indexerWithoutGetter typeName => s!"indexer of '{typeName}' has no getter"
  | indexerWithoutSetter typeName => s!"indexer of '{typeName}' has no setter"
  | rank dims indices => s!"array of rank {dims} indexed with {indices} indices"
  | elementRank dims indices =>
    s!"element access compiled for rank {dims} called with {indices} indices"
  | valueCount expected got => s!"multi-setter expects {expected} values, got {got}"
  | custom text => text

/-- The message of a fault. -/
def Fault.message : Fault → String
  | notFound sought name typeName => s!"No {sought.text} named '{name}' found on type '{typeName}'"
  | ambiguous kinds name typeName candidates =>
    s!"Ambiguous match for {kinds.text} '{name}' on type '{typeName}' ({candidates} candidates)"
  | mismatch expected actual => s!"Type mismatch: expected {expected}, got {actual}"
  | indexOutOfRange index length => s!"Index {index.toInt} out of range for length {length}"
  | unknownType type => s!"Unknown type handle {type.tag}"
  | refused why => s!"Invalid operation: {why.text}"
  | depthExceeded => "Native bodies are nested too deeply"

end LateBinding
