import LateBinding.Lookup.Query

/-!
# Keys

What a lookup or an invoker is remembered under. Keys are compared part by part, and a key involves
the types that it names; what is remembered under it is forgotten when one of those is unloaded.
-/

namespace LateBinding

/-- The key of a lookup by name. -/
structure QueryKey where
  target : TypeId
  query : Query
deriving DecidableEq

/-- The key of an invoker: the type that it is made for and the member that it serves. -/
structure CallKey where
  target : TypeId
  declaring : TypeId
  kinds : KindSet
  name : String
  params : List Param
  isStatic : Bool
deriving DecidableEq

/-- One pair of members in the key of a mapper. -/
structure PairKey where
  sourceDeclaring : TypeId
  sourceKind : Kind
  sourceName : String
  targetDeclaring : TypeId
  targetKind : Kind
  targetName : String
deriving DecidableEq

/-- The key of a mapper. -/
structure CopyKey where
  source : TypeId
  target : TypeId
  sourceKinds : KindSet
  targetKinds : KindSet
  pairs : List PairKey
deriving DecidableEq

/-- The name in the keys of array accesses. -/
def elementName : String := "[]"

namespace QueryKey

/-- Whether the key names a type. -/
def involves (k : QueryKey) (type : TypeId) : Bool := k.target == type

end QueryKey

namespace CallKey

/-- Whether the key names a type as target, as declaring type or among the parameters. -/
def involves (k : CallKey) (type : TypeId) : Bool :=
  k.target == type || k.declaring == type || k.params.any (·.type == type)

/-- The key of a member on a target type. -/
def ofMember (target : TypeId) (m : Member) : CallKey where
  target
  declaring := m.declaring
  kinds := .single m.kind
  name := m.name
  params := m.params
  isStatic := m.isStatic

/-- The key of the element access to arrays of a rank. -/
def ofRank (rank : Nat) : CallKey where
  target := TypeId.array
  declaring := TypeId.array
  kinds := .single .indexer
  name := elementName
  params := List.replicate rank ⟨TypeId.int, false⟩
  isStatic := false

/-- How a member is named in the key of a batch setter: an inherited one with its declaring type. -/
def nameIn (target : TypeId) (m : Member) : String :=
  if m.declaring = target then m.name else m.declaring.tag ++ "::" ++ m.name

/-- The key of a setter for several members at once. -/
def ofMembers (target : TypeId) (members : List Member) : CallKey where
  target
  declaring := target
  kinds := (members.map fun m => KindSet.single m.kind).foldl KindSet.union .empty
  name := ",".intercalate (members.map (nameIn target))
  params := []
  isStatic := (members.head?.map (·.isStatic)).getD false

/-- Whether some parameter is passed by reference. -/
def hasRefParams (k : CallKey) : Bool := k.params.any (·.byRef)

/-- The flags that select the scope of the key's member. -/
def scope (k : CallKey) : Flags :=
  if k.isStatic then { statics := true } else { instances := true }

/-- Whether the key's members are all of one given kind. -/
def isKind (k : CallKey) (kind : Kind) : Bool := k.kinds == .single kind

end CallKey

/-- The part of a key that stands for a pair of members. -/
def PairKey.ofPair (source target : Member) : PairKey where
  sourceDeclaring := source.declaring
  sourceKind := source.kind
  sourceName := source.name
  targetDeclaring := target.declaring
  targetKind := target.kind
  targetName := target.name

namespace CopyKey

/-- Whether the key names a type, as one of the two or as the declaring type of some member. -/
def involves (k : CopyKey) (type : TypeId) : Bool :=
  k.source == type || k.target == type ||
    k.pairs.any fun p => p.sourceDeclaring == type || p.targetDeclaring == type

end CopyKey

end LateBinding
