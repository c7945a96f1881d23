/-!
# Kinds of members

The five kinds of members, and sets of kinds as a query asks for them.
-/

namespace LateBinding

/-- The kind of one member. -/
inductive Kind where
  | field
  | property
  | method
  | constructor
  | indexer
deriving DecidableEq

/-- All kinds, in the order in which they are listed. -/
def Kind.all : List Kind := [field, property, method, constructor, indexer]

/-- The word for a kind. -/
def Kind.name : Kind → String
  | field => "field"
  | property => "property"
  | method => "method"
  | constructor => "constructor"
  | indexer => "indexer"

/-- A set of kinds. -/
structure KindSet where
  field : Bool := false
  property : Bool := false
  method : Bool := false
  constructor : Bool := false
  indexer : Bool := false
deriving DecidableEq

namespace KindSet

/-- The set of no kind. -/
def empty : KindSet := {}

/-- The kinds that hold a value under a name. -/
def fieldsAndProperties : KindSet := { field := true, property := true }

/-- The set of all kinds. -/
def all : KindSet := ⟨true, true, true, true, true⟩

/-- Whether the set holds a kind. -/
def has (s : KindSet) : Kind → Bool
  | .field => s.field
  | .property => s.property
  | .method => s.method
  | .constructor => s.constructor
  | .indexer => s.indexer

/-- The set of one kind. -/
def single : Kind → KindSet
  | .field => { field := true }
  | .property => { property := true }
  | .method => { method := true }
  | .constructor => { constructor := true }
  | .indexer => { indexer := true }

/-- The kinds of either set. -/
def union (s t : KindSet) : KindSet where
  field := s.field || t.field
  property := s.property || t.property
  method := s.method || t.method
  constructor := s.constructor || t.constructor
  indexer := s.indexer || t.indexer

/-- The kinds of both sets. -/
def inter (s t : KindSet) : KindSet where
  field := s.field && t.field
  property := s.property && t.property
  method := s.method && t.method
  constructor := s.constructor && t.constructor
  indexer := s.indexer && t.indexer

/-- The set whose kinds are the one bits of a number, the field the lowest. -/
def ofBits (n : Nat) : KindSet :=
  ⟨n.testBit 0, n.testBit 1, n.testBit 2, n.testBit 3, n.testBit 4⟩

/-- The number whose one bits are the kinds of the set. -/
def toBits (s : KindSet) : Nat :=
  s.field.toNat + 2 * s.property.toNat + 4 * s.method.toNat + 8 * s.constructor.toNat +
    16 * s.indexer.toNat

/-- The kinds of the set joined by "or"; the empty set is just a member. -/
def text (s : KindSet) : String :=
  match (Kind.all.filter s.has).map Kind.name with
  | [] => "member"
  | names => " or ".intercalate names

end KindSet

end LateBinding
