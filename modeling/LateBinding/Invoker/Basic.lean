import LateBinding.Invoker.Guard

/-!
# Invokers

An invoker is all that is needed to run one member on receivers of one target type: what it demands
of them and the place or the body to go to. It is plain data; two invokers that are equal do the
same.

How an invoker is made from a member is said in `Invoker.OfMember`, what it does in `Invoker.Run`.
-/

namespace LateBinding

/-- The place that a slot denotes. -/
inductive Place where
  /-- A slot of the receiver. -/
  | receiver (slot : Nat)
  /-- A static slot of a type. -/
  | static (owner : TypeId) (slot : Nat)
deriving DecidableEq

/-- A native body together with the type that declares it. -/
structure BoundScript where
  body : Script
  declaring : Shape

/-- What reads or writes a value. -/
inductive Access where
  | place (p : Place)
  | native (script : BoundScript)

/-- Reads a field or property. A static member has no receiver to guard. -/
structure Getter where
  receiver : Option ReceiverGuard
  access : Access

/-- Writes a field or property. -/
structure Setter where
  receiver : Option ReceiverGuard
  value : ValueGuard
  access : Access

/-- Writes several fields and properties one after the other. -/
structure BatchSetter where
  setters : List Setter

/-- Copies values from members of one type to members of another, pair by pair. -/
structure Copier where
  steps : List (Getter × Setter)

/-- What a method does once its arguments have been checked. -/
inductive MethodBody where
  | read (p : Place)
  /-- Writes the last argument. -/
  | write (p : Place) (storesValueType : Bool)
  | native (script : BoundScript)

/-- Calls a method. -/
structure Method where
  receiver : Option ReceiverGuard
  arguments : ArgumentsGuard
  body : MethodBody
  params : List Param

/-- Makes an instance: the constructors of the ancestors that take nothing, the root's first, and
then the chosen constructor. -/
structure Construction where
  arguments : ArgumentsGuard
  owner : Descriptor
  inherited : List BoundScript
  body : BoundScript
  params : List Param

/-- Reads through an indexer, or an element of an array. -/
inductive IndexReader where
  | element (rank : Nat)
  | indexer (receiver : ReceiverGuard) (indices : ArgumentsGuard) (script : BoundScript)

/-- Writes through an indexer, or an element of an array. -/
inductive IndexWriter where
  | element (rank : Nat)
  | indexer (receiver : ReceiverGuard) (indices : ArgumentsGuard) (value : ValueGuard)
      (script : BoundScript)

end LateBinding
