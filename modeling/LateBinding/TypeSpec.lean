import LateBinding.Member.Basic

/-!
# Type definitions

What is said about a type when it is registered: its name, its base and its members in order.
-/

namespace LateBinding

/-- A storage field. Without an initial value it starts with the default of its type. -/
structure FieldSpec where
  name : String
  type : TypeId
  visibility : Visibility := .declaring
  isStatic : Bool := false
  readonly : Bool := false
  initial : Option Value := none

/-- How a property is implemented. -/
inductive PropertySpec.Body where
  /-- By a backing field of its own. -/
  | auto (getOnly : Bool)
  | native (getter setter : Option Script)

/-- A property: a named pair of accessors. -/
structure PropertySpec where
  name : String
  type : TypeId
  visibility : Visibility := .everywhere
  isStatic : Bool := false
  body : PropertySpec.Body

/-- A method. -/
structure MethodSpec where
  name : String
  params : List Param := []
  result : TypeId := TypeId.void
  visibility : Visibility := .everywhere
  isStatic : Bool := false
  body : Script

/-- A constructor; its body runs on an instance with every slot at its start. -/
structure ConstructorSpec where
  params : List Param := []
  visibility : Visibility := .everywhere
  body : Script

/-- An indexer: a pair of accessors that take indices. -/
structure IndexerSpec where
  type : TypeId
  params : List Param := []
  visibility : Visibility := .everywhere
  getter : Option Script := none
  setter : Option Script := none

/-- One definition in the body of a type. -/
inductive MemberSpec where
  | field (spec : FieldSpec)
  | property (spec : PropertySpec)
  | method (spec : MethodSpec)
  | constructor (spec : ConstructorSpec)
  | indexer (spec : IndexerSpec)

/-- A type to be registered. -/
structure TypeSpec where
  name : String
  base : TypeId := TypeId.object
  isValueType : Bool := false
  members : List MemberSpec := []

end LateBinding
