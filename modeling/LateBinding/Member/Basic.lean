import LateBinding.Member.Kind
import LateBinding.Param
import LateBinding.Script.Basic

/-!
# Members

A member of a type: what it is called, who may see it, what it takes and gives, and how it is
implemented. The implementation says which kind of member it is.
-/

namespace LateBinding

/-- Who may see a member. -/
inductive Visibility where
  | everywhere
  | derived
  | unit
  | declaring
deriving DecidableEq

/-- The word for a visibility. -/
def Visibility.name : Visibility → String
  | everywhere => "public"
  | derived => "protected"
  | unit => "internal"
  | declaring => "private"

/-- How a property is read or written, or a method is called. -/
inductive Accessor where
  /-- A slot of the declaring type: a static one if the member is static. -/
  | slot (index : Nat)
  | native (body : Script)

/-- The implementation of a member. -/
inductive Implementation where
  | field (slot : Nat) (readonly : Bool)
  | property (getter setter : Option Accessor)
  | method (accessor : Accessor)
  | constructor (body : Script)
  /-- The setter gets the indices and then the value. -/
  | indexer (getter setter : Option Script)

/-- The kind of member that a body implements. -/
def Implementation.kind : Implementation → Kind
  | field _ _ => .field
  | property _ _ => .property
  | method _ => .method
  | constructor _ => .constructor
  | indexer _ _ => .indexer

/-- A member of a type. -/
structure Member where
  name : String
  /-- The type that declares the member. -/
  declaring : TypeId
  isStatic : Bool
  visibility : Visibility
  /-- What a call has to pass; empty for fields and properties. -/
  params : List Param
  /-- The type of a field, property or indexer, the result of a method, the type that a constructor
  makes. -/
  valueType : TypeId
  /-- Storage or an accessor that a property or indexer brought with it. -/
  isSynthesized : Bool
  body : Implementation

namespace Member

/-- The kind of a member, which its implementation shows. -/
def kind (m : Member) : Kind := m.body.kind

/-- Whether everyone may see the member. -/
def isPublic (m : Member) : Bool := m.visibility = .everywhere

/-- Whether a value can be read through the member. -/
def isReadable (m : Member) : Bool :=
  match m.body with
  | .field _ _ => true
  | .property getter _ => getter.isSome
  | .indexer getter _ => getter.isSome
  | _ => false

/-- Whether a value can be written through the member. -/
def isWritable (m : Member) : Bool :=
  match m.body with
  | .field _ readonly => !readonly
  | .property _ setter => setter.isSome
  | .indexer _ setter => setter.isSome
  | _ => false

/-- Whether some parameter is passed by reference. -/
def hasRefParams (m : Member) : Bool := m.params.any (·.byRef)

/-- Whether two parameter lists agree place by place. -/
def agree (fits : Param → Param → Bool) : List Param → List Param → Bool
  | [], [] => true
  | p :: ps, q :: qs => fits p q && agree fits ps qs
  | _, _ => false

/-- Whether a requested parameter list selects the member. -/
def acceptsParams (m : Member) (wanted : List Param) : Bool :=
  agree Param.accepts wanted m.params

/-- Whether two members have the same kind, name and parameter list. -/
def sameSignature (m n : Member) : Bool :=
  m.kind == n.kind && m.name == n.name && m.params == n.params

/-- The text of a member: kind and name, and for what is called or indexed the parameters. -/
def text (m : Member) : String :=
  let params := "(" ++ ", ".intercalate (m.params.map Param.text) ++ ")"
  m.kind.name ++ " " ++ m.name ++
    match m.kind with
    | .field => ""
    | .property => ""
    | _ => params

end Member

end LateBinding
