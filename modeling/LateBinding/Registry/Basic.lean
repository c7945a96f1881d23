import LateBinding.Registry.Layout

/-!
# The registry

The registry knows types by identifier and by name. Types are registered, asked for and unloaded;
the builtin types are always there.

A type lists its ancestors when it is registered. Unloading a base leaves the list of a derived type
as it is, and a question that has to go through the base then fails.
-/

namespace LateBinding

/-- The known types. -/
structure Registry where
  types : Table TypeId Descriptor
  names : Table String TypeId

namespace Registry

/-- The registry that knows the builtin types only. -/
def initial : Registry where
  types := ⟨TypeId.builtins.map fun (id, name, isValueType) =>
    (id, Descriptor.builtin id name isValueType)⟩
  names := ⟨TypeId.builtins.map fun (id, name, _) => (name, id)⟩

/-! ### Questions -/

/-- The descriptor of a type, if it is known. -/
def get? (reg : Registry) (type : TypeId) : Option Descriptor := reg.types.get? type

/-- Whether a type is known. -/
def contains (reg : Registry) (type : TypeId) : Bool := reg.types.contains type

/-- The number of known types. -/
def size (reg : Registry) : Nat := reg.types.size

/-- The descriptor of a type that has to be known. -/
def known (reg : Registry) (type : TypeId) : Except Fault Descriptor :=
  match reg.get? type with
  | some d => pure d
  | none => throw (.unknownType type)

/-- The type of a name. -/
def named? (reg : Registry) (name : String) : Option Descriptor :=
  (reg.names.get? name).bind reg.get?

/-- The type and its ancestors, all of which have to be known. -/
def hierarchy (reg : Registry) (type : TypeId) : Except Fault (List Descriptor) := do
  (← reg.known type).ancestors.mapM reg.known

/-- The known types that derive from a type, in the order of their registration. -/
def descendants (reg : Registry) (type : TypeId) : List TypeId :=
  (reg.types.values.filter fun d => d.id ≠ type && d.derivesFrom type).map (·.id)

/-- Whether the type is known as a value type. -/
def isValueType (reg : Registry) (type : TypeId) : Bool :=
  (reg.get? type).any (·.isValueType)

/-- Whether a value of the first type may be put where the second one is declared. -/
def isAssignable (reg : Registry) (source target : TypeId) : Bool :=
  target == TypeId.any || target == TypeId.object || source == target ||
    (reg.get? source).any (·.derivesFrom target)

/-- The name of a type; an unknown one has its tag for a name. -/
def nameOf (reg : Registry) (type : TypeId) : String :=
  if type = TypeId.any then "?"
  else match reg.get? type with
    | some d => d.name
    | none => type.tag

/-- What a slot of a type starts with. -/
def defaultValue (reg : Registry) (type : TypeId) : Value :=
  if type = TypeId.bool then .bool false
  else if type = TypeId.int then .int 0
  else if type = TypeId.float then .float 0
  else match reg.get? type with
    | some d => if d.isValueType then .struct d.toShape d.defaults else .null
    | none => .null

/-- Whether an argument of an inferred type may go to a declared position: by value, wherever its
type is assignable. -/
def admits (reg : Registry) (argument declared : Param) : Bool :=
  argument.type == TypeId.any ||
    (!declared.byRef && reg.isAssignable argument.type declared.type)

/-- Whether arguments of inferred types can call a member. -/
def admitsParams (reg : Registry) (m : Member) (arguments : List Param) : Bool :=
  Member.agree reg.admits arguments m.params

/-- Whether the descriptor of a type still exists: the type is known, or an instance of it is kept,
or a known type starts or keeps a slot with one. -/
def isAlive (reg : Registry) (st : Store) (type : TypeId) : Bool :=
  reg.contains type || st.mentions type ||
    reg.types.values.any fun d =>
      d.defaults.any (·.mentions type) || (st.staticsOf d.id).any (·.mentions type)

/-! ### Changes -/

/-- The base of a definition, if the definition is in order. -/
def checkSpec (reg : Registry) (spec : TypeSpec) : Except Fault Descriptor := do
  if reg.names.contains spec.name then
    throw (.refused (.nameTaken spec.name))
  let base ← reg.known spec.base
  if base.isValueType then
    throw (.refused (.valueTypeAsBase spec.name base.name))
  if spec.isValueType && base.id != TypeId.object then
    throw (.refused (.valueTypeWithBase spec.name))
  pure base

/-- Adds a type that has been laid out. -/
def add (reg : Registry) (d : Descriptor) : Registry where
  types := reg.types.insert d.id d
  names := reg.names.insert d.name d.id

/-- Registers a type under the next identifier. A definition that is not in order changes nothing
and uses up no identifier. -/
def register (reg : Registry) (st : Store) (spec : TypeSpec) :
    Except Fault (TypeId × Registry × Store) := do
  let base ← reg.checkSpec spec
  let type := st.nextType
  let layout := Layout.ofSpec reg.defaultValue type base spec
  pure (type, reg.add (layout.toDescriptor base spec),
    { st with nextType := type.next, statics := st.statics.insert type layout.statics })

/-- Forgets a type; the builtin ones stay. -/
def unload (reg : Registry) (type : TypeId) : Option Registry :=
  if type.isBuiltin then
    none
  else
    (reg.get? type).map fun d => ⟨reg.types.erase type, reg.names.erase d.name⟩

end Registry

end LateBinding
