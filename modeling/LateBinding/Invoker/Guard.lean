import LateBinding.Registry.Basic

/-!
# Guards

What an invoker demands when it runs: of the receiver, of one value and of a list of arguments. A
guard knows all that it needs of the types from the moment it is made.
-/

namespace LateBinding

/-- What is demanded of a receiver. -/
structure ReceiverGuard where
  /-- The type that the invoker was made for. -/
  target : TypeId
  name : String
  isValueType : Bool
deriving DecidableEq

namespace ReceiverGuard

/-- The guard of the instances of a type. -/
def ofType (d : Descriptor) : ReceiverGuard := ⟨d.id, d.name, d.isValueType⟩

/-- The receiver has to be an instance of the target type. -/
def check (g : ReceiverGuard) (receiver : Value) : Except Fault Unit :=
  if receiver.isNull then
    throw (.refused (.nullReceiver g.name))
  else if receiver.isAssignableTo g.target g.isValueType then
    pure ()
  else
    throw (.mismatch g.name receiver.typeName)

/-- The receiver has to be an instance of the target type, and writing to it must not be in vain. -/
def checkMutable (g : ReceiverGuard) (receiver : Value) : Except Fault Unit := do
  g.check receiver
  match receiver with
  | .struct _ _ => if g.isValueType then throw (.refused (.unwrappedCopy g.name))
  | _ => pure ()

end ReceiverGuard

/-- What is demanded of a value. -/
structure ValueGuard where
  /-- The declared type. -/
  type : TypeId
  name : String
  isValueType : Bool
  byRef : Bool := false
deriving DecidableEq

namespace ValueGuard

/-- The guard of the values of a type. -/
def ofType (reg : Registry) (type : TypeId) : ValueGuard :=
  { type, name := reg.nameOf type, isValueType := reg.isValueType type }

/-- The guard of the arguments for a parameter. -/
def ofParam (reg : Registry) (p : Param) : ValueGuard :=
  { ofType reg p.type with byRef := p.byRef }

/-- The value has to be assignable; what is passed by reference may also be null. -/
def check (g : ValueGuard) (v : Value) : Except Fault Unit :=
  if (g.byRef && v.isNull) || v.isAssignableTo g.type g.isValueType then
    pure ()
  else
    throw (.mismatch g.name v.typeName)

end ValueGuard

/-- What is demanded of a list of arguments. -/
structure ArgumentsGuard where
  /-- The text of the member that is called. -/
  member : String
  params : List ValueGuard
deriving DecidableEq

namespace ArgumentsGuard

/-- The guard of the arguments of a member. -/
def ofMember (reg : Registry) (m : Member) : ArgumentsGuard :=
  ⟨m.text, m.params.map (ValueGuard.ofParam reg)⟩

/-- Checks values one after the other. -/
def checkEach : List ValueGuard → List Value → Except Fault Unit
  | g :: gs, v :: vs => do
    g.check v
    checkEach gs vs
  | _, _ => pure ()

/-- There have to be as many arguments as parameters, and each has to fit. -/
def check (g : ArgumentsGuard) (arguments : List Value) : Except Fault Unit :=
  if arguments.length = g.params.length then
    checkEach g.params arguments
  else
    throw (.refused (.argumentCount g.member g.params.length arguments.length))

end ArgumentsGuard

end LateBinding
