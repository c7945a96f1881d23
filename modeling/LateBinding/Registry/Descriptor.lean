import LateBinding.Member.Basic
import LateBinding.Store

/-!
# Descriptors

What is known of a registered type: its shape, what its slots start with and the members that it
declares.
-/

namespace LateBinding

/-- A registered type. -/
structure Descriptor extends Shape where
  /-- What the instance slots start with. -/
  defaults : List Value
  /-- The members that the type itself declares, in order. -/
  members : List Member

/-- The descriptor of a builtin type, which declares nothing. -/
def Descriptor.builtin (id : TypeId) (name : String) (isValueType : Bool) : Descriptor where
  id
  name
  base := if id = TypeId.object then none else some TypeId.object
  isValueType
  ancestors := if id = TypeId.object then [id] else [id, TypeId.object]
  slotNames := []
  staticNames := []
  defaults := []
  members := []

/-- The body of the first constructor that takes nothing. -/
def Descriptor.defaultConstructor? (d : Descriptor) : Option Script :=
  d.members.findSome? fun m => match m.body with
    | .constructor body => if m.params.isEmpty then some body else none
    | _ => none

/-- Makes an instance with every slot at its start, without running a constructor. -/
def Store.instantiate (st : Store) (d : Descriptor) : Value × Store :=
  if d.isValueType then
    (.struct d.toShape d.defaults, st)
  else
    (.object d.toShape st.nextRef, st.addCell d.defaults)

end LateBinding
