import LateBinding.TypeId

/-!
# Parameters

One position of a parameter list: a type, and whether the argument is passed by reference.
-/

namespace LateBinding

/-- One position of a parameter list. -/
structure Param where
  type : TypeId
  /-- The callee may put a new value into the argument's place. -/
  byRef : Bool := false
deriving DecidableEq

namespace Param

/-- The position that asks for nothing. -/
def any : Param := ⟨TypeId.any, false⟩

/-- Whether a requested position selects a declared one. -/
def accepts (wanted declared : Param) : Bool :=
  wanted.type == TypeId.any || wanted == declared

/-- The text of a parameter: its type's tag, marked if it is passed by reference. -/
def text (p : Param) : String :=
  if p.byRef then "ref " ++ p.type.tag else p.type.tag

end Param

end LateBinding
