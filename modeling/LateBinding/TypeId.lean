/-!
# Type identifiers

Every type is named by a number. The numbers below `firstUser` belong to the builtin types; all
others are handed out one after the other and never twice.
-/

namespace LateBinding

/-- The number that names a type. -/
@[ext] structure TypeId where
  code : Nat
deriving DecidableEq

namespace TypeId

/-- Stands for every type in a requested parameter list; never the type of a registered type. -/
def any : TypeId := ⟨0⟩

/-- The root of every hierarchy. -/
def object : TypeId := ⟨1⟩

/-- Truth values. -/
def bool : TypeId := ⟨2⟩

/-- Whole numbers of 64 bits with a sign. -/
def int : TypeId := ⟨3⟩

/-- Binary numbers of 64 bits. -/
def float : TypeId := ⟨4⟩

/-- Texts, which never change. -/
def string : TypeId := ⟨5⟩

/-- The type of the arrays of every rank. -/
def array : TypeId := ⟨6⟩

/-- The result type of a method that gives nothing back. -/
def void : TypeId := ⟨7⟩

/-- The first number that is handed out. -/
def firstUser : TypeId := ⟨64⟩

/-- The number after this one. -/
def next (t : TypeId) : TypeId := ⟨t.code + 1⟩

/-- Whether the number is reserved. -/
def isBuiltin (t : TypeId) : Bool := t.code < firstUser.code

/-- The builtin types with their names and whether each is a value type. -/
def builtins : List (TypeId × String × Bool) := [
  (object, "object", false), (bool, "bool", true), (int, "int", true), (float, "float", true),
  (string, "string", false), (array, "array", false), (void, "void", false)]

/-- The short text of an identifier, which stands in for the name of an unknown type. -/
def tag (t : TypeId) : String := s!"#{t.code}"

end TypeId

end LateBinding
