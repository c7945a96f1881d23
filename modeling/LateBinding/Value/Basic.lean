import LateBinding.TypeId

/-!
# Values

A value is a primitive, a reference to an object or an array, or an instance of a value type. The
latter is either an unwrapped copy, whose fields it carries with it, or a wrapper: a reference to a
place that holds the fields, through which writes are seen by all who share it.

Instances carry the shape of their type, so that all questions about a value's type are answered by
the value alone, also after the type has been unloaded.
-/

namespace LateBinding

/-- The part of a type that its instances carry: its names, its place in the hierarchy and the
layout of its slots. -/
structure Shape where
  id : TypeId
  name : String
  base : Option TypeId
  isValueType : Bool
  /-- The type itself, then its base, and so on up to the root. -/
  ancestors : List TypeId
  /-- The names of the instance slots, inherited ones first. -/
  slotNames : List String
  /-- The names of the type's own static slots. -/
  staticNames : List String
deriving DecidableEq

/-- The position of the last occurrence of a name. -/
def lastIndex? (name : String) : List String → Option Nat
  | [] => none
  | n :: ns => match lastIndex? name ns with
    | some i => some (i + 1)
    | none => if n = name then some 0 else none

/-- The position of the first occurrence of a name. -/
def firstIndex? (name : String) : List String → Option Nat
  | [] => none
  | n :: ns => if n = name then some 0 else (firstIndex? name ns).map (· + 1)

namespace Shape

/-- Whether the type is `t` or derives from it. -/
def derivesFrom (s : Shape) (t : TypeId) : Bool := s.ancestors.contains t

/-- The instance slot that a name denotes: of several the one that was declared last, so that a
redeclared name hides the inherited one. -/
def slot? (s : Shape) (name : String) : Option Nat := lastIndex? name s.slotNames

/-- The static slot that a name denotes: of several the one that was declared first. -/
def staticSlot? (s : Shape) (name : String) : Option Nat := firstIndex? name s.staticNames

end Shape

/-- The part of an array that never changes. -/
structure ArrayShape where
  element : TypeId
  elementIsValueType : Bool
  /-- The length of each dimension. -/
  dims : List UInt64
deriving DecidableEq

namespace ArrayShape

/-- The number of dimensions. -/
def rank (s : ArrayShape) : Nat := s.dims.length

/-- The number of elements. -/
def size (s : ArrayShape) : UInt64 := s.dims.foldl (· * ·) 1

end ArrayShape

/-- The place of an object's fields, of a wrapper's fields or of an array's elements. -/
abbrev Ref := Nat

/-- A dynamic value. -/
inductive Value where
  | null
  | bool (b : Bool)
  | int (n : Int64)
  | float (x : Float)
  | str (s : String)
  | object (shape : Shape) (ref : Ref)
  /-- An unwrapped copy of a value type with its fields in slot order. -/
  | struct (shape : Shape) (fields : List Value)
  /-- A wrapped value type. -/
  | wrapped (shape : Shape) (ref : Ref)
  | array (shape : ArrayShape) (ref : Ref)
deriving Inhabited

namespace Value

/-- Whether the value is the null reference. -/
def isNull : Value → Bool
  | null => true
  | _ => false

/-- The number that a value is. -/
def asInt? : Value → Option Int64
  | int n => some n
  | _ => none

/-- The type that a value has at run time; null has the wildcard. -/
def typeId : Value → TypeId
  | null => TypeId.any
  | bool _ => TypeId.bool
  | int _ => TypeId.int
  | float _ => TypeId.float
  | str _ => TypeId.string
  | object s _ => s.id
  | struct s _ => s.id
  | wrapped s _ => s.id
  | array _ _ => TypeId.array

/-- The name of a value's type. -/
def typeName : Value → String
  | null => "null"
  | bool _ => "bool"
  | int _ => "int"
  | float _ => "float"
  | str _ => "string"
  | object s _ => s.name
  | struct s _ => s.name
  | wrapped s _ => s.name
  | array _ _ => "array"

/-- The shape of an instance of a registered type. -/
def shape? : Value → Option Shape
  | object s _ => some s
  | struct s _ => some s
  | wrapped s _ => some s
  | _ => none

/-- Whether the value is an instance of a value type, wrapped or not. -/
def isValueTypeInstance : Value → Bool
  | struct _ _ => true
  | wrapped _ _ => true
  | _ => false

/-- Whether the value may be put where `type` is declared. Everything is an object; null goes
wherever no value type is declared; objects go up their hierarchy and all else fits exactly. -/
def isAssignableTo (v : Value) (type : TypeId) (isValueType : Bool) : Bool :=
  type == TypeId.object || type == TypeId.any ||
    match v with
    | null => !isValueType
    | object s _ => s.derivesFrom type
    | v => v.typeId == type

mutual

/-- Equality of values: references by identity, unwrapped copies by type and fields, floats as
numbers. -/
def same : Value → Value → Bool
  | null, null => true
  | bool a, bool b => a == b
  | int a, int b => a == b
  | float a, float b => a == b
  | str a, str b => a == b
  | object _ r, object _ q => r == q
  | struct s xs, struct t ys => s.id == t.id && sameAll xs ys
  | wrapped _ r, wrapped _ q => r == q
  | array _ r, array _ q => r == q
  | _, _ => false

/-- Equality of lists of values, place by place. -/
def sameAll : List Value → List Value → Bool
  | [], [] => true
  | x :: xs, y :: ys => same x y && sameAll xs ys
  | _, _ => false

end

mutual

/-- The types that a value mentions: its own, if it is an instance of one, and those of the fields
that an unwrapped copy carries with it. -/
def mentioned : Value → List TypeId
  | object s _ => [s.id]
  | wrapped s _ => [s.id]
  | struct s fields => s.id :: allMentioned fields
  | _ => []

/-- The types that the values of a list mention. -/
def allMentioned : List Value → List TypeId
  | [] => []
  | v :: vs => mentioned v ++ allMentioned vs

end

/-- Whether the value mentions the type `t`. -/
def mentions (v : Value) (t : TypeId) : Bool := v.mentioned.contains t

end Value

end LateBinding
