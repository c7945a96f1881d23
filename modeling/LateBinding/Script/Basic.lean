import LateBinding.Value.Basic

/-!
# Scripts

The bodies of native members are small scripts: statements run one after the other against a
receiver, the declaring type and the list of arguments.

A script is data. What it does when it is run is said in `Script.Eval`; whatever only hands a body
on needs to know no more of it than this.
-/

namespace LateBinding

/-- An expression of a native body. -/
inductive Expr where
  | literal (v : Value)
  /-- The argument at a position, null beyond the last. -/
  | argument (i : Nat)
  | argumentCount
  | receiver
  /-- The name of the declaring type. -/
  | declaringName
  /-- A field of the receiver in the layout of the declaring type. -/
  | field (name : String)
  /-- A static field of the declaring type. -/
  | staticField (name : String)
  /-- A field of the receiver in the layout of its own type. -/
  | ownField (name : String)
  /-- The sum of two numbers of one type, or two texts one after the other. -/
  | add (left right : Expr)
  | typeName (e : Expr)
  | element (array index : Expr)
  /-- The value of a member that is found by name. -/
  | member (target : Expr) (name : String)
  /-- A call of a method that is found by name and arguments; on the declaring type if the target is
  null. -/
  | call (target : Expr) (name : String) (arguments : List Expr)
  | wrap (e : Expr)
  /-- A new array of one dimension. -/
  | newArray (element : TypeId) (elementIsValueType : Bool) (length : UInt64) (fill : Value)
  /-- A new instance by the constructor that fits the arguments. -/
  | construct (type : TypeId) (arguments : List Expr)
deriving Inhabited

/-- A statement of a native body. -/
inductive Stmt where
  | setField (name : String) (e : Expr)
  | setStaticField (name : String) (e : Expr)
  | setOwnField (name : String) (e : Expr)
  /-- Sets the argument at a position; nothing happens beyond the last. -/
  | setArgument (i : Nat) (e : Expr)
  | setElement (array index e : Expr)
  | setMember (target : Expr) (name : String) (e : Expr)
  | log (e : Expr)
  | ifNull (e : Expr) (whenNull otherwise : List Stmt)
  | refuse (text : String)
  | mismatch (expected actual : String)
  /-- Ends the body with a result. -/
  | result (e : Expr)
deriving Inhabited

/-- The body of a native member. -/
abbrev Script := List Stmt

end LateBinding
