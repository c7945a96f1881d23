import LateBinding.Binder

/-!
# The meaning of scripts

A script runs against a frame: the receiver, the declaring type and the arguments. It may use the
binder and so run other scripts; how deeply these may be nested is limited, which makes every run
end.
-/

namespace LateBinding

/-- What a script sees of its call. -/
structure Frame where
  declaring : Shape
  receiver : Value

/-- The cell of an array and the offset of the element that an index denotes. -/
def elementOf (array index : Value) : Except Fault (Ref × Nat) :=
  match array with
  | .array shape r => do
    pure (r, (← shape.offset [index.asInt?.getD (-1)]).toNat)
  | _ => throw (.refused (.custom "not an array"))

/-- The sum of two numbers of one type, or two texts one after the other; null for all else. -/
def Value.add : Value → Value → Value
  | .int a, .int b => .int (a + b)
  | .float a, .float b => .float (a + b)
  | .str a, .str b => .str (a ++ b)
  | _, _ => .null

variable (b : Binder) (frame : Frame)

mutual

/-- The value of an expression. -/
def Expr.eval (arguments : List Value) : Expr → Run Value
  | .literal v => pure v
  | .argument i => pure (arguments[i]?.getD .null)
  | .argumentCount => pure (.int (Int64.ofNat arguments.length))
  | .receiver => pure frame.receiver
  | .declaringName => pure (.str frame.declaring.name)
  | .field name => Run.ask fun st => st.readFieldOf frame.declaring frame.receiver name
  | .staticField name => Run.ask fun st => st.readStaticField frame.declaring name
  | .ownField name => Run.ask fun st => st.readField frame.receiver name
  | .add left right => do
    let left ← left.eval arguments
    let right ← right.eval arguments
    pure (left.add right)
  | .typeName e => do
    pure (.str (← e.eval arguments).typeName)
  | .element array index => do
    let array ← array.eval arguments
    let index ← index.eval arguments
    let (r, offset) ← Run.ofExcept (elementOf array index)
    Run.ask fun st => st.readElement r offset
  | .member target name => do
    let target ← target.eval arguments
    b.get (.instance target) .fieldsAndProperties name none
  | .call target name operands => do
    let target ← target.eval arguments
    let operands ← Expr.evalAll arguments operands
    let subject :=
      if target.isNull then Subject.type frame.declaring.id else .instance target
    pure (← b.call subject name none operands).1
  | .wrap e => do
    let v ← e.eval arguments
    Run.step fun st => st.wrap v
  | .newArray type isValueType length fill =>
    Run.step fun st => st.newArray ⟨type, isValueType, [length]⟩ fill
  | .construct type operands => do
    let operands ← Expr.evalAll arguments operands
    pure (← b.create type none operands).1

/-- The values of expressions, from left to right. -/
def Expr.evalAll (arguments : List Value) : List Expr → Run (List Value)
  | [] => pure []
  | e :: es => do
    let v ← e.eval arguments
    let vs ← Expr.evalAll arguments es
    pure (v :: vs)

end

/-- Where a script stands after a statement: the result, if it has ended, and the arguments. -/
abbrev Progress := Option Value × List Value

mutual

/-- Runs a statement. -/
def Stmt.exec (arguments : List Value) : Stmt → Run Progress
  | .setField name e => do
    let v ← e.eval b frame arguments
    Run.change fun st => st.writeFieldOf frame.declaring frame.receiver name v
    pure (none, arguments)
  | .setStaticField name e => do
    let v ← e.eval b frame arguments
    Run.change fun st => st.writeStaticField frame.declaring name v
    pure (none, arguments)
  | .setOwnField name e => do
    let v ← e.eval b frame arguments
    Run.change fun st => st.writeField frame.receiver name v
    pure (none, arguments)
  | .setArgument i e => do
    let v ← e.eval b frame arguments
    pure (none, arguments.set i v)
  | .setElement array index e => do
    let array ← array.eval b frame arguments
    let index ← index.eval b frame arguments
    let v ← e.eval b frame arguments
    let (r, offset) ← Run.ofExcept (elementOf array index)
    Run.change fun st => st.writeCell r offset v
    pure (none, arguments)
  | .setMember target name e => do
    let target ← target.eval b frame arguments
    let v ← e.eval b frame arguments
    b.set (.instance target) .fieldsAndProperties name v none
    pure (none, arguments)
  | .log e => do
    let v ← e.eval b frame arguments
    Run.change fun st => pure (st.logValue v)
    pure (none, arguments)
  | .ifNull e whenNull otherwise => do
    let v ← e.eval b frame arguments
    if v.isNull then Stmt.execAll arguments whenNull else Stmt.execAll arguments otherwise
  | .refuse text => throw (.refused (.custom text))
  | .mismatch expected actual => throw (.mismatch expected actual)
  | .result e => do
    let v ← e.eval b frame arguments
    pure (some v, arguments)

/-- Runs statements one after the other until one ends the script. -/
def Stmt.execAll (arguments : List Value) : List Stmt → Run Progress
  | [] => pure (none, arguments)
  | s :: ss => do
    match ← s.exec arguments with
    | (some v, arguments) => pure (some v, arguments)
    | (none, arguments) => Stmt.execAll arguments ss

end

namespace Script

/-- Runs scripts that may be nested to a given depth. A script without a result gives null. -/
def run (registry : Registry) (config : Config) : Nat → Native
  | 0 => fun _ _ _ _ => throw .depthExceeded
  | depth + 1 => fun script declaring receiver arguments => do
    let b : Binder := { registry, config, native := run registry config depth }
    let (result, arguments) ← Stmt.execAll b ⟨declaring, receiver⟩ arguments script
    pure (result.getD .null, arguments)

/-- How deeply scripts may be nested. -/
def maxDepth : Nat := 4096

end Script

/-- The binder whose native bodies are run as scripts. -/
def Binder.scripted (registry : Registry) (config : Config) : Binder where
  registry
  native := Script.run registry config Script.maxDepth
  config

end LateBinding
