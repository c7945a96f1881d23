import LateBinding.Invoker.Basic
import LateBinding.Run

/-!
# What invokers do

An invoker first makes its demands on the receiver, the arguments and the value, in this order. Only
then does it read, write or call. Arguments that are passed by reference are written back when the
call has succeeded, and only then.
-/

namespace LateBinding

variable (ctx : Context)

/-! ### Parts -/

/-- The descriptor of the type must still exist. -/
def Run.alive (type : TypeId) : Run Unit := do
  let st := (← get).store
  unless ctx.registry.isAlive st type do
    throw (.unknownType type)

namespace Place

/-- Reads a place. -/
def read (receiver : Value) : Place → Run Value
  | .receiver slot => Run.ask fun st => st.readSlot receiver slot
  | .static owner slot => do
    Run.alive ctx owner
    Run.ask fun st => st.readStatic owner slot

/-- Writes a place. -/
def write (receiver new : Value) : Place → Run Unit
  | .receiver slot => Run.change fun st => st.writeSlot receiver slot new
  | .static owner slot => do
    Run.alive ctx owner
    Run.change fun st => st.writeStatic owner slot new

/-- Writes a place; one for a value type gets a copy. -/
def store (receiver new : Value) (storesValueType : Bool) (p : Place) : Run Unit := do
  let st := (← get).store
  p.write ctx receiver (st.toStored storesValueType new)

end Place

/-- Runs a native body; gives the result and the arguments as the body leaves them. -/
def BoundScript.run (s : BoundScript) (receiver : Value) (arguments : List Value) :
    Run (Value × List Value) := do
  Run.alive ctx s.declaring.id
  ctx.native s.body s.declaring receiver arguments

/-- Makes a demand on a receiver and hands it on; a static member gets none. -/
def Run.receive (demand : ReceiverGuard → Value → Except Fault Unit) (receiver : Value) :
    Option ReceiverGuard → Run Value
  | some g => do
    Run.ofExcept (demand g receiver)
    pure receiver
  | none => pure .null

/-- The arguments after a call: what the body left at the positions that are passed by reference,
and what was passed at all others. -/
def writeBack : List Param → List Value → List Value → List Value
  | p :: ps, a :: as, l :: ls => (if p.byRef then l else a) :: writeBack ps as ls
  | _, as, _ => as

/-! ### Fields and properties -/

/-- Reads the member's value. -/
def Getter.run (g : Getter) (receiver : Value) : Run Value := do
  let receiver ← Run.receive ReceiverGuard.check receiver g.receiver
  match g.access with
  | .place p => p.read ctx receiver
  | .native script => pure (← script.run ctx receiver []).1

/-- Writes the member's value. A value type is handed over as a copy. -/
def Setter.run (s : Setter) (receiver new : Value) : Run Unit := do
  let receiver ← Run.receive ReceiverGuard.checkMutable receiver s.receiver
  Run.ofExcept (s.value.check new)
  match s.access with
  | .place p => p.store ctx receiver new s.value.isValueType
  | .native script => do
    let st := (← get).store
    discard (script.run ctx receiver [st.toStored s.value.isValueType new])

namespace BatchSetter

/-- Writes values one after the other, up to the first fault. -/
def runEach (receiver : Value) : List Setter → List Value → Run Unit
  | s :: ss, v :: vs => do
    s.run ctx receiver v
    runEach receiver ss vs
  | _, _ => pure ()

/-- Writes one value for each member. -/
def run (b : BatchSetter) (receiver : Value) (values : List Value) : Run Unit :=
  if values.length = b.setters.length then
    runEach ctx receiver b.setters values
  else
    throw (.refused (.valueCount b.setters.length values.length))

end BatchSetter

namespace Copier

/-- Copies values pair by pair, up to the first fault. -/
def runEach (source target : Value) : List (Getter × Setter) → Run Unit
  | [] => pure ()
  | (getter, setter) :: steps => do
    let v ← getter.run ctx source
    setter.run ctx target v
    runEach source target steps

/-- Copies from one instance to another. -/
def run (c : Copier) (source target : Value) : Run Unit := runEach ctx source target c.steps

end Copier

/-! ### Methods and constructors -/

namespace Method

/-- What the method demands of its receiver. -/
def demand (m : Method) : ReceiverGuard → Value → Except Fault Unit :=
  match m.body with
  | .write _ _ => ReceiverGuard.checkMutable
  | _ => ReceiverGuard.check

/-- Does what the method does; gives the result and what is left of the arguments. -/
def perform (m : Method) (receiver : Value) (arguments : List Value) :
    Run (Value × List Value) :=
  match m.body with
  | .read p => do
    pure (← p.read ctx receiver, arguments)
  | .write p storesValueType => do
    p.store ctx receiver (arguments.getLast?.getD .null) storesValueType
    pure (.null, arguments.dropLast)
  | .native script => script.run ctx receiver arguments

/-- Calls the method; gives the result and the arguments after the call. -/
def run (m : Method) (receiver : Value) (arguments : List Value) : Run (Value × List Value) := do
  let receiver ← Run.receive m.demand receiver m.receiver
  Run.ofExcept (m.arguments.check arguments)
  let (result, left) ← m.perform ctx receiver arguments
  pure (result, writeBack m.params arguments left)

end Method

namespace Construction

/-- Makes an instance with every slot at its start. A value type is built in a wrapper, so that what
the constructors write stays. -/
def blank (c : Construction) : Run Value :=
  Run.step fun st =>
    let (v, st) := st.instantiate c.owner
    st.wrap v

/-- Runs the inherited constructors on an instance. -/
def inherit (made : Value) : List BoundScript → Run Unit
  | [] => pure ()
  | script :: scripts => do
    discard (script.run ctx made [])
    inherit made scripts

/-- Makes an instance; gives it and the arguments after the call. -/
def run (c : Construction) (arguments : List Value) : Run (Value × List Value) := do
  Run.ofExcept (c.arguments.check arguments)
  Run.alive ctx c.body.declaring.id
  let made ← c.blank
  inherit ctx made c.inherited
  let (_, left) ← c.body.run ctx made arguments
  let st := (← get).store
  pure (st.unwrap made, writeBack c.params arguments left)

end Construction

/-! ### Indexers and array elements -/

/-- Indices as numbers. -/
def wholeIndices : List Value → Except Fault (List Int64)
  | [] => pure []
  | .int n :: vs => do
    pure (n :: (← wholeIndices vs))
  | v :: _ => throw (.mismatch "int" v.typeName)

/-- The shape and the cell of an array, and the offset of one of its elements. -/
def locateElement (rank : Nat) (receiver : Value) (indices : List Value) :
    Except Fault (ArrayShape × Ref × Nat) :=
  match receiver with
  | .array shape r =>
    if indices.length = rank then do
      let indices ← wholeIndices indices
      let offset ← shape.offset indices
      pure (shape, r, offset.toNat)
    else
      throw (.refused (.elementRank rank indices.length))
  | v => throw (.mismatch "array" v.typeName)

/-- Reads what the indices denote. -/
def IndexReader.run (x : IndexReader) (receiver : Value) (indices : List Value) : Run Value :=
  match x with
  | .element rank => do
    let (_, r, offset) ← Run.ofExcept (locateElement rank receiver indices)
    Run.ask fun st => st.readElement r offset
  | .indexer guard arguments script => do
    Run.ofExcept (guard.check receiver)
    Run.ofExcept (arguments.check indices)
    pure (← script.run ctx receiver indices).1

/-- Writes what the indices denote. -/
def IndexWriter.run (x : IndexWriter) (receiver : Value) (indices : List Value) (new : Value) :
    Run Unit :=
  match x with
  | .element rank => do
    let (shape, r, offset) ← Run.ofExcept (locateElement rank receiver indices)
    if new.isAssignableTo shape.element shape.elementIsValueType then
      Run.change fun st => st.writeCell r offset (st.toStored shape.elementIsValueType new)
    else
      throw (.mismatch ("element of type " ++ shape.element.tag) new.typeName)
  | .indexer guard arguments value script => do
    Run.ofExcept (guard.checkMutable receiver)
    Run.ofExcept (arguments.check indices)
    Run.ofExcept (value.check new)
    discard (script.run ctx receiver (indices ++ [new]))

end LateBinding
