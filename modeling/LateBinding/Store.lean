import LateBinding.Table
import LateBinding.Value.Array

/-!
# The store

The store holds all that can change: the fields of objects and wrappers and the elements of arrays,
each in a cell of its own; the static slots of every type; and the log. It also hands out the type
identifiers.

Reading and writing go through the value that refers to a cell. An unwrapped copy carries its fields
with it, so it can be read and never written.
-/

namespace LateBinding

/-- All that can change. -/
structure Store where
  /-- The slots behind each reference. -/
  cells : List (List Value) := []
  /-- The static slots of each type. -/
  statics : Table TypeId (List Value) := {}
  /-- What native bodies have logged, the oldest first. -/
  log : List Value := []
  /-- The next type identifier to hand out. -/
  nextType : TypeId := TypeId.firstUser
  /-- The types of the instances that are kept from outside. -/
  held : List TypeId := []

namespace Store

/-! ### Cells -/

/-- The slots behind a reference. -/
def cell (st : Store) (r : Ref) : List Value := (st.cells[r]?).getD []

/-- Replaces the slots behind a reference. -/
def setCell (st : Store) (r : Ref) (slots : List Value) : Store :=
  { st with cells := st.cells.set r slots }

/-- The reference that the next new cell gets. -/
def nextRef (st : Store) : Ref := st.cells.length

/-- Adds a cell. -/
def addCell (st : Store) (slots : List Value) : Store := { st with cells := st.cells ++ [slots] }

/-! ### Instance slots -/

/-- The slots of an instance; no other value has any. -/
def slots? (st : Store) : Value → Option (List Value)
  | .object _ r => some (st.cell r)
  | .wrapped _ r => some (st.cell r)
  | .struct _ fields => some fields
  | _ => none

/-- The slot at a position. -/
def readSlot (st : Store) (v : Value) (slot : Nat) : Except Fault Value :=
  match st.slots? v with
  | some slots => match slots[slot]? with
    | some held => pure held
    | none => throw (.indexOutOfRange (Int64.ofNat slot) slots.length)
  | none =>
    if v.isNull then throw (.refused .slotOfNull) else throw (.refused (.noSlots v.typeName))

/-- Writes the slot at a position of a cell. -/
def writeCell (st : Store) (r : Ref) (slot : Nat) (new : Value) : Except Fault Store :=
  if slot < (st.cell r).length then
    pure (st.setCell r ((st.cell r).set slot new))
  else
    throw (.indexOutOfRange (Int64.ofNat slot) (st.cell r).length)

/-- Writes the slot at a position. What is written to an unwrapped copy would be lost, so it is
refused. -/
def writeSlot (st : Store) (v : Value) (slot : Nat) (new : Value) : Except Fault Store :=
  match v with
  | .object _ r => st.writeCell r slot new
  | .wrapped _ r => st.writeCell r slot new
  | .struct s _ => throw (.refused (.unwrappedCopy s.name))
  | .null => throw (.refused .slotOfNull)
  | v => throw (.refused (.noSlots v.typeName))

end Store

/-- The position of a field in the layout of a type. -/
def Shape.fieldSlot (s : Shape) (name : String) : Except Fault Nat :=
  match s.slot? name with
  | some slot => pure slot
  | none => throw (.notFound .field name s.name)

/-- The position of a field in the layout of the value's own type. -/
def Value.fieldSlot (v : Value) (name : String) : Except Fault Nat :=
  match v.shape? with
  | some s => s.fieldSlot name
  | none => throw (.refused (.noFields v.typeName))

namespace Store

/-- The field of a name in the layout of a given type, which a type that derives from it keeps. -/
def readFieldOf (st : Store) (s : Shape) (v : Value) (name : String) : Except Fault Value := do
  st.readSlot v (← s.fieldSlot name)

/-- Writes the field of a name in the layout of a given type. -/
def writeFieldOf (st : Store) (s : Shape) (v : Value) (name : String) (new : Value) :
    Except Fault Store := do
  st.writeSlot v (← s.fieldSlot name) new

/-- The field of a name in the layout of the value's own type. -/
def readField (st : Store) (v : Value) (name : String) : Except Fault Value := do
  st.readSlot v (← v.fieldSlot name)

/-- Writes the field of a name in the layout of the value's own type. -/
def writeField (st : Store) (v : Value) (name : String) (new : Value) : Except Fault Store := do
  st.writeSlot v (← v.fieldSlot name) new

/-! ### Wrappers -/

/-- Puts an unwrapped copy into a new wrapper; other values stay as they are. -/
def wrap (st : Store) : Value → Value × Store
  | .struct s fields => (.wrapped s st.nextRef, st.addCell fields)
  | v => (v, st)

/-- Copies the fields out of a wrapper; other values stay as they are. -/
def unwrap (st : Store) : Value → Value
  | .wrapped s r => .struct s (st.cell r)
  | v => v

/-- What a place stores when `v` is put there: a place for a value type gets a copy. -/
def toStored (st : Store) (placeIsValueType : Bool) (v : Value) : Value :=
  if placeIsValueType then st.unwrap v else v

/-! ### Static slots -/

/-- The static slots of a type. -/
def staticsOf (st : Store) (type : TypeId) : List Value := (st.statics.get? type).getD []

/-- The static slot of a type at a position. -/
def readStatic (st : Store) (type : TypeId) (slot : Nat) : Except Fault Value :=
  match (st.staticsOf type)[slot]? with
  | some held => pure held
  | none => throw (.indexOutOfRange (Int64.ofNat slot) (st.staticsOf type).length)

/-- Writes the static slot of a type at a position. -/
def writeStatic (st : Store) (type : TypeId) (slot : Nat) (new : Value) : Except Fault Store :=
  if slot < (st.staticsOf type).length then
    pure { st with statics := st.statics.insert type ((st.staticsOf type).set slot new) }
  else
    throw (.indexOutOfRange (Int64.ofNat slot) (st.staticsOf type).length)

end Store

/-- The position of a static field of the type itself. -/
def Shape.staticFieldSlot (s : Shape) (name : String) : Except Fault Nat :=
  match s.staticSlot? name with
  | some slot => pure slot
  | none => throw (.notFound .staticField name s.name)

namespace Store

/-- The static field of a name. -/
def readStaticField (st : Store) (s : Shape) (name : String) : Except Fault Value := do
  st.readStatic s.id (← s.staticFieldSlot name)

/-- Writes the static field of a name. -/
def writeStaticField (st : Store) (s : Shape) (name : String) (new : Value) :
    Except Fault Store := do
  st.writeStatic s.id (← s.staticFieldSlot name) new

/-! ### Arrays -/

/-- A new array with every element the same. -/
def newArray (st : Store) (shape : ArrayShape) (fill : Value) : Value × Store :=
  (.array shape st.nextRef, st.addCell (List.replicate shape.size.toNat fill))

/-- A new array of one dimension with the given elements. -/
def arrayOf (st : Store) (element : TypeId) (elementIsValueType : Bool) (elements : List Value) :
    Value × Store :=
  (.array ⟨element, elementIsValueType, [UInt64.ofNat elements.length]⟩ st.nextRef,
    st.addCell elements)

/-- The element of an array at an offset. -/
def readElement (st : Store) (r : Ref) (offset : Nat) : Except Fault Value :=
  match (st.cell r)[offset]? with
  | some held => pure held
  | none => throw (.indexOutOfRange (Int64.ofNat offset) (st.cell r).length)

/-! ### Kept instances -/

/-- Whether some value in a cell, in the log or kept from outside mentions a type. -/
def mentions (st : Store) (type : TypeId) : Bool :=
  st.held.contains type || st.cells.any (·.any (·.mentions type)) ||
    st.log.any (·.mentions type)

/-- Keeps a value from outside. -/
def hold (st : Store) (v : Value) : Store :=
  { st with held := st.held ++ v.mentioned.filter fun t => !st.held.contains t }

/-- Adds a value to the log. -/
def logValue (st : Store) (v : Value) : Store := { st with log := st.log ++ [v] }

end Store

end LateBinding
