import LateBinding.Decimal.Shortest
import LateBinding.Registry.Descriptor
import LateBinding.Text.Quoted

/-!
# Inspection

Texts that show what a value, a member's implementation or a type is made of. They are meant for
the eye and cannot be read back.
-/

namespace LateBinding

namespace Inspection

/-- A list in brackets. -/
def listText (items : List String) : String := "[" ++ ", ".intercalate items ++ "]"

/-- A name with named parts in braces. -/
def recordText (name : String) (parts : List (String × String)) : String :=
  name ++ " \x7b " ++ ", ".intercalate (parts.map fun (part, text) => part ++ ": " ++ text) ++
    " \x7d"

/-- An optional part. -/
def optionText : Option String → String
  | some text => s!"Some({text})"
  | none => "None"

end Inspection

open Inspection

/-- The text of a type identifier. -/
def TypeId.inspect (t : TypeId) : String := s!"TypeHandle({t.code})"

/-- The text of the lengths of an array. -/
def ArrayShape.dimsText (s : ArrayShape) : String := listText (s.dims.map fun d => toString d.toNat)

mutual

/-- The text of a value, where `contents` shows the fields behind a wrapper. -/
def Value.inspectWith (contents : Ref → String) : Value → String
  | .null => "Null"
  | .bool b => s!"Bool({b})"
  | .int n => s!"Int({n.toInt})"
  | .float x => "Float(" ++ Decimal.ofFloat x ++ ")"
  | .str s => "Str(" ++ Text.quoted s ++ ")"
  | .object s _ => "Object(" ++ s.name ++ ")"
  | .struct s fields =>
    "Struct(" ++ recordText s.name [("fields", listText (Value.inspectAll contents fields))] ++ ")"
  | .wrapped s r => "Boxed(" ++ recordText s.name [("fields", contents r)] ++ ")"
  | .array s _ => "Array(" ++ s.dimsText ++ ")"

/-- The texts of several values. -/
def Value.inspectAll (contents : Ref → String) : List Value → List String
  | [] => []
  | v :: vs => v.inspectWith contents :: Value.inspectAll contents vs

end

namespace Store

/-- The text of a list of fields, following wrappers to a given depth. -/
def inspectFields (st : Store) : Nat → List Value → String
  | 0, _ => ""
  | depth + 1, fields =>
    listText (Value.inspectAll (fun r => st.inspectFields depth (st.cell r)) fields)

/-- The text of the fields behind a wrapper. Wrappers that do not hold themselves are nested at most
as deeply as there are cells. -/
def inspectCell (st : Store) (r : Ref) : String := st.inspectFields st.nextRef (st.cell r)

/-- The text of a value. -/
def inspect (st : Store) (v : Value) : String := v.inspectWith st.inspectCell

/-- The text of what an object, an array or a copy is in itself; other values have none. -/
def inspectInner (st : Store) : Value → String
  | .object s r => recordText "Object"
      [("type", Text.quoted s.name), ("fields", toString (st.cell r).length)]
  | .array s _ => recordText "Array" [("element", s.element.inspect), ("dims", s.dimsText)]
  | .struct s fields => recordText s.name
      [("fields", listText (Value.inspectAll st.inspectCell fields))]
  | _ => ""

end Store

/-- The text of an accessor; native code is not shown. -/
def Accessor.inspect : Accessor → String
  | slot index => s!"Slot({index})"
  | native _ => "Native"

/-- The text of a member's implementation. -/
def Implementation.inspect : Implementation → String
  | field slot readonly =>
    recordText "Field" [("slot", toString slot), ("readonly", toString readonly)]
  | property getter setter => recordText "Property"
      [("getter", optionText (getter.map Accessor.inspect)),
       ("setter", optionText (setter.map Accessor.inspect))]
  | indexer getter setter => recordText "Property"
      [("getter", optionText (getter.map fun _ => "Native")),
       ("setter", optionText (setter.map fun _ => "Native"))]
  | method accessor => "Method(" ++ accessor.inspect ++ ")"
  | constructor _ => "Constructor"

/-- The text of a type. -/
def Descriptor.inspect (d : Descriptor) : String :=
  recordText "TypeInfo"
    [("handle", d.id.inspect), ("name", Text.quoted d.name),
     ("base", optionText (d.base.map TypeId.inspect)),
     ("is_value_type", toString d.isValueType), ("members", toString d.members.length),
     ("slots", listText (d.slotNames.map Text.quoted))]

end LateBinding
