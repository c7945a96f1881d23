import LateBinding.Registry.Descriptor
import LateBinding.TypeSpec

/-!
# Layout

How a definition becomes a type: its members are taken in order, each gets the slots it needs after
those of the base, and brings the members that go with it.

* A field takes one slot.
* An automatic property takes one slot for its backing field and brings the accessor methods.
* A property with native accessors, and an indexer, bring a method for each accessor.

A type without a constructor gets one that takes nothing and does nothing; a value type gets it
whenever it has none that takes nothing.
-/

namespace LateBinding

/-- A type that is being laid out. -/
structure Layout where
  owner : TypeId
  slotNames : List String
  defaults : List Value
  staticNames : List String := []
  /-- What the static slots start with. -/
  statics : List Value := []
  members : List Member := []

/-- The name of the field behind an automatic property. -/
def backingFieldName (property : String) : String := "<" ++ property ++ ">k__BackingField"

/-- The name of the method that reads a property. -/
def getterName (property : String) : String := "get_" ++ property

/-- The name of the method that writes a property. -/
def setterName (property : String) : String := "set_" ++ property

/-- The name of every indexer. -/
def indexerName : String := "Item"

/-- The name of every constructor. -/
def constructorName : String := ".ctor"

namespace Layout

/-- The layout in which a type starts that derives from `base`. -/
def start (owner : TypeId) (base : Descriptor) : Layout where
  owner
  slotNames := base.slotNames
  defaults := base.defaults

/-- The position that the next slot gets. -/
def nextSlot (l : Layout) (isStatic : Bool) : Nat :=
  if isStatic then l.statics.length else l.defaults.length

/-- Adds a slot. -/
def addSlot (l : Layout) (name : String) (isStatic : Bool) (initial : Value) : Layout :=
  if isStatic then
    { l with staticNames := l.staticNames ++ [name], statics := l.statics ++ [initial] }
  else
    { l with slotNames := l.slotNames ++ [name], defaults := l.defaults ++ [initial] }

/-- Adds a member. -/
def addMember (l : Layout) (m : Member) : Layout := { l with members := l.members ++ [m] }

/-- Adds a slot and the field that denotes it. -/
def addField (l : Layout) (f : FieldSpec) (initial : Value) (isSynthesized : Bool) : Layout :=
  (l.addSlot f.name f.isStatic initial).addMember {
    name := f.name
    declaring := l.owner
    isStatic := f.isStatic
    visibility := f.visibility
    params := []
    valueType := f.type
    isSynthesized
    body := .field (l.nextSlot f.isStatic) f.readonly }

/-- The method that reads a property or indexer. -/
def getterMethod (owner : TypeId) (name : String) (isStatic : Bool) (visibility : Visibility)
    (indices : List Param) (type : TypeId) (accessor : Accessor) : Member where
  name := getterName name
  declaring := owner
  isStatic
  visibility
  params := indices
  valueType := type
  isSynthesized := true
  body := .method accessor

/-- The method that writes a property or indexer. -/
def setterMethod (owner : TypeId) (name : String) (isStatic : Bool) (visibility : Visibility)
    (indices : List Param) (type : TypeId) (accessor : Accessor) : Member where
  name := setterName name
  declaring := owner
  isStatic
  visibility
  params := indices ++ [⟨type, false⟩]
  valueType := TypeId.void
  isSynthesized := true
  body := .method accessor

/-- Adds a property with the methods for its accessors. -/
def addAccessors (l : Layout) (p : PropertySpec) (getter setter : Option Accessor) : Layout :=
  let property : Member := {
    name := p.name
    declaring := l.owner
    isStatic := p.isStatic
    visibility := p.visibility
    params := []
    valueType := p.type
    isSynthesized := false
    body := .property getter setter }
  let get := getter.map (getterMethod l.owner p.name p.isStatic p.visibility [] p.type)
  let set := setter.map (setterMethod l.owner p.name p.isStatic p.visibility [] p.type)
  { l with members := l.members ++ property :: (get.toList ++ set.toList) }

/-- The field behind an automatic property; it is as static as the property and read-only if the
property is. -/
def backingField (p : PropertySpec) (getOnly : Bool) : FieldSpec where
  name := backingFieldName p.name
  type := p.type
  isStatic := p.isStatic
  readonly := getOnly

/-- Adds a property with all that it brings. -/
def addProperty (l : Layout) (p : PropertySpec) (initial : Value) : Layout :=
  match p.body with
  | .auto getOnly =>
    let slot := Accessor.slot (l.nextSlot p.isStatic)
    (l.addField (backingField p getOnly) initial true).addAccessors p (some slot)
      (if getOnly then none else some slot)
  | .native getter setter => l.addAccessors p (getter.map .native) (setter.map .native)

/-- Adds an indexer with the methods for its accessors. -/
def addIndexer (l : Layout) (x : IndexerSpec) : Layout :=
  let indexer : Member := {
    name := indexerName
    declaring := l.owner
    isStatic := false
    visibility := x.visibility
    params := x.params
    valueType := x.type
    isSynthesized := false
    body := .indexer x.getter x.setter }
  let get := x.getter.map fun body =>
    getterMethod l.owner indexerName false x.visibility x.params x.type (.native body)
  let set := x.setter.map fun body =>
    setterMethod l.owner indexerName false x.visibility x.params x.type (.native body)
  { l with members := l.members ++ indexer :: (get.toList ++ set.toList) }

/-- Adds a method. -/
def addMethod (l : Layout) (m : MethodSpec) : Layout :=
  l.addMember {
    name := m.name
    declaring := l.owner
    isStatic := m.isStatic
    visibility := m.visibility
    params := m.params
    valueType := m.result
    isSynthesized := false
    body := .method (.native m.body) }

/-- Adds a constructor. -/
def addConstructor (l : Layout) (c : ConstructorSpec) : Layout :=
  l.addMember {
    name := constructorName
    declaring := l.owner
    isStatic := false
    visibility := c.visibility
    params := c.params
    valueType := l.owner
    isSynthesized := false
    body := .constructor c.body }

/-- Adds one definition; `default` says what a slot of a type starts with. -/
def add (default : TypeId → Value) (l : Layout) : MemberSpec → Layout
  | .field f => l.addField f (f.initial.getD (default f.type)) false
  | .property p => l.addProperty p (default p.type)
  | .method m => l.addMethod m
  | .constructor c => l.addConstructor c
  | .indexer x => l.addIndexer x

/-- Adds the constructor that takes nothing and does nothing, if the type needs it. -/
def addDefaultConstructor (l : Layout) (isValueType : Bool) : Layout :=
  let constructors := l.members.filter (·.kind == .constructor)
  if !constructors.any (·.params.isEmpty) && (constructors.isEmpty || isValueType) then
    l.addConstructor { body := [] }
  else
    l

/-- The layout of a whole definition. -/
def ofSpec (default : TypeId → Value) (owner : TypeId) (base : Descriptor) (spec : TypeSpec) :
    Layout :=
  (spec.members.foldl (add default) (start owner base)).addDefaultConstructor spec.isValueType

/-- The type that has been laid out. -/
def toDescriptor (l : Layout) (base : Descriptor) (spec : TypeSpec) : Descriptor where
  id := l.owner
  name := spec.name
  base := some base.id
  isValueType := spec.isValueType
  ancestors := l.owner :: base.ancestors
  slotNames := l.slotNames
  staticNames := l.staticNames
  defaults := l.defaults
  members := l.members

end Layout

end LateBinding
