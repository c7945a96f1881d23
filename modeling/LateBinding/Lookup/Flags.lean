import LateBinding.Text.LowerCase

/-!
# Lookup flags

The flags of a lookup say which members are considered at all, by scope and by visibility, and how
their names are compared with the requested one.
-/

namespace LateBinding

/-- The flags of a lookup. -/
structure Flags where
  publics : Bool := false
  nonPublics : Bool := false
  instances : Bool := false
  statics : Bool := false
  /-- Ancestors are not searched. -/
  declaredOnly : Bool := false
  /-- Names are compared in lower case. -/
  ignoreCase : Bool := false
  /-- A name matches if it contains the requested one; of several members the first is taken. -/
  partialName : Bool := false
  /-- Synthesized members are left out. -/
  excludeBacking : Bool := false
  /-- What stands before the last point of a member's name does not count. -/
  trimExplicit : Bool := false
deriving DecidableEq

/-- Whether the text occurs in another one. -/
def occursIn (pattern : List Char) : List Char → Bool
  | [] => pattern.isEmpty
  | c :: cs => pattern.isPrefixOf (c :: cs) || occursIn pattern cs

/-- What stands after the last point. -/
def afterLastPoint? : List Char → Option (List Char)
  | [] => none
  | c :: cs => match afterLastPoint? cs with
    | some rest => some rest
    | none => if c = '.' then some cs else none

/-- A name without what stands before its last point; a point at the start does not count. -/
def simpleName (name : String) : String :=
  match name.toList with
  | [] => name
  | _ :: cs => match afterLastPoint? cs with
    | some rest => String.ofList rest
    | none => name

namespace Flags

/-- The members of an instance, whoever may see them. -/
def instanceAny : Flags := { publics := true, nonPublics := true, instances := true }

/-- The static members of a type, whoever may see them. -/
def staticAny : Flags := { publics := true, nonPublics := true, statics := true }

/-- What is looked for unless something else is asked for. -/
instance : Inhabited Flags := ⟨instanceAny⟩

/-- The flags that are the one bits of a number, `publics` the lowest. -/
def ofBits (n : Nat) : Flags where
  publics := n.testBit 0
  nonPublics := n.testBit 1
  instances := n.testBit 2
  statics := n.testBit 3
  declaredOnly := n.testBit 4
  ignoreCase := n.testBit 5
  partialName := n.testBit 6
  excludeBacking := n.testBit 7
  trimExplicit := n.testBit 8

/-- The number whose one bits are the flags. -/
def toBits (f : Flags) : Nat :=
  f.publics.toNat + 2 * f.nonPublics.toNat + 4 * f.instances.toNat + 8 * f.statics.toNat +
    16 * f.declaredOnly.toNat + 32 * f.ignoreCase.toNat + 64 * f.partialName.toNat +
    128 * f.excludeBacking.toNat + 256 * f.trimExplicit.toNat

/-- Whether members of a scope are considered. -/
def acceptsScope (f : Flags) (isStatic : Bool) : Bool :=
  if isStatic then f.statics else f.instances

/-- Whether members of a visibility are considered. -/
def acceptsVisibility (f : Flags) (isPublic : Bool) : Bool :=
  if isPublic then f.publics else f.nonPublics

/-- The form in which names are compared. -/
def fold (f : Flags) (name : String) : String :=
  if f.ignoreCase then Text.lower name else name

/-- The part of a member's name that is compared. -/
def trim (f : Flags) (name : String) : String :=
  if f.trimExplicit then simpleName name else name

/-- Whether a member's name fits the requested one. -/
def nameMatches (f : Flags) (member name : String) : Bool :=
  let held := f.fold (f.trim member)
  let wanted := f.fold name
  if f.partialName then occursIn wanted.toList held.toList else held == wanted

end Flags

end LateBinding
