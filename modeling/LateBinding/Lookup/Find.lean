import LateBinding.Lookup.Query

/-!
# Finding members

The searched type comes first, then its ancestors. A wanted member is hidden if a wanted member of
the same kind, name and parameter list was found at a level nearer to the searched type.

A search for one member takes the nearest level at which something was found. If several members
were found there, arguments of inferred types still decide for the one member whose parameters they
fit exactly; otherwise the search is ambiguous.
-/

namespace LateBinding

/-- A member that was found, and at which level of the hierarchy. -/
structure Found where
  level : Nat
  member : Member

namespace Query

/-- Whether a member found earlier hides `m`. -/
def hidden (found : List Found) (m : Member) : Bool :=
  found.any (·.member.sameSignature m)

/-- Adds what is found at a level to what was found at the levels before it. -/
def addLevel (q : Query) (reg : Registry) (found : List Found) (level : Descriptor × Nat) :
    List Found :=
  let wanted := level.1.members.filter fun m => q.acceptsAt reg level.2 m && !hidden found m
  found ++ wanted.map (⟨level.2, ·⟩)

/-- What is found along a hierarchy, the nearest first. -/
def collect (q : Query) (reg : Registry) (hierarchy : List Descriptor) : List Found :=
  let levels := if q.flags.declaredOnly then hierarchy.take 1 else hierarchy
  levels.zipIdx.foldl (q.addLevel reg) []

/-- The name for messages; without one, any name. -/
def nameText (q : Query) : String := q.name.getD "*"

end Query

namespace Registry

/-- What is found for a query, the nearest first. -/
def candidates (reg : Registry) (type : TypeId) (q : Query) : Except Fault (List Found) := do
  pure (q.collect reg (← reg.hierarchy type))

/-- All members that are found for a query, the nearest first. -/
def findAll (reg : Registry) (type : TypeId) (q : Query) : Except Fault (List Member) := do
  pure ((← reg.candidates type q).map (·.member))

/-- All members that are found for no name in particular, and then fit one of the names; all of them
if there are no names. -/
def findNamed (reg : Registry) (type : TypeId) (kinds : KindSet) (flags : Flags)
    (names : List String) : Except Fault (List Member) := do
  let members ← reg.findAll type { kinds, flags }
  pure <|
    if names.isEmpty then members
    else members.filter fun m => names.any (flags.nameMatches m.name)

end Registry

/-- The only one of several members whose parameters are exactly the types of the arguments. -/
def Signature.exactOverload? (s : Signature) (tied : List Found) : Option Member :=
  match s with
  | inferred arguments => match tied.filter (·.member.acceptsParams arguments) with
    | [c] => some c.member
    | _ => none
  | _ => none

namespace Registry

/-- Decides for one of the members that were found. -/
def choose (reg : Registry) (type : TypeId) (q : Query) : List Found → Except Fault Member
  | [] => throw (.notFound (.member q.kinds) q.nameText (reg.nameOf type))
  | first :: rest =>
    let tied := first :: rest.takeWhile (·.level == first.level)
    if q.flags.partialName || tied.length == 1 then
      pure first.member
    else match q.signature.exactOverload? tied with
      | some m => pure m
      | none => throw (.ambiguous q.kinds q.nameText (reg.nameOf type) tied.length)

/-- The member that a query denotes. -/
def find (reg : Registry) (type : TypeId) (q : Query) : Except Fault Member := do
  reg.choose type q (← reg.candidates type q)

end Registry

end LateBinding
