import LateBinding.Lookup.Flags
import LateBinding.Registry.Basic

/-!
# Queries

A query says which members are wanted: of which kinds, under which name, with which flags and with
which parameters. Here it is said what one member has to be like; the search is in `Lookup.Find`.
-/

namespace LateBinding

/-- What a query asks of the parameter list. -/
inductive Signature where
  /-- Any list will do. -/
  | any
  /-- The listed parameters, where the wildcard stands for every type. -/
  | exact (params : List Param)
  /-- A list that arguments of the listed types can be passed to. -/
  | inferred (arguments : List Param)
deriving DecidableEq

/-- Which members are wanted. -/
structure Query where
  kinds : KindSet
  name : Option String := none
  flags : Flags := default
  signature : Signature := .any
deriving DecidableEq

/-- Whether the parameters of a member are as asked for. -/
def Signature.admits (reg : Registry) (s : Signature) (m : Member) : Bool :=
  match s with
  | any => true
  | exact params => m.acceptsParams params
  | inferred arguments => reg.admitsParams m arguments

namespace Query

/-- Whether a member is wanted. -/
def accepts (q : Query) (reg : Registry) (m : Member) : Bool :=
  q.kinds.has m.kind && q.flags.acceptsScope m.isStatic && q.flags.acceptsVisibility m.isPublic &&
    q.name.all (q.flags.nameMatches m.name) &&
    !(m.isSynthesized && q.flags.excludeBacking) &&
    q.signature.admits reg m

/-- Whether a member that is declared at a level of the hierarchy is wanted. Constructors belong to
the searched type alone. -/
def acceptsAt (q : Query) (reg : Registry) (level : Nat) (m : Member) : Bool :=
  (level == 0 || m.kind != .constructor) && q.accepts reg m

end Query

end LateBinding
