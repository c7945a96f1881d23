import LateBinding.Invoker.Basic

/-!
# Invokers of members

An invoker is made from a member for a target type. Whether the member is of the right kind, and
whether the types that have to be known are known, is found out here; whether values fit is found
out when the invoker runs.
-/

namespace LateBinding

/-! ### Parts -/

/-- Binds a native body to its declaring type. -/
def BoundScript.ofMember (reg : Registry) (m : Member) (body : Script) :
    Except Fault BoundScript := do
  pure ⟨body, (← reg.known m.declaring).toShape⟩

/-- The place of a member's slot. -/
def Place.ofSlot (reg : Registry) (m : Member) (slot : Nat) : Except Fault Place := do
  if m.isStatic then
    pure (.static (← reg.known m.declaring).id slot)
  else
    pure (.receiver slot)

/-- What an accessor of a member goes to. -/
def Access.ofAccessor (reg : Registry) (m : Member) : Accessor → Except Fault Access
  | .slot index => .place <$> Place.ofSlot reg m index
  | .native body => .native <$> BoundScript.ofMember reg m body

/-- The guard of the receivers of a target type. -/
def ReceiverGuard.ofTarget (reg : Registry) (target : TypeId) : Except Fault ReceiverGuard :=
  ofType <$> reg.known target

/-- The guard of a member's receiver; a static member has none. -/
def ReceiverGuard.ofMember (reg : Registry) (target : TypeId) (m : Member) :
    Except Fault (Option ReceiverGuard) :=
  if m.isStatic then pure none else some <$> ofTarget reg target

/-! ### Fields and properties -/

namespace Getter

/-- What reads the value of a member. -/
def accessOf (reg : Registry) (m : Member) : Except Fault Access :=
  match m.body with
  | .field slot _ => Access.ofAccessor reg m (.slot slot)
  | .property (some getter) _ => Access.ofAccessor reg m getter
  | .property none _ => throw (.refused (.noGetter m.name))
  | _ => throw (.refused (.notAValue m.text))

/-- The invoker that reads a member. -/
def ofMember (reg : Registry) (target : TypeId) (m : Member) : Except Fault Getter := do
  let access ← accessOf reg m
  let receiver ← ReceiverGuard.ofMember reg target m
  pure { receiver, access }

end Getter

namespace Setter

/-- What writes the value of a member. -/
def accessOf (reg : Registry) (m : Member) : Except Fault Access :=
  match m.body with
  | .field slot readonly =>
    if readonly then throw (.refused (.readonly m.name)) else Access.ofAccessor reg m (.slot slot)
  | .property _ (some setter) => Access.ofAccessor reg m setter
  | .property _ none => throw (.refused (.noSetter m.name))
  | _ => throw (.refused (.notAValue m.text))

/-- The invoker that writes a member. -/
def ofMember (reg : Registry) (target : TypeId) (m : Member) : Except Fault Setter := do
  let access ← accessOf reg m
  let receiver ← ReceiverGuard.ofMember reg target m
  pure { receiver, value := ValueGuard.ofType reg m.valueType, access }

end Setter

/-- The invoker that writes several members. -/
def BatchSetter.ofMembers (reg : Registry) (target : TypeId) (members : List Member) :
    Except Fault BatchSetter :=
  mk <$> members.mapM (Setter.ofMember reg target)

namespace Copier

/-- How one pair of members is copied. -/
def step (reg : Registry) (source target : TypeId) (pair : Member × Member) :
    Except Fault (Getter × Setter) := do
  let getter ← Getter.ofMember reg source pair.1
  let setter ← Setter.ofMember reg target pair.2
  pure (getter, setter)

/-- The invoker that copies along pairs of members. -/
def ofPairs (reg : Registry) (source target : TypeId) (pairs : List (Member × Member)) :
    Except Fault Copier :=
  mk <$> pairs.mapM (step reg source target)

end Copier

/-! ### Methods and constructors -/

/-- What a method does. A slot stands behind the accessor methods of automatic properties: without
parameters it is read, and otherwise it is written with the last argument. -/
def MethodBody.ofAccessor (reg : Registry) (m : Member) : Accessor → Except Fault MethodBody
  | .slot index => do
    let place ← Place.ofSlot reg m index
    match m.params.getLast? with
    | none => pure (.read place)
    | some p => pure (.write place (reg.isValueType p.type))
  | .native body => .native <$> BoundScript.ofMember reg m body

/-- The invoker that calls a method. -/
def Method.ofMember (reg : Registry) (target : TypeId) (m : Member) : Except Fault Method :=
  match m.body with
  | .method accessor => do
    let body ← MethodBody.ofAccessor reg m accessor
    let receiver ← ReceiverGuard.ofMember reg target m
    pure { receiver, arguments := .ofMember reg m, body, params := m.params }
  | _ => throw (.refused (.notAMethod m.text))

namespace Construction

/-- The constructor of an ancestor that takes nothing, if there is one. -/
def inheritedScript (reg : Registry) (ancestor : TypeId) : Except Fault (Option BoundScript) := do
  let d ← reg.known ancestor
  pure (d.defaultConstructor?.map (⟨·, d.toShape⟩))

/-- The constructors that run before a type's own one, the root's first. -/
def inheritedScripts (reg : Registry) (owner : Descriptor) : Except Fault (List BoundScript) := do
  pure ((← (owner.ancestors.drop 1).reverse.mapM (inheritedScript reg)).filterMap id)

/-- The invoker that makes an instance by a constructor. -/
def ofMember (reg : Registry) (m : Member) : Except Fault Construction :=
  match m.body with
  | .constructor body => do
    let owner ← reg.known m.declaring
    let inherited ← inheritedScripts reg owner
    pure { arguments := .ofMember reg m, owner, inherited, body := ⟨body, owner.toShape⟩,
           params := m.params }
  | _ => throw (.refused (.notAConstructor m.text))

end Construction

/-! ### Indexers -/

/-- The invoker that reads through an indexer. -/
def IndexReader.ofMember (reg : Registry) (target : TypeId) (m : Member) :
    Except Fault IndexReader :=
  match m.body with
  | .indexer (some getter) _ => do
    let body ← BoundScript.ofMember reg m getter
    let receiver ← ReceiverGuard.ofTarget reg target
    pure (.indexer receiver (.ofMember reg m) body)
  | .indexer none _ => throw (.refused (.indexerWithoutGetter (reg.nameOf m.declaring)))
  | _ => throw (.refused (.notAnIndexer m.text))

/-- The invoker that writes through an indexer. -/
def IndexWriter.ofMember (reg : Registry) (target : TypeId) (m : Member) :
    Except Fault IndexWriter :=
  match m.body with
  | .indexer _ (some setter) => do
    let body ← BoundScript.ofMember reg m setter
    let receiver ← ReceiverGuard.ofTarget reg target
    pure (.indexer receiver (.ofMember reg m) (ValueGuard.ofType reg m.valueType) body)
  | .indexer _ none => throw (.refused (.indexerWithoutSetter (reg.nameOf m.declaring)))
  | _ => throw (.refused (.notAnIndexer m.text))

end LateBinding
