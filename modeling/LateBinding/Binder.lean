import LateBinding.Copying
import LateBinding.Invoker.OfMember
import LateBinding.Invoker.Run

/-!
# The binder

The binder gets, sets, calls and creates things by name. Every operation goes the same way: it finds
the member, asks the caches for the member's invoker under a key that is made from the member and
never from the request, and runs the invoker.
-/

namespace LateBinding

/-- The flags that are used where a request gives none, and whether lookups are remembered. -/
structure Config where
  instanceFlags : Flags := .instanceAny
  staticFlags : Flags := .staticAny
  remembersLookups : Bool := true
deriving DecidableEq

/-! ### Subjects and signatures -/

/-- What a request is about: an instance, or a type and its static members. -/
inductive Subject where
  | instance (v : Value)
  | type (t : TypeId)

namespace Subject

/-- The type of an instance, which must not be null. -/
def typeOf (v : Value) : Except Fault TypeId :=
  if v.isNull then throw (.refused .nullTarget) else pure v.typeId

/-- The type to search. -/
def typeId : Subject → Except Fault TypeId
  | .instance v => typeOf v
  | .type t => pure t

/-- The receiver of the call. -/
def receiver : Subject → Value
  | .instance v => v
  | .type _ => .null

/-- The flags of a request about the subject. -/
def flags (config : Config) (given : Option Flags) : Subject → Flags
  | .instance _ => given.getD config.instanceFlags
  | .type _ => given.getD config.staticFlags

end Subject

/-- The type that an argument shows to the search: primitives and texts show theirs, and all else
may go anywhere as far as the search is concerned. -/
def Param.ofArgument : Value → Param
  | .bool _ => ⟨TypeId.bool, false⟩
  | .int _ => ⟨TypeId.int, false⟩
  | .float _ => ⟨TypeId.float, false⟩
  | .str _ => ⟨TypeId.string, false⟩
  | _ => any

/-- The signature that a call without a parameter list asks for. -/
def Signature.ofArguments (arguments : List Value) : Signature :=
  .inferred (arguments.map Param.ofArgument)

/-- The signature of a call with or without a parameter list. -/
def Signature.ofCall (params : Option (List Param)) (arguments : List Value) : Signature :=
  match params with
  | some params => .exact params
  | none => .ofArguments arguments

/-- A context together with the configuration of its requests. -/
structure Binder extends Context where
  config : Config := {}

namespace Binder

variable (b : Binder)

/-! ### Finding -/

/-- The member that a query denotes, remembered if lookups are. -/
def member (type : TypeId) (q : Query) : Run Member :=
  if b.config.remembersLookups then do
    let held ← Run.fetch .lookups ⟨type, q⟩ fun _ => b.registry.find type q
    pure held.value
  else
    Run.ofExcept (b.registry.find type q)

/-! ### Fields and properties -/

/-- The remembered invoker that reads a member. -/
def getter (type : TypeId) (kinds : KindSet) (name : String) (flags : Flags) :
    Run (Stamped Getter) := do
  let m ← b.member type { kinds, name := some name, flags }
  Run.fetch .getters (.ofMember type m) fun _ => Getter.ofMember b.registry type m

/-- The remembered invoker that writes a member. -/
def setter (type : TypeId) (kinds : KindSet) (name : String) (flags : Flags) :
    Run (Stamped Setter) := do
  let m ← b.member type { kinds, name := some name, flags }
  Run.fetch .setters (.ofMember type m) fun _ => Setter.ofMember b.registry type m

/-- Reads a member of one of the kinds. -/
def get (subject : Subject) (kinds : KindSet) (name : String) (flags : Option Flags) :
    Run Value := do
  let type ← Run.ofExcept subject.typeId
  let getter ← b.getter type kinds name (subject.flags b.config flags)
  getter.value.run b.toContext subject.receiver

/-- Writes a member of one of the kinds. -/
def set (subject : Subject) (kinds : KindSet) (name : String) (new : Value)
    (flags : Option Flags) : Run Unit := do
  let type ← Run.ofExcept subject.typeId
  let setter ← b.setter type kinds name (subject.flags b.config flags)
  setter.value.run b.toContext subject.receiver new

/-- The fields and properties of several names. -/
def membersNamed (type : TypeId) (flags : Flags) : List String → Run (List Member)
  | [] => pure []
  | name :: names => do
    let m ← b.member type { kinds := .fieldsAndProperties, name := some name, flags }
    let ms ← membersNamed type flags names
    pure (m :: ms)

/-- The remembered invoker that writes several members. -/
def batchSetter (type : TypeId) (flags : Flags) (names : List String) :
    Run (Stamped BatchSetter) := do
  let members ← b.membersNamed type flags names
  Run.fetch .batchSetters (.ofMembers type members) fun _ =>
    BatchSetter.ofMembers b.registry type members

/-- Writes several fields and properties. All of them are found before the first one is written. -/
def setAll (subject : Subject) (values : List (String × Value)) (flags : Option Flags) :
    Run Unit := do
  let type ← Run.ofExcept subject.typeId
  let setter ← b.batchSetter type (subject.flags b.config flags) (values.map (·.1))
  setter.value.run b.toContext subject.receiver (values.map (·.2))

/-! ### Methods and constructors -/

/-- The remembered invoker that calls a method. -/
def method (type : TypeId) (name : String) (signature : Signature) (flags : Flags) :
    Run (Stamped Method) := do
  let m ← b.member type { kinds := .single .method, name := some name, flags, signature }
  Run.fetch .methods (.ofMember type m) fun _ => Method.ofMember b.registry type m

/-- Calls a method; gives the result and the arguments after the call. -/
def call (subject : Subject) (name : String) (params : Option (List Param))
    (arguments : List Value) : Run (Value × List Value) := do
  let type ← Run.ofExcept subject.typeId
  let method ← b.method type name (.ofCall params arguments) (subject.flags b.config none)
  method.value.run b.toContext subject.receiver arguments

/-- The remembered invoker that makes an instance. -/
def constructor (type : TypeId) (signature : Signature) : Run (Stamped Construction) := do
  let m ← b.member type { kinds := .single .constructor, name := some constructorName,
                          flags := .instanceAny, signature }
  Run.fetch .constructors (.ofMember type m) fun _ => Construction.ofMember b.registry m

/-- Makes an instance; gives it and the arguments after the call. -/
def create (type : TypeId) (params : Option (List Param)) (arguments : List Value) :
    Run (Value × List Value) := do
  let construction ← b.constructor type (.ofCall params arguments)
  construction.value.run b.toContext arguments

/-! ### Indexers and array elements -/

/-- The indexer that fits the indices. -/
def indexer (type : TypeId) (indices : List Value) : Run Member :=
  b.member type { kinds := .single .indexer, name := some indexerName,
                  flags := b.config.instanceFlags, signature := .ofArguments indices }

/-- The remembered invoker that reads through indices. -/
def indexReader (receiver : Value) (indices : List Value) : Run (Stamped IndexReader) :=
  match receiver with
  | .array shape _ =>
    Run.fetch .indexReaders (.ofRank shape.rank) fun _ => pure (.element shape.rank)
  | receiver => do
    let type ← Run.ofExcept (Subject.typeOf receiver)
    let m ← b.indexer type indices
    Run.fetch .indexReaders (.ofMember type m) fun _ => IndexReader.ofMember b.registry type m

/-- The remembered invoker that writes through indices. -/
def indexWriter (receiver : Value) (indices : List Value) : Run (Stamped IndexWriter) :=
  match receiver with
  | .array shape _ =>
    Run.fetch .indexWriters (.ofRank shape.rank) fun _ => pure (.element shape.rank)
  | receiver => do
    let type ← Run.ofExcept (Subject.typeOf receiver)
    let m ← b.indexer type indices
    Run.fetch .indexWriters (.ofMember type m) fun _ => IndexWriter.ofMember b.registry type m

/-- Reads an array element or through an indexer. -/
def getAt (receiver : Value) (indices : List Value) : Run Value := do
  let reader ← b.indexReader receiver indices
  reader.value.run b.toContext receiver indices

/-- Writes an array element or through an indexer. -/
def setAt (receiver : Value) (indices : List Value) (new : Value) : Run Unit := do
  let writer ← b.indexWriter receiver indices
  writer.value.run b.toContext receiver indices new

/-! ### Copies between instances -/

/-- The remembered invoker that copies from one type to another. -/
def copier (source target : TypeId) (o : CopyOptions) : Run (Stamped Copier) := do
  let pairs ← Run.ofExcept (b.registry.copyPairs source target o)
  Run.fetch .copiers (.ofPairs source target o pairs) fun _ =>
    Copier.ofPairs b.registry source target pairs

/-- Copies the paired members from one instance to another. -/
def copy (source target : Value) (o : CopyOptions) : Run Unit := do
  let sourceType ← Run.ofExcept (Subject.typeOf source)
  let targetType ← Run.ofExcept (Subject.typeOf target)
  let copier ← b.copier sourceType targetType o
  copier.value.run b.toContext source target

end Binder

end LateBinding
