import LateBinding.Proofs.Run.Quiet
import LateBinding.Proofs.Session.Inquiries

/-!
# Operations

An operation is a request that gets an invoker and runs it. What it asks for follows from the
request alone: from the type of its subject, names, flags and parameters, and never from what an
instance holds. So all requests that have these in common ask for the same.

Main statements: `Request.Operates.goes` and `Request.Repeats.inquiry?_eq`.
-/

namespace LateBinding

open Run

/-! ### What a request asks for -/

/-- What indices go to: the elements of an array of a rank, or the indexer of a type. -/
def Value.indexed : Value → Except Fault (Nat ⊕ TypeId)
  | .array shape _ => .ok (.inl shape.rank)
  | v => .inr <$> Subject.typeOf v

/-- The types of two instances, neither of which must be null. -/
def Subject.typesOf (source target : Value) : Except Fault (TypeId × TypeId) := do
  let sourceType ← typeOf source
  let targetType ← typeOf target
  pure (sourceType, targetType)

/-- The query for the indexer that fits the indices. -/
def Query.ofIndices (config : Config) (indices : List Value) : Query :=
  { kinds := .single .indexer, name := indexerName, flags := config.instanceFlags,
    signature := .ofArguments indices }

lemma Run.ofExcept_bind {α β : Type} (x : Except Fault α) (f : α → Except Fault β) :
    Run.ofExcept (x >>= f) = Run.ofExcept x >>= fun a => Run.ofExcept (f a) := by
  cases x <;> rfl

/-- Whether indices go to an array or to an indexer, nothing else happens before the invoker is
asked for. -/
lemma Binder.indexReader_eq (b : Binder) (receiver : Value) (indices : List Value) :
    b.indexReader receiver indices = Run.ofExcept receiver.indexed >>= fun
      | .inl rank => b.inquire (.elementReader rank)
      | .inr type => b.inquire (.invoker .indexReader type (.ofIndices b.config indices)
          (Signature.ofArguments_ofRequest indices)) := by
  cases receiver with
  | array shape r => rfl
  | _ => rfl

lemma Binder.indexWriter_eq (b : Binder) (receiver : Value) (indices : List Value) :
    b.indexWriter receiver indices = Run.ofExcept receiver.indexed >>= fun
      | .inl rank => b.inquire (.elementWriter rank)
      | .inr type => b.inquire (.invoker .indexWriter type (.ofIndices b.config indices)
          (Signature.ofArguments_ofRequest indices)) := by
  cases receiver with
  | array shape r => rfl
  | _ => rfl

namespace Request

/-- The inquiry by which a request gets its invoker. -/
def inquiry? (config : Config) : Request → Option (Σ c, Inquiry c)
  | get subject kinds name flags => subject.typeId.toOption.map fun type =>
    ⟨_, .invoker .getter type { kinds, name, flags := subject.flags config flags } trivial⟩
  | set subject kinds name _ flags => subject.typeId.toOption.map fun type =>
    ⟨_, .invoker .setter type { kinds, name, flags := subject.flags config flags } trivial⟩
  | setAll subject values flags => subject.typeId.toOption.map fun type =>
    ⟨_, .batchSetter type (subject.flags config flags) (values.map (·.1))⟩
  | call subject name params arguments => subject.typeId.toOption.map fun type =>
    ⟨_, .invoker .method type
      { kinds := .single .method, name, flags := subject.flags config none,
        signature := .ofCall params arguments } (Signature.ofCall_ofRequest params arguments)⟩
  | create type params arguments => some
    ⟨_, .invoker .constructor type
      { kinds := .single .constructor, name := constructorName, flags := .instanceAny,
        signature := .ofCall params arguments } (Signature.ofCall_ofRequest params arguments)⟩
  | getAt receiver indices => receiver.indexed.toOption.map fun
    | .inl rank => ⟨_, .elementReader rank⟩
    | .inr type => ⟨_, .invoker .indexReader type (.ofIndices config indices)
        (Signature.ofArguments_ofRequest indices)⟩
  | setAt receiver indices _ => receiver.indexed.toOption.map fun
    | .inl rank => ⟨_, .elementWriter rank⟩
    | .inr type => ⟨_, .invoker .indexWriter type (.ofIndices config indices)
        (Signature.ofArguments_ofRequest indices)⟩
  | copy source target o => (Subject.typesOf source target).toOption.map fun (s, t) =>
    ⟨_, .copier s t o⟩
  | _ => none

/-- What a request does with its invoker. -/
def serve (ctx : Context) : Request → (c : Category) → c.Item → Run Answer
  | get subject _ _ _, .getters, g => do
    pure (.value (← g.run ctx subject.receiver))
  | set subject _ _ new _, .setters, s => do
    s.run ctx subject.receiver new
    pure .done
  | setAll subject values _, .batchSetters, b => do
    b.run ctx subject.receiver (values.map (·.2))
    pure .done
  | call subject _ _ arguments, .methods, m => do
    let (result, arguments) ← m.run ctx subject.receiver arguments
    pure (.call result arguments)
  | create _ _ arguments, .constructors, c => do
    let (made, arguments) ← c.run ctx arguments
    pure (.call made arguments)
  | getAt receiver indices, .indexReaders, x => do
    pure (.value (← x.run ctx receiver indices))
  | setAt receiver indices new, .indexWriters, x => do
    x.run ctx receiver indices new
    pure .done
  | copy source target _, .copiers, c => do
    c.run ctx source target
    pure .done
  | _, _, _ => pure .done

/-- The request gets an invoker and runs it. -/
def Operates : Request → Prop
  | get .. | set .. | setAll .. | call .. | create .. | getAt .. | setAt .. | copy .. => True
  | _ => False

variable {r r' : Request} {c : Category} {i : Inquiry c} {b : Binder}

/-- How a request goes: it fails at once, or it gets its invoker and runs it. -/
def Goes (r : Request) (b : Binder) : Prop :=
  (∃ c, ∃ i : Inquiry c, r.inquiry? b.config = some ⟨c, i⟩ ∧
    r.perform b = b.inquire i >>= fun held => r.serve b.toContext c held.value) ∨
  r.inquiry? b.config = none ∧ ∃ e, r.perform b = throw e

/-- It is enough to know what the inquiry depends on. -/
lemma goes_of_eq {α : Type} {x : Except Fault α} {f : α → Σ c, Inquiry c}
    (hinquiry : r.inquiry? b.config = x.toOption.map f)
    (hperform : r.perform b = Run.ofExcept x >>= fun a =>
      b.inquire (f a).2 >>= fun held => r.serve b.toContext (f a).1 held.value) : r.Goes b := by
  cases x with
  | ok a => exact .inl ⟨_, (f a).2, hinquiry, hperform⟩
  | error e => exact .inr ⟨hinquiry, e, hperform⟩

/-- Only what is about null fails before anything is asked for. -/
lemma Operates.goes (h : r.Operates) (b : Binder) : r.Goes b := by
  cases r with
  | get subject kinds name flags =>
    refine goes_of_eq (x := subject.typeId) rfl ?_
    simp only [perform, Binder.get, bind_assoc]
    rfl
  | set subject kinds name new flags =>
    refine goes_of_eq (x := subject.typeId) rfl ?_
    simp only [perform, Binder.set, bind_assoc]
    rfl
  | setAll subject values flags =>
    refine goes_of_eq (x := subject.typeId) rfl ?_
    simp only [perform, Binder.setAll, bind_assoc]
    rfl
  | call subject name params arguments =>
    refine goes_of_eq (x := subject.typeId) rfl ?_
    simp only [perform, Binder.call, bind_assoc]
    rfl
  | create type params arguments =>
    refine .inl ⟨_, .invoker .constructor type _ _, rfl, ?_⟩
    simp only [perform, Binder.create, bind_assoc]
    rfl
  | getAt receiver indices =>
    refine goes_of_eq (x := receiver.indexed) rfl ?_
    rw [perform, Binder.getAt, Binder.indexReader_eq, bind_assoc, bind_assoc]
    refine congrArg _ (funext fun place => ?_)
    cases place <;> rfl
  | setAt receiver indices new =>
    refine goes_of_eq (x := receiver.indexed) rfl ?_
    rw [perform, Binder.setAt, Binder.indexWriter_eq, bind_assoc, bind_assoc]
    refine congrArg _ (funext fun place => ?_)
    cases place <;> rfl
  | copy source target o =>
    refine goes_of_eq (x := Subject.typesOf source target) rfl ?_
    simp only [perform, Binder.copy, Subject.typesOf, Run.ofExcept_bind, bind_assoc]
    rfl
  | _ => exact h.elim

/-- What a request does with its invoker goes in step if the invoker does. -/
lemma serve_inStep {R : Bond} {ctx₁ ctx₂ : Context} {c : Category} {x : c.Item}
    (h : c.Relates (Run.InStep R fun _ => True) ctx₁ ctx₂ x) (r : Request) :
    Run.InStep R (fun _ => True) (r.serve ctx₁ c x) (r.serve ctx₂ c x) := by
  cases r with
  | get subject kinds name flags => cases c with
    | getters => exact (h _).bind fun _ _ => .pure trivial
    | _ => exact .pure trivial
  | set subject kinds name new flags => cases c with
    | setters => exact (h _ _).bind fun _ _ => .pure trivial
    | _ => exact .pure trivial
  | setAll subject values flags => cases c with
    | batchSetters => exact (h _ _).bind fun _ _ => .pure trivial
    | _ => exact .pure trivial
  | call subject name params arguments => cases c with
    | methods => exact (h _ _).bind fun _ _ => .pure trivial
    | _ => exact .pure trivial
  | create type params arguments => cases c with
    | constructors => exact (h _).bind fun _ _ => .pure trivial
    | _ => exact .pure trivial
  | getAt receiver indices => cases c with
    | indexReaders => exact (h _ _).bind fun _ _ => .pure trivial
    | _ => exact .pure trivial
  | setAt receiver indices new => cases c with
    | indexWriters => exact (h _ _ _).bind fun _ _ => .pure trivial
    | _ => exact .pure trivial
  | copy source target o => cases c with
    | copiers => exact (h _ _).bind fun _ _ => .pure trivial
    | _ => exact .pure trivial
  | _ => exact .pure trivial

/-- An invoker without bodies leaves the caches alone. -/
lemma caches_serve {ctx : Context} (hn : ctx.native.Idle) {c : Category} {x : c.Item}
    (h : c.Bodiless x) (r : Request) (s : State) :
    (after (r.serve ctx c x s)).caches = s.caches := by
  have hR : Steady fun s' t : State => s' = t ∧ s'.caches = s.caches := {
    store_eq := fun h => congrArg State.store h.1
    change := by
      rintro s' _ st ⟨rfl, hs'⟩ -
      exact ⟨rfl, hs'⟩ }
  have hrelates : c.Relates (Run.InStep _ fun _ => True) ctx ctx x :=
    Category.relates_of_bodiless hR hn h
  have hagree := r.serve_inStep hrelates s s ⟨rfl, rfl⟩
  change Agree _ _ (r.serve ctx c x s) (r.serve ctx c x s) at hagree
  generalize r.serve ctx c x s = result at hagree
  cases hagree with
  | ok _ hr => exact hr.2
  | error hr => exact hr.2
  | parted h => exact h.elim

end Request

/-! ### Repetitions -/

/-- Two subjects of one type: instances of it, or both the type itself. -/
inductive Subject.Alike : Subject → Subject → Prop where
  | instance {v v' : Value} (h : typeOf v' = typeOf v) : Alike (.instance v') (.instance v)
  | type (t : TypeId) : Alike (.type t) (.type t)

/-- The first request repeats the second one: on an instance of the same type or an array of the
same rank, with the same names, flags and parameters, and with arguments that show the same types.
The values that are written may differ. -/
inductive Request.Repeats : Request → Request → Prop where
  | get {subject subject' : Subject} (h : subject'.Alike subject) (kinds : KindSet)
      (name : String) (flags : Option Flags) :
      Repeats (.get subject' kinds name flags) (.get subject kinds name flags)
  | set {subject subject' : Subject} (h : subject'.Alike subject) (kinds : KindSet)
      (name : String) (new new' : Value) (flags : Option Flags) :
      Repeats (.set subject' kinds name new' flags) (.set subject kinds name new flags)
  | setAll {subject subject' : Subject} (h : subject'.Alike subject)
      {values values' : List (String × Value)} (hnames : values'.map (·.1) = values.map (·.1))
      (flags : Option Flags) :
      Repeats (.setAll subject' values' flags) (.setAll subject values flags)
  | call {subject subject' : Subject} (h : subject'.Alike subject) (name : String)
      (params : Option (List Param)) {arguments arguments' : List Value}
      (ha : arguments'.map Param.ofArgument = arguments.map Param.ofArgument) :
      Repeats (.call subject' name params arguments') (.call subject name params arguments)
  | create (type : TypeId) (params : Option (List Param)) {arguments arguments' : List Value}
      (ha : arguments'.map Param.ofArgument = arguments.map Param.ofArgument) :
      Repeats (.create type params arguments') (.create type params arguments)
  | getAt {receiver receiver' : Value} (h : receiver'.indexed = receiver.indexed)
      {indices indices' : List Value}
      (hi : indices'.map Param.ofArgument = indices.map Param.ofArgument) :
      Repeats (.getAt receiver' indices') (.getAt receiver indices)
  | setAt {receiver receiver' : Value} (h : receiver'.indexed = receiver.indexed)
      {indices indices' : List Value}
      (hi : indices'.map Param.ofArgument = indices.map Param.ofArgument) (new new' : Value) :
      Repeats (.setAt receiver' indices' new') (.setAt receiver indices new)
  | copy {source source' target target' : Value}
      (hs : Subject.typeOf source' = Subject.typeOf source)
      (ht : Subject.typeOf target' = Subject.typeOf target) (o : CopyOptions) :
      Repeats (.copy source' target' o) (.copy source target o)

lemma Signature.ofArguments_congr {arguments arguments' : List Value}
    (h : arguments'.map Param.ofArgument = arguments.map Param.ofArgument) :
    ofArguments arguments' = ofArguments arguments :=
  congrArg inferred h

lemma Signature.ofCall_congr {arguments arguments' : List Value}
    (h : arguments'.map Param.ofArgument = arguments.map Param.ofArgument)
    (params : Option (List Param)) : ofCall params arguments' = ofCall params arguments := by
  cases params with
  | none => exact ofArguments_congr h
  | some params => rfl

namespace Subject.Alike

variable {subject subject' : Subject} (h : subject'.Alike subject)
include h

lemma typeId_eq : subject'.typeId = subject.typeId := by
  cases h with
  | «instance» h => exact h
  | type t => rfl

lemma flags_eq (config : Config) (given : Option Flags) :
    subject'.flags config given = subject.flags config given := by
  cases h <;> rfl

end Subject.Alike

namespace Request.Repeats

variable {r r' : Request} (h : r'.Repeats r)
include h

lemma operates : r'.Operates := by
  cases h <;> trivial

/-- What is asked for follows from what repetitions have in common. -/
lemma inquiry?_eq (config : Config) : r'.inquiry? config = r.inquiry? config := by
  cases h with
  | get h => simp only [inquiry?, h.typeId_eq, h.flags_eq]
  | set h => simp only [inquiry?, h.typeId_eq, h.flags_eq]
  | setAll h hnames => simp only [inquiry?, h.typeId_eq, h.flags_eq, hnames]
  | call h name params ha =>
    simp only [inquiry?, h.typeId_eq, h.flags_eq, Signature.ofCall_congr ha params]
  | create type params ha => simp only [inquiry?, Signature.ofCall_congr ha params]
  | getAt h hi => simp only [inquiry?, h, Query.ofIndices, Signature.ofArguments_congr hi]
  | setAt h hi => simp only [inquiry?, h, Query.ofIndices, Signature.ofArguments_congr hi]
  | copy hs ht => simp only [inquiry?, Subject.typesOf, hs, ht]

end Request.Repeats

end LateBinding
