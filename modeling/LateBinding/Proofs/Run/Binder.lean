import LateBinding.Binder
import LateBinding.Proofs.Except
import LateBinding.Proofs.Invoker.Sorts
import LateBinding.Proofs.Lookup.Frame
import LateBinding.Proofs.Run.Invokers

/-!
# The binder in step

All that the binder asks the caches is a member for a query, and an invoker under the key of members
that were found. Two binders that differ in nothing but whether lookups are remembered go in step
under every steady relation under which these questions do. Where no invoker is given out, it is
enough that whatever is done with the invokers goes in step.
-/

namespace LateBinding

open Run

variable {reg : Registry}

/-! ### Questions to the caches -/

lemma Signature.ofArguments_ofRequest (arguments : List Value) :
    (Signature.ofArguments arguments).OfRequest := by
  intro p hp
  obtain ⟨v, -, rfl⟩ := List.mem_map.mp hp
  cases v <;> rfl

lemma Signature.ofCall_ofRequest (params : Option (List Param)) (arguments : List Value) :
    (Signature.ofCall params arguments).OfRequest := by
  cases params with
  | none => exact Signature.ofArguments_ofRequest arguments
  | some params => trivial

/-- The queries by which the binder asks for the member that an invoker of a sort shall serve. -/
inductive Asks (config : Config) : InvokerSort → TypeId → Query → Prop where
  | getter (type : TypeId) (kinds : KindSet) (name : String) (flags : Flags) :
      Asks config .getter type { kinds, name, flags }
  | setter (type : TypeId) (kinds : KindSet) (name : String) (flags : Flags) :
      Asks config .setter type { kinds, name, flags }
  | method (type : TypeId) (name : String) (params : List Param) (flags : Flags) :
      Asks config .method type
        { kinds := .single .method, name, flags, signature := .exact params }
  | call {type : TypeId} {subject : Subject} (h : subject.typeId = .ok type) (name : String)
      (arguments : List Value) :
      Asks config .method type
        { kinds := .single .method, name, flags := subject.flags config none,
          signature := .ofArguments arguments }
  | constructor (type : TypeId) (params : List Param) :
      Asks config .constructor type
        { kinds := .single .constructor, name := constructorName, flags := .instanceAny,
          signature := .exact params }
  | create (type : TypeId) (arguments : List Value) :
      Asks config .constructor type
        { kinds := .single .constructor, name := constructorName, flags := .instanceAny,
          signature := .ofArguments arguments }
  | indexReader (type : TypeId) (indices : List Value) :
      Asks config .indexReader type
        { kinds := .single .indexer, name := indexerName, flags := config.instanceFlags,
          signature := .ofArguments indices }
  | indexWriter (type : TypeId) (indices : List Value) :
      Asks config .indexWriter type
        { kinds := .single .indexer, name := indexerName, flags := config.instanceFlags,
          signature := .ofArguments indices }

lemma Asks.ofCall {config : Config} {subject : Subject} {type : TypeId}
    (h : subject.typeId = .ok type) (name : String) (params : Option (List Param))
    (arguments : List Value) :
    Asks config .method type
      { kinds := .single .method, name, flags := subject.flags config none,
        signature := .ofCall params arguments } := by
  cases params with
  | none => exact .call h name arguments
  | some params => exact .method type name params _

lemma Asks.ofCreate {config : Config} (type : TypeId) (params : Option (List Param))
    (arguments : List Value) :
    Asks config .constructor type
      { kinds := .single .constructor, name := constructorName, flags := .instanceAny,
        signature := .ofCall params arguments } := by
  cases params with
  | none => exact .create type arguments
  | some params => exact .constructor type params

lemma Asks.ofRequest {config : Config} {sort : InvokerSort} {type : TypeId} {q : Query}
    (h : Asks config sort type q) : q.signature.OfRequest := by
  cases h with
  | call _ _ arguments => exact Signature.ofArguments_ofRequest arguments
  | create _ arguments => exact Signature.ofArguments_ofRequest arguments
  | indexReader _ indices => exact Signature.ofArguments_ofRequest indices
  | indexWriter _ indices => exact Signature.ofArguments_ofRequest indices
  | _ => trivial

/-- The binder may find `m` when it asks for an invoker of a sort. -/
def Registry.Finds (reg : Registry) (config : Config) (sort : InvokerSort) (type : TypeId)
    (m : Member) : Prop :=
  ∃ q, Asks config sort type q ∧ reg.find type q = .ok m

/-- The fields and properties that searches find for several names. -/
def Registry.findEach (reg : Registry) (type : TypeId) (flags : Flags) (names : List String) :
    Except Fault (List Member) :=
  names.mapM fun name =>
    reg.find type { kinds := .fieldsAndProperties, name := some name, flags }

/-- What the binder asks the caches of the invokers: under which key, and how the invoker is made if
it is not there. -/
inductive Fetches (reg : Registry) (config : Config) :
    (c : Category) → c.Key → (Unit → Except Fault c.Item) → Prop where
  | invoker (sort : InvokerSort) {type : TypeId} {m : Member}
      (h : reg.Finds config sort type m) :
      Fetches reg config sort.category (sort.key (.ofMember type m)) fun _ =>
        sort.compile reg type m
  | elementReader (rank : Nat) :
      Fetches reg config .indexReaders (.ofRank rank) fun _ => pure (.element rank)
  | elementWriter (rank : Nat) :
      Fetches reg config .indexWriters (.ofRank rank) fun _ => pure (.element rank)
  | batchSetter {type : TypeId} {flags : Flags} {names : List String} {ms : List Member}
      (h : reg.findEach type flags names = .ok ms) :
      Fetches reg config .batchSetters (.ofMembers type ms) fun _ =>
        BatchSetter.ofMembers reg type ms
  | copier {source target : TypeId} {o : CopyOptions} {pairs : List (Member × Member)}
      (h : reg.copyPairs source target o = .ok pairs) :
      Fetches reg config .copiers (.ofPairs source target o pairs) fun _ =>
        Copier.ofPairs reg source target pairs

/-- The configuration with lookups remembered or not. -/
def Config.remembering (config : Config) (remembers : Bool) : Config :=
  { config with remembersLookups := remembers }

/-- A binder by its parts. -/
abbrev Binder.of (reg : Registry) (config : Config) (native : Native) : Binder :=
  { registry := reg, native, config }

/-- A steady relation under which members are found in step, and so is whatever is done with their
invokers, where the one side remembers lookups or not, and so does the other. -/
structure Concord (reg : Registry) (config : Config) (r₁ r₂ : Bool) (R : Bond) :
    Prop extends Steady R where
  member : ∀ (n₁ n₂ : Native) (type : TypeId) (q : Query), q.signature.OfRequest →
    InStep R (fun m => reg.find type q = .ok m)
      ((Binder.of reg (config.remembering r₁) n₁).member type q)
      ((Binder.of reg (config.remembering r₂) n₂).member type q)
  serve : ∀ {sort : InvokerSort} {type : TypeId} {m : Member}, reg.Finds config sort type m →
    ∀ {α : Type} {Q : α → Prop} {f g : sort.Item → Run α}, (∀ x, InStep R Q (f x) (g x)) →
      InStep R Q
        (Run.fetch sort.category (sort.key (.ofMember type m))
          (fun _ => sort.compile reg type m) >>= fun held => f held.value)
        (Run.fetch sort.category (sort.key (.ofMember type m))
          (fun _ => sort.compile reg type m) >>= fun held => g held.value)

/-- A steady relation under which members are found in step, and so is whatever is done with the
invokers that the caches are asked for. -/
structure Harmony (reg : Registry) (config : Config) (r₁ r₂ : Bool) (R : Bond) : Prop
    extends Steady R where
  member : ∀ (n₁ n₂ : Native) (type : TypeId) (q : Query), q.signature.OfRequest →
    InStep R (fun m => reg.find type q = .ok m)
      ((Binder.of reg (config.remembering r₁) n₁).member type q)
      ((Binder.of reg (config.remembering r₂) n₂).member type q)
  serve : ∀ {c : Category} {key : c.Key} {make : Unit → Except Fault c.Item},
    Fetches reg config c key make →
      ∀ {α : Type} {Q : α → Prop} {f g : c.Item → Run α}, (∀ x, InStep R Q (f x) (g x)) →
        InStep R Q (Run.fetch c key make >>= fun held => f held.value)
          (Run.fetch c key make >>= fun held => g held.value)

/-- A steady relation under which all questions to the caches go in step. -/
structure Accord (reg : Registry) (config : Config) (r₁ r₂ : Bool) (R : Bond) :
    Prop extends Steady R where
  member : ∀ (n₁ n₂ : Native) (type : TypeId) (q : Query), q.signature.OfRequest →
    InStep R (fun m => reg.find type q = .ok m)
      ((Binder.of reg (config.remembering r₁) n₁).member type q)
      ((Binder.of reg (config.remembering r₂) n₂).member type q)
  fetch : ∀ {c : Category} {key : c.Key} {make : Unit → Except Fault c.Item},
    Fetches reg config c key make →
      InStep R (fun _ => True) (Run.fetch c key make) (Run.fetch c key make)

lemma Accord.toHarmony {config : Config} {r₁ r₂ : Bool} {R : Bond}
    (hR : Accord reg config r₁ r₂ R) : Harmony reg config r₁ r₂ R where
  toSteady := hR.toSteady
  member := hR.member
  serve := fun h _ _ _ _ hfg => (hR.fetch h).bind fun held _ => hfg held.value

lemma Harmony.toConcord {config : Config} {r₁ r₂ : Bool} {R : Bond}
    (hR : Harmony reg config r₁ r₂ R) : Concord reg config r₁ r₂ R where
  toSteady := hR.toSteady
  member := hR.member
  serve := fun h => hR.serve (.invoker _ h)

lemma Accord.toConcord {config : Config} {r₁ r₂ : Bool} {R : Bond}
    (hR : Accord reg config r₁ r₂ R) : Concord reg config r₁ r₂ R :=
  hR.toHarmony.toConcord

/-- An operation goes in step between two such binders, as soon as native bodies do. -/
def Binder.InStep {α : Type} (reg : Registry) (config : Config) (r₁ r₂ : Bool)
    (R : Bond) (operation : Binder → Run α) : Prop :=
  ∀ n₁ n₂, Native.InStep R n₁ n₂ → Run.InStep R (fun _ => True)
    (operation (.of reg (config.remembering r₁) n₁))
    (operation (.of reg (config.remembering r₂) n₂))

namespace Concord

variable {config : Config} {r₁ r₂ : Bool} {R : Bond}
  (hR : Concord reg config r₁ r₂ R)
include hR

lemma found (n₁ n₂ : Native) {sort : InvokerSort} {type : TypeId} {q : Query}
    (h : Asks config sort type q) :
    Run.InStep R (reg.Finds config sort type)
      ((Binder.of reg (config.remembering r₁) n₁).member type q)
      ((Binder.of reg (config.remembering r₂) n₂).member type q) :=
  (hR.member n₁ n₂ type q h.ofRequest).mono fun _ hm => ⟨q, h, hm⟩

/-- A member is found and something is done with its invoker. -/
lemma served (n₁ n₂ : Native) {sort : InvokerSort} {type : TypeId} {q : Query}
    (h : Asks config sort type q) {α : Type} {Q : α → Prop} {f g : sort.Item → Run α}
    (hfg : ∀ x, Run.InStep R Q (f x) (g x)) :
    Run.InStep R Q
      (((Binder.of reg (config.remembering r₁) n₁).member type q >>= fun m =>
        Run.fetch sort.category (sort.key (.ofMember type m)) fun _ =>
          sort.compile reg type m) >>= fun held => f held.value)
      (((Binder.of reg (config.remembering r₂) n₂).member type q >>= fun m =>
        Run.fetch sort.category (sort.key (.ofMember type m)) fun _ =>
          sort.compile reg type m) >>= fun held => g held.value) := by
  rw [bind_assoc, bind_assoc]
  exact (hR.found n₁ n₂ h).bind fun m hm => hR.serve hm hfg

lemma get (subject : Subject) (kinds : KindSet) (name : String) (flags : Option Flags) :
    Binder.InStep reg config r₁ r₂ R fun b => b.get subject kinds name flags := by
  intro n₁ n₂ hn
  apply (InStep.ofExcept _).bind
  intro type _
  exact hR.served n₁ n₂ (.getter type kinds name _) fun g =>
    g.run_inStep (hR.contexts _ hn) (fun _ _ => trivial) subject.receiver

lemma set (subject : Subject) (kinds : KindSet) (name : String) (new : Value)
    (flags : Option Flags) :
    Binder.InStep reg config r₁ r₂ R fun b => b.set subject kinds name new flags := by
  intro n₁ n₂ hn
  apply (InStep.ofExcept _).bind
  intro type _
  exact hR.served n₁ n₂ (.setter type kinds name _) fun s =>
    s.run_inStep (hR.contexts _ hn) (fun _ _ => trivial) subject.receiver new

lemma call (subject : Subject) (name : String) (params : Option (List Param))
    (arguments : List Value) :
    Binder.InStep reg config r₁ r₂ R fun b => b.call subject name params arguments := by
  intro n₁ n₂ hn
  apply (InStep.ofExcept _).bind
  intro type htype
  exact hR.served n₁ n₂ (.ofCall htype name params arguments) fun m =>
    m.run_inStep (hR.contexts _ hn) (fun _ _ => trivial) subject.receiver arguments

lemma create (type : TypeId) (params : Option (List Param)) (arguments : List Value) :
    Binder.InStep reg config r₁ r₂ R fun b => b.create type params arguments := by
  intro n₁ n₂ hn
  exact hR.served n₁ n₂ (.ofCreate type params arguments) fun c =>
    c.run_inStep (hR.contexts _ hn) (fun _ _ => trivial) arguments

lemma membersNamed (n₁ n₂ : Native) (type : TypeId) (flags : Flags) (names : List String) :
    Run.InStep R (fun ms => reg.findEach type flags names = .ok ms)
      ((Binder.of reg (config.remembering r₁) n₁).membersNamed type flags names)
      ((Binder.of reg (config.remembering r₂) n₂).membersNamed type flags names) := by
  induction names with
  | nil => exact .pure rfl
  | cons name names ih =>
    apply (hR.member n₁ n₂ type { kinds := .fieldsAndProperties, name, flags } trivial).bind
    intro m hm
    exact ih.bind fun ms hms => .pure (mapM_cons_of_ok hm hms)

end Concord

namespace Harmony

variable {config : Config} {r₁ r₂ : Bool} {R : Bond}
  (hR : Harmony reg config r₁ r₂ R)
include hR

lemma setAll (subject : Subject) (values : List (String × Value)) (flags : Option Flags) :
    Binder.InStep reg config r₁ r₂ R fun b => b.setAll subject values flags := by
  intro n₁ n₂ hn
  apply (InStep.ofExcept _).bind
  intro type _
  simp only [Binder.batchSetter, bind_assoc]
  exact (hR.toConcord.membersNamed n₁ n₂ type _ _).bind fun ms hms =>
    hR.serve (.batchSetter hms) fun s =>
      s.run_inStep (hR.contexts _ hn) (fun _ _ => trivial) subject.receiver _

lemma getAt (receiver : Value) (indices : List Value) :
    Binder.InStep reg config r₁ r₂ R fun b => b.getAt receiver indices := by
  intro n₁ n₂ hn
  simp only [Binder.getAt, Binder.indexReader]
  cases receiver with
  | array shape r =>
    exact hR.serve (.elementReader shape.rank) fun x =>
      x.run_inStep (hR.contexts _ hn) (fun _ _ => trivial) _ indices
  | _ =>
    rw [bind_assoc, bind_assoc]
    apply (InStep.ofExcept _).bind
    intro type _
    exact hR.toConcord.served n₁ n₂ (.indexReader type indices) fun x =>
      x.run_inStep (hR.contexts _ hn) (fun _ _ => trivial) _ indices

lemma setAt (receiver : Value) (indices : List Value) (new : Value) :
    Binder.InStep reg config r₁ r₂ R fun b => b.setAt receiver indices new := by
  intro n₁ n₂ hn
  simp only [Binder.setAt, Binder.indexWriter]
  cases receiver with
  | array shape r =>
    exact hR.serve (.elementWriter shape.rank) fun x =>
      x.run_inStep (hR.contexts _ hn) (fun _ _ => trivial) _ indices new
  | _ =>
    rw [bind_assoc, bind_assoc]
    apply (InStep.ofExcept _).bind
    intro type _
    exact hR.toConcord.served n₁ n₂ (.indexWriter type indices) fun x =>
      x.run_inStep (hR.contexts _ hn) (fun _ _ => trivial) _ indices new

lemma copy (source target : Value) (o : CopyOptions) :
    Binder.InStep reg config r₁ r₂ R fun b => b.copy source target o := by
  intro n₁ n₂ hn
  apply (InStep.ofExcept _).bind
  intro sourceType _
  apply (InStep.ofExcept _).bind
  intro targetType _
  simp only [Binder.copier, bind_assoc]
  exact (InStep.ofExcept _).bind fun pairs hpairs =>
    hR.serve (.copier hpairs) fun c =>
      c.run_inStep (hR.contexts _ hn) (fun _ _ => trivial) source target

end Harmony

namespace Accord

variable {config : Config} {r₁ r₂ : Bool} {R : Bond}
  (hR : Accord reg config r₁ r₂ R)
include hR

/-! ### Fields and properties -/

lemma getter (type : TypeId) (kinds : KindSet) (name : String) (flags : Flags) :
    Binder.InStep reg config r₁ r₂ R fun b => b.getter type kinds name flags :=
  fun n₁ n₂ _ => (hR.toConcord.found n₁ n₂ (.getter type kinds name flags)).bind fun _ hm =>
    hR.fetch (.invoker .getter hm)

lemma setter (type : TypeId) (kinds : KindSet) (name : String) (flags : Flags) :
    Binder.InStep reg config r₁ r₂ R fun b => b.setter type kinds name flags :=
  fun n₁ n₂ _ => (hR.toConcord.found n₁ n₂ (.setter type kinds name flags)).bind fun _ hm =>
    hR.fetch (.invoker .setter hm)

/-! ### Methods and constructors -/

lemma method (type : TypeId) (name : String) (signature : Signature) (flags : Flags)
    (h : Asks config .method type { kinds := .single .method, name, flags, signature }) :
    Binder.InStep reg config r₁ r₂ R fun b => b.method type name signature flags :=
  fun n₁ n₂ _ => (hR.toConcord.found n₁ n₂ h).bind fun _ hm => hR.fetch (.invoker .method hm)

lemma constructor (type : TypeId) (signature : Signature)
    (h : Asks config .constructor type
      { kinds := .single .constructor, name := constructorName, flags := .instanceAny,
        signature }) :
    Binder.InStep reg config r₁ r₂ R fun b => b.constructor type signature :=
  fun n₁ n₂ _ => (hR.toConcord.found n₁ n₂ h).bind fun _ hm => hR.fetch (.invoker .constructor hm)

end Accord

end LateBinding
