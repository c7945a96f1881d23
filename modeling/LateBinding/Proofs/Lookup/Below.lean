import LateBinding.Proofs.Lookup.Copying

/-!
# Answers below an identifier

What a registry answers about identifiers that have been handed out is settled by what it knows of
them. Another registry that knows the same of all identifiers below a given one gives the same
answers about them, and fails with the same faults where it fails. Registering a type makes such a
registry.

Main statement: `Registry.SameBelow.sameAnswers`.
-/

namespace LateBinding

/-- The types that the arguments show are below an identifier. -/
def Signature.Below (next : TypeId) : Signature → Prop
  | .inferred arguments => ∀ p ∈ arguments, p.type.code < next.code
  | _ => True

namespace Registry

variable {reg reg' : Registry} {next type t : TypeId} {q : Query}

/-- What a new instance of a type is like in a store: the value and its slots. -/
def newInstance (reg : Registry) (st : Store) (type : TypeId) :
    Except Fault (Value × Option (List Value)) := do
  let (v, st) := st.instantiate (← reg.known type)
  pure (v, st.slots? v)

/-- Two registries give the same answers to all questions about identifiers below a given one,
answers that are faults included. -/
structure SameAnswers (next : TypeId) (reg reg' : Registry) : Prop where
  get? : ∀ t, t.code < next.code → reg'.get? t = reg.get? t
  hierarchy : ∀ t, t.code < next.code → reg'.hierarchy t = reg.hierarchy t
  isAssignable : ∀ source target, source.code < next.code →
    reg'.isAssignable source target = reg.isAssignable source target
  isValueType : ∀ t, t.code < next.code → reg'.isValueType t = reg.isValueType t
  nameOf : ∀ t, t.code < next.code → reg'.nameOf t = reg.nameOf t
  defaultValue : ∀ t, t.code < next.code → reg'.defaultValue t = reg.defaultValue t
  newInstance : ∀ st t, t.code < next.code → reg'.newInstance st t = reg.newInstance st t
  find : ∀ t q, t.code < next.code → q.signature.Below next → reg'.find t q = reg.find t q
  findAll : ∀ t q, t.code < next.code → q.signature.Below next →
    reg'.findAll t q = reg.findAll t q
  findNamed : ∀ t kinds flags names, t.code < next.code →
    reg'.findNamed t kinds flags names = reg.findNamed t kinds flags names
  copyPairs : ∀ source target o, source.code < next.code → target.code < next.code →
    reg'.copyPairs source target o = reg.copyPairs source target o

namespace SameBelow

variable (h : SameBelow next reg reg')
include h

lemma sameAdmitted (hq : q.signature.Below next) : reg.SameAdmitted reg' q := by
  refine sameAdmitted_of fun arguments hs p hp => h p.type ?_
  rw [hs] at hq
  exact hq p hp

lemma defaultValue_eq (ht : t.code < next.code) : reg'.defaultValue t = reg.defaultValue t := by
  simp only [defaultValue, h t ht]

variable (hv : reg.Valid next)
include hv

lemma sameChain (ht : type.code < next.code) : reg.SameChain reg' type :=
  ⟨h type ht, fun hd a ha => h a (hv.ancestors hd a ha)⟩

lemma findAll_eq (ht : type.code < next.code) (hq : q.signature.Below next) :
    reg'.findAll type q = reg.findAll type q :=
  findAll_congr (h.sameAdmitted hq) (h.sameChain hv ht)

lemma findNamed_eq (ht : type.code < next.code) (kinds : KindSet) (flags : Flags)
    (names : List String) :
    reg'.findNamed type kinds flags names = reg.findNamed type kinds flags names := by
  rw [findNamed, findNamed, h.findAll_eq hv ht (q := { kinds, flags }) trivial]

lemma copyPairs_eq {source target : TypeId} (hs : source.code < next.code)
    (ht : target.code < next.code) (o : CopyOptions) :
    reg'.copyPairs source target o = reg.copyPairs source target o := by
  have htargets := h.findAll_eq hv ht trivial
    (q := { kinds := o.targetKinds.inter .fieldsAndProperties, flags := o.effectiveFlags })
  rw [copyPairs, copyPairs, copySources, copySources, h.findNamed_eq hv hs, copyTargets,
    copyTargets, htargets]

/-- All that is asked about an identifier follows from what is known of it and of the identifiers
before it. -/
theorem sameAnswers : SameAnswers next reg reg' where
  get? := h
  hierarchy := fun _ ht => hierarchy_congr (h.sameChain hv ht)
  isAssignable := fun _ target hs => isAssignable_congr (h _ hs) target
  isValueType := fun t ht => by rw [isValueType, isValueType, h t ht]
  nameOf := fun t ht => nameOf_congr (h t ht)
  defaultValue := fun _ ht => h.defaultValue_eq ht
  newInstance := fun _ t ht => by rw [newInstance, newInstance, known_congr (h t ht)]
  find := fun _ _ ht hq => find_congr (h.sameAdmitted hq) (h.sameChain hv ht)
  findAll := fun _ _ ht hq => h.findAll_eq hv ht hq
  findNamed := fun _ kinds flags names ht => h.findNamed_eq hv ht kinds flags names
  copyPairs := fun _ _ o hs ht => h.copyPairs_eq hv hs ht o

end SameBelow

end Registry

end LateBinding
