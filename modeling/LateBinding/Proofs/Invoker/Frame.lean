import Mathlib.Data.List.Basic
import LateBinding.Proofs.Invoker.Sorts
import LateBinding.Proofs.Registry.Valid

/-!
# Invokers in changing registries

An invoker is made from what is known of the target type, of the declaring type, of the types of the
parameters and, for what writes a value, of the type of the value. A constructor looks at the
ancestors of its type too. The type of the value is the only one of these that does not show in the
key, and what an invoker knows of it is in the guard of the value.
-/

namespace LateBinding

variable {reg reg' : Registry} {next target : TypeId} {m : Member}

/-! ### Parts -/

lemma BoundScript.ofMember_congr (h : reg'.get? m.declaring = reg.get? m.declaring)
    (body : Script) : ofMember reg' m body = ofMember reg m body := by
  rw [ofMember, ofMember, Registry.known_congr h]

lemma Place.ofSlot_congr (h : reg'.get? m.declaring = reg.get? m.declaring) (slot : Nat) :
    ofSlot reg' m slot = ofSlot reg m slot := by
  rw [ofSlot, ofSlot, Registry.known_congr h]

lemma Access.ofAccessor_congr (h : reg'.get? m.declaring = reg.get? m.declaring) (a : Accessor) :
    ofAccessor reg' m a = ofAccessor reg m a := by
  cases a with
  | slot index => rw [ofAccessor, ofAccessor, Place.ofSlot_congr h]
  | native body => rw [ofAccessor, ofAccessor, BoundScript.ofMember_congr h]

lemma ReceiverGuard.ofTarget_congr (h : reg'.get? target = reg.get? target) :
    ofTarget reg' target = ofTarget reg target := by
  rw [ofTarget, ofTarget, Registry.known_congr h]

lemma ReceiverGuard.ofMember_congr (h : reg'.get? target = reg.get? target) (m : Member) :
    ofMember reg' target m = ofMember reg target m := by
  rw [ofMember, ofMember, ofTarget_congr h]

lemma ValueGuard.ofType_congr {type : TypeId} (h : reg'.get? type = reg.get? type) :
    ofType reg' type = ofType reg type := by
  rw [ofType, ofType, Registry.nameOf, Registry.nameOf, Registry.isValueType,
    Registry.isValueType, h]

lemma ArgumentsGuard.ofMember_congr (h : ∀ p ∈ m.params, reg'.get? p.type = reg.get? p.type) :
    ofMember reg' m = ofMember reg m := by
  rw [ofMember, ofMember]
  congr 1
  refine List.map_congr_left fun p hp => ?_
  rw [ValueGuard.ofParam, ValueGuard.ofParam, ValueGuard.ofType_congr (h p hp)]

lemma MethodBody.ofAccessor_congr (h : reg'.get? m.declaring = reg.get? m.declaring)
    (hp : ∀ p ∈ m.params, reg'.get? p.type = reg.get? p.type) (a : Accessor) :
    ofAccessor reg' m a = ofAccessor reg m a := by
  cases a with
  | slot index =>
    rw [ofAccessor, ofAccessor, Place.ofSlot_congr h]
    cases hlast : m.params.getLast? with
    | none => rfl
    | some p =>
      have hvalue : reg'.isValueType p.type = reg.isValueType p.type := by
        rw [Registry.isValueType, Registry.isValueType, hp p (List.mem_of_getLast? hlast)]
      simp only [hvalue]
  | native body => rw [ofAccessor, ofAccessor, BoundScript.ofMember_congr h]

/-! ### What is known of the value -/

namespace InvokerSort

/-- What the invoker demands of the value that it writes. -/
def valueGuard? : (sort : InvokerSort) → sort.Item → Option ValueGuard
  | setter, s => some s.value
  | indexWriter, .indexer _ _ value _ => some value
  | _, _ => none

/-- What the invoker demands of the value that it writes, if it writes one, is of the type. -/
def Writes (type : TypeId) (sort : InvokerSort) (x : sort.Item) : Prop :=
  ∀ g, sort.valueGuard? x = some g → g.type = type ∧ g.byRef = false

/-- The invoker with what is known now of the type of the value. -/
def refresh (reg : Registry) (type : TypeId) : (sort : InvokerSort) → sort.Item → sort.Item
  | getter, g => g
  | setter, s => { s with value := .ofType reg type }
  | method, m => m
  | constructor, c => c
  | indexReader, x => x
  | indexWriter, .element rank => .element rank
  | indexWriter, .indexer receiver indices _ script =>
    .indexer receiver indices (.ofType reg type) script

variable {sort : InvokerSort} {type : TypeId}

lemma refresh_refresh (x : sort.Item) :
    sort.refresh reg' type (sort.refresh reg type x) = sort.refresh reg' type x := by
  cases sort with
  | indexWriter => cases x <;> rfl
  | _ => rfl

lemma refresh_congr (h : reg'.get? type = reg.get? type) (x : sort.Item) :
    sort.refresh reg' type x = sort.refresh reg type x := by
  have hguard := ValueGuard.ofType_congr h
  cases sort with
  | setter => simp only [refresh, hguard]
  | indexWriter => cases x <;> simp only [refresh, hguard]
  | _ => rfl

lemma writes_refresh (reg : Registry) (type : TypeId) (x : sort.Item) :
    sort.Writes type (sort.refresh reg type x) := by
  intro g hg
  cases sort with
  | setter =>
    cases hg
    exact ⟨rfl, rfl⟩
  | indexWriter =>
    cases x <;> cases hg
    exact ⟨rfl, rfl⟩
  | _ => cases hg

/-! ### Making an invoker anew -/

/-- The second registry knows the same of all types that show in the key of a member. -/
structure SameForKey (reg reg' : Registry) (target : TypeId) (m : Member) : Prop where
  target : reg'.get? target = reg.get? target
  declaring : reg'.get? m.declaring = reg.get? m.declaring
  params : ∀ p ∈ m.params, reg'.get? p.type = reg.get? p.type
  ancestors : ∀ d, reg.get? m.declaring = some d →
    ∀ a ∈ d.ancestors, reg'.get? a = reg.get? a

lemma SameForKey.refl (reg : Registry) (target : TypeId) (m : Member) :
    SameForKey reg reg target m :=
  ⟨rfl, rfl, fun _ _ => rfl, fun _ _ _ _ => rfl⟩

/-- If all types that show in the key lie below an identifier, it is enough to know the same of the
identifiers below this one. -/
lemma SameForKey.of_below (h : reg.SameBelow next reg') (hv : reg.Valid next)
    (htarget : target.code < next.code) (hm : m.Below next) : SameForKey reg reg' target m where
  target := h target htarget
  declaring := h m.declaring (hm _ List.mem_cons_self)
  params := fun p hp => h p.type <|
    hm _ (List.mem_cons_of_mem _ (List.mem_cons_of_mem _ (List.mem_map_of_mem hp)))
  ancestors := fun _ hd a ha => h a (hv.ancestors hd a ha)

variable (h : SameForKey reg reg' target m)
include h

lemma compile_getter_congr : Getter.ofMember reg' target m = Getter.ofMember reg target m := by
  have haccess : Getter.accessOf reg' m = Getter.accessOf reg m := by
    simp only [Getter.accessOf, Access.ofAccessor_congr h.declaring]
  rw [Getter.ofMember, Getter.ofMember, haccess, ReceiverGuard.ofMember_congr h.target]

lemma compile_setter_congr : Setter.ofMember reg' target m =
    setter.refresh reg' m.valueType <$> Setter.ofMember reg target m := by
  have haccess : Setter.accessOf reg' m = Setter.accessOf reg m := by
    simp only [Setter.accessOf, Access.ofAccessor_congr h.declaring]
  rw [Setter.ofMember, Setter.ofMember, haccess, ReceiverGuard.ofMember_congr h.target]
  cases Setter.accessOf reg m with
  | error e => rfl
  | ok access => cases ReceiverGuard.ofMember reg target m <;> rfl

lemma compile_method_congr : Method.ofMember reg' target m = Method.ofMember reg target m := by
  simp only [Method.ofMember, MethodBody.ofAccessor_congr h.declaring h.params,
    ReceiverGuard.ofMember_congr h.target, ArgumentsGuard.ofMember_congr h.params]

lemma compile_constructor_congr : Construction.ofMember reg' m = Construction.ofMember reg m := by
  have hscripts : ∀ d, reg.get? m.declaring = some d →
      Construction.inheritedScripts reg' d = Construction.inheritedScripts reg d := by
    intro d hd
    rw [Construction.inheritedScripts, Construction.inheritedScripts, mapM_congr]
    intro a ha
    have ha := h.ancestors d hd a (List.mem_of_mem_drop (List.mem_reverse.mp ha))
    rw [Construction.inheritedScript, Construction.inheritedScript, Registry.known_congr ha]
  rw [Construction.ofMember, Construction.ofMember]
  cases m.body with
  | constructor body =>
    simp only [Registry.known_congr h.declaring, ArgumentsGuard.ofMember_congr h.params]
    cases hd : reg.known m.declaring with
    | error e => rfl
    | ok d =>
      have hd' := hscripts d (Registry.known_eq_ok_iff.mp hd)
      simp only [bind, Except.bind, hd']
  | _ => rfl

lemma compile_indexReader_congr :
    IndexReader.ofMember reg' target m = IndexReader.ofMember reg target m := by
  have hname : reg'.nameOf m.declaring = reg.nameOf m.declaring := by
    rw [Registry.nameOf, Registry.nameOf, h.declaring]
  simp only [IndexReader.ofMember, BoundScript.ofMember_congr h.declaring,
    ReceiverGuard.ofTarget_congr h.target, ArgumentsGuard.ofMember_congr h.params, hname]

lemma compile_indexWriter_congr : IndexWriter.ofMember reg' target m =
    indexWriter.refresh reg' m.valueType <$> IndexWriter.ofMember reg target m := by
  have hname : reg'.nameOf m.declaring = reg.nameOf m.declaring := by
    rw [Registry.nameOf, Registry.nameOf, h.declaring]
  rw [IndexWriter.ofMember, IndexWriter.ofMember]
  cases m.body with
  | indexer getter setter =>
    cases setter with
    | none => simp only [hname]; rfl
    | some body =>
      simp only [BoundScript.ofMember_congr h.declaring, ReceiverGuard.ofTarget_congr h.target,
        ArgumentsGuard.ofMember_congr h.params]
      cases BoundScript.ofMember reg m body with
      | error e => rfl
      | ok script => cases ReceiverGuard.ofTarget reg target <;> rfl
  | _ => rfl

/-- If no type in the key has changed, an invoker that is made now differs from one that was made
before at most in what it knows of the type of the value. -/
lemma compile_congr :
    sort.compile reg' target m = sort.refresh reg' m.valueType <$> sort.compile reg target m := by
  have hid : ∀ {α : Type} (x : Except Fault α), x = (fun a => a) <$> x := by
    intro α x
    cases x <;> rfl
  cases sort with
  | getter => exact (compile_getter_congr h).trans (hid _)
  | setter => exact compile_setter_congr h
  | method => exact (compile_method_congr h).trans (hid _)
  | constructor => exact (compile_constructor_congr h).trans (hid _)
  | indexReader => exact (compile_indexReader_congr h).trans (hid _)
  | indexWriter => exact compile_indexWriter_congr h

/-- If nothing that is known of the type of the value has changed either, the same is made. -/
lemma compile_eq_of_same (hvalue : reg'.get? m.valueType = reg.get? m.valueType) :
    sort.compile reg' target m = sort.compile reg target m := by
  have hself : sort.compile reg target m =
      sort.refresh reg m.valueType <$> sort.compile reg target m :=
    compile_congr (.refl reg target m)
  rw [compile_congr h, hself]
  cases sort.compile reg target m with
  | error e => rfl
  | ok x => exact congrArg Except.ok ((refresh_refresh x).trans (refresh_congr hvalue x))

omit h in
/-- What is made follows from what is known of the types that the member names. -/
lemma compile_eq_of_below (sort : InvokerSort) (h : reg.SameBelow next reg') (hv : reg.Valid next)
    (htarget : target.code < next.code) (hm : m.Below next) :
    sort.compile reg' target m = sort.compile reg target m :=
  compile_eq_of_same (.of_below h hv htarget hm)
    (h m.valueType (hm _ (List.mem_cons_of_mem _ List.mem_cons_self)))

end InvokerSort

end LateBinding
