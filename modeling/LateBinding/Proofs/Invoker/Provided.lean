import LateBinding.Proofs.Invoker.Access
import LateBinding.Proofs.Invoker.Sorts
import LateBinding.Proofs.Lookup.Copying
import LateBinding.Proofs.Registry.Consistent

/-!
# What members provide

A member says of itself whether it can be read and whether it can be written. Along a chain of known
types this is just what invokers are made for: all that making one can ask for is there, so only the
kind of the member, and a part that it lacks, can be in the way.

Main statements: `Registry.Supports.compile`, `Registry.exists_copier`.
-/

namespace LateBinding

/-! ### Results and refusals -/

section Answers

variable {p : Prop} {α β : Type} {x : Except Fault α}

/-- There is a result where the condition holds, and otherwise a refusal. -/
def AnswersIf (p : Prop) (x : Except Fault α) : Prop :=
  (p → ∃ a, x = .ok a) ∧ (¬ p → ∃ why, x = .error (.refused why))

lemma AnswersIf.ok (hp : p) (h : ∃ a, x = .ok a) : AnswersIf p x :=
  ⟨fun _ => h, fun hnot => absurd hp hnot⟩

lemma AnswersIf.refused (hp : ¬ p) (why : Refusal) :
    AnswersIf p (.error (.refused why) : Except Fault α) :=
  ⟨fun h => absurd h hp, fun _ => ⟨why, rfl⟩⟩

/-- What follows never fails. -/
lemma AnswersIf.bind {f : α → Except Fault β} (h : AnswersIf p x) (hf : ∀ a, ∃ b, f a = .ok b) :
    AnswersIf p (x >>= f) := by
  constructor
  · intro hp
    obtain ⟨a, rfl⟩ := h.1 hp
    exact hf a
  · intro hp
    obtain ⟨why, rfl⟩ := h.2 hp
    exact ⟨why, rfl⟩

end Answers

/-! ### What a member says of itself -/

/-- The member is of the kind that a sort of invokers is for, and can be read or written as far as
such an invoker reads or writes. -/
def Member.Provides (m : Member) : InvokerSort → Prop
  | .getter => (m.kind = .field ∨ m.kind = .property) ∧ m.isReadable = true
  | .setter => (m.kind = .field ∨ m.kind = .property) ∧ m.isWritable = true
  | .method => m.kind = .method
  | .constructor => m.kind = .constructor
  | .indexReader => m.kind = .indexer ∧ m.isReadable = true
  | .indexWriter => m.kind = .indexer ∧ m.isWritable = true

lemma KindSet.has_fieldsAndProperties {k : Kind} :
    fieldsAndProperties.has k = true ↔ k = .field ∨ k = .property := by
  cases k <;> decide

/-! ### What invokers are made from -/

namespace Registry

variable {reg : Registry} {next target source : TypeId} {m : Member} {d e : Descriptor}

/-- The target type is known, and so are the type that declares the member and the ancestors of this
type. -/
structure Supports (reg : Registry) (target : TypeId) (m : Member) (d e : Descriptor) : Prop where
  target : reg.get? target = some d
  declaring : reg.get? m.declaring = some e
  id : e.id = m.declaring
  ancestors : ∀ a ∈ e.ancestors, ∃ b, reg.get? a = some b

/-- The ancestors of the declaring type are some of those of the target type. -/
lemma Along.exists_supports (h : reg.Along target m) (hv : reg.Valid next)
    (hp : reg.Precedes reg) : ∃ d e, reg.Supports target m d e := by
  obtain ⟨levels, ⟨d, hd, hmap⟩, e, he, hm⟩ := h
  have hknown : ∀ a ∈ d.ancestors, ∃ b, reg.get? a = some b := by
    intro a ha
    have hmem : reg.get? a ∈ levels.map some := hmap ▸ List.mem_map_of_mem ha
    obtain ⟨b, -, hb⟩ := List.mem_map.mp hmem
    exact ⟨b, hb.symm⟩
  have hmem : some e ∈ d.ancestors.map reg.get? := hmap.symm ▸ List.mem_map_of_mem he
  obtain ⟨t, htmem, ht⟩ := List.mem_map.mp hmem
  have hdeclaring := hv.declaring ht hm
  refine ⟨d, e, hd, hdeclaring ▸ ht, (hv.id ht).trans hdeclaring.symm, fun a ha => ?_⟩
  exact hknown a ((hp.suffix hd ht htmem).subset ha)

namespace Supports

variable (h : reg.Supports target m d e)
include h

lemma exists_access (a : Accessor) : ∃ x, Access.ofAccessor reg m a = .ok x := by
  cases a with
  | slot index => exact ⟨_, Access.ofAccessor_eq h.declaring h.id index⟩
  | native body =>
    rw [Access.ofAccessor, BoundScript.ofMember_eq h.declaring]
    exact ⟨_, rfl⟩

lemma getter : AnswersIf (m.Provides .getter) (Getter.ofMember reg target m) := by
  have haccess : AnswersIf (m.Provides .getter) (Getter.accessOf reg m) := by
    rw [Getter.accessOf, Member.Provides, Member.kind, Member.isReadable]
    cases m.body with
    | field slot readonly => exact .ok ⟨Or.inl rfl, rfl⟩ (h.exists_access _)
    | property getter setter =>
      cases getter with
      | some getter => exact .ok ⟨Or.inr rfl, rfl⟩ (h.exists_access _)
      | none => exact .refused (fun hp => by cases hp.2) _
    | _ => exact .refused (fun hp => by rcases hp.1 with hk | hk <;> cases hk) _
  refine haccess.bind fun access => ?_
  rw [ReceiverGuard.ofMember_eq h.target]
  exact ⟨_, rfl⟩

lemma setter : AnswersIf (m.Provides .setter) (Setter.ofMember reg target m) := by
  have haccess : AnswersIf (m.Provides .setter) (Setter.accessOf reg m) := by
    rw [Setter.accessOf, Member.Provides, Member.kind, Member.isWritable]
    cases m.body with
    | field slot readonly =>
      cases readonly with
      | false => exact .ok ⟨Or.inl rfl, rfl⟩ (h.exists_access (.slot slot))
      | true => exact .refused (fun hp => by cases hp.2) _
    | property getter setter =>
      cases setter with
      | some setter => exact .ok ⟨Or.inr rfl, rfl⟩ (h.exists_access _)
      | none => exact .refused (fun hp => by cases hp.2) _
    | _ => exact .refused (fun hp => by rcases hp.1 with hk | hk <;> cases hk) _
  refine haccess.bind fun access => ?_
  rw [ReceiverGuard.ofMember_eq h.target]
  exact ⟨_, rfl⟩

lemma method : AnswersIf (m.Provides .method) (Method.ofMember reg target m) := by
  by_cases hkind : m.kind = .method
  · obtain ⟨x, hx, -⟩ := Method.exists_ofMember h.target h.declaring h.id hkind
    exact .ok hkind ⟨x, hx⟩
  · rw [Method.ofMember]
    cases hbody : m.body with
    | method accessor => exact absurd (congrArg Implementation.kind hbody) hkind
    | _ => exact .refused hkind _

lemma constructor : AnswersIf (m.Provides .constructor) (Construction.ofMember reg m) := by
  have hscripts : ∃ scripts, Construction.inheritedScripts reg e = .ok scripts := by
    obtain ⟨scripts, hscripts⟩ : ∃ scripts,
        (e.ancestors.drop 1).reverse.mapM (Construction.inheritedScript reg) = .ok scripts := by
      refine exists_mapM_eq_ok fun a ha => ?_
      obtain ⟨b, hb⟩ := h.ancestors a (List.mem_of_mem_drop (List.mem_reverse.mp ha))
      rw [Construction.inheritedScript, known_of_get?_eq_some hb]
      exact ⟨_, rfl⟩
    rw [Construction.inheritedScripts, hscripts]
    exact ⟨_, rfl⟩
  rw [Construction.ofMember, Member.Provides, Member.kind]
  cases m.body with
  | constructor body =>
    obtain ⟨scripts, hscripts⟩ := hscripts
    simp only [known_of_get?_eq_some h.declaring]
    change AnswersIf _ (Construction.inheritedScripts reg e >>= _)
    rw [hscripts]
    exact .ok rfl ⟨_, rfl⟩
  | _ => exact .refused (fun hp => by cases hp) _

lemma receiverGuard : ReceiverGuard.ofTarget reg target = .ok (.ofType d) := by
  rw [ReceiverGuard.ofTarget, known_of_get?_eq_some h.target]
  rfl

lemma indexReader : AnswersIf (m.Provides .indexReader) (IndexReader.ofMember reg target m) := by
  rw [IndexReader.ofMember, Member.Provides, Member.kind, Member.isReadable]
  cases m.body with
  | indexer getter setter =>
    cases getter with
    | some getter =>
      simp only [BoundScript.ofMember_eq h.declaring, h.receiverGuard]
      exact .ok ⟨rfl, rfl⟩ ⟨_, rfl⟩
    | none => exact .refused (fun hp => by cases hp.2) _
  | _ => exact .refused (fun hp => by cases hp.1) _

lemma indexWriter : AnswersIf (m.Provides .indexWriter) (IndexWriter.ofMember reg target m) := by
  rw [IndexWriter.ofMember, Member.Provides, Member.kind, Member.isWritable]
  cases m.body with
  | indexer getter setter =>
    cases setter with
    | some setter =>
      simp only [BoundScript.ofMember_eq h.declaring, h.receiverGuard]
      exact .ok ⟨rfl, rfl⟩ ⟨_, rfl⟩
    | none => exact .refused (fun hp => by cases hp.2) _
  | _ => exact .refused (fun hp => by cases hp.1) _

/-- An invoker can be made exactly of a member that provides for it. -/
lemma compile (sort : InvokerSort) : AnswersIf (m.Provides sort) (sort.compile reg target m) := by
  cases sort with
  | getter => exact h.getter
  | setter => exact h.setter
  | method => exact h.method
  | constructor => exact h.constructor
  | indexReader => exact h.indexReader
  | indexWriter => exact h.indexWriter

end Supports

namespace Copies

variable {pair : Member × Member} (h : reg.Copies source target pair)
include h

lemma provides : pair.1.Provides .getter ∧ pair.2.Provides .setter :=
  ⟨⟨KindSet.has_fieldsAndProperties.mp h.source_kind, h.readable⟩,
    KindSet.has_fieldsAndProperties.mp h.target_kind, h.writable⟩

/-- What can be read along the one chain and written along the other can be copied. -/
lemma exists_step (hv : reg.Valid next) (hp : reg.Precedes reg) :
    ∃ step, Copier.step reg source target pair = .ok step := by
  obtain ⟨d, e, hsource⟩ := h.source.exists_supports hv hp
  obtain ⟨d', e', htarget⟩ := h.target.exists_supports hv hp
  obtain ⟨getter, hgetter⟩ := hsource.getter.1 h.provides.1
  obtain ⟨setter, hsetter⟩ := htarget.setter.1 h.provides.2
  rw [Copier.step, hgetter, hsetter]
  exact ⟨_, rfl⟩

end Copies

/-- A copier can be made of all pairs that a copy goes through. -/
lemma exists_copier {o : CopyOptions} {pairs : List (Member × Member)} (hv : reg.Valid next)
    (hp : reg.Precedes reg) (h : reg.copyPairs source target o = .ok pairs) :
    ∃ c, Copier.ofPairs reg source target pairs = .ok c := by
  obtain ⟨steps, hsteps⟩ := exists_mapM_eq_ok fun pair hpair =>
    (copies_of_copyPairs h pair hpair).exists_step hv hp
  rw [Copier.ofPairs, hsteps]
  exact ⟨_, rfl⟩

end Registry

end LateBinding
