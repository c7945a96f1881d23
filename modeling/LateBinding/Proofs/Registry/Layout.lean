import Mathlib.Data.List.Basic
import LateBinding.Registry.Layout

/-!
# Members of a laid-out type

Every member of a laid-out type is declared by the type, and names no types but those that its
definition names.
-/

namespace LateBinding

/-- The types that a member names in its declaration. -/
def Member.types (m : Member) : List TypeId := m.valueType :: m.params.map (·.type)

/-- The types that one definition names. -/
def MemberSpec.types : MemberSpec → List TypeId
  | .field f => [f.type]
  | .property p => [p.type]
  | .method m => m.result :: m.params.map (·.type)
  | .constructor c => c.params.map (·.type)
  | .indexer x => x.type :: x.params.map (·.type)

/-- The types that the definition of a type names. -/
def TypeSpec.types (spec : TypeSpec) : List TypeId :=
  spec.base :: spec.members.flatMap MemberSpec.types

/-- The definition names only identifiers that have been handed out, where `next` will be the next
one. -/
def TypeSpec.Allocated (spec : TypeSpec) (next : TypeId) : Prop :=
  ∀ t ∈ spec.types, t.code < next.code

instance (spec : TypeSpec) (next : TypeId) : Decidable (spec.Allocated next) :=
  inferInstanceAs (Decidable (∀ t ∈ spec.types, t.code < next.code))

/-- A member is declared by the type and names only the listed types, the type itself and the one of
no result. A field or property takes no parameters. -/
structure Member.From (owner : TypeId) (named : List TypeId) (m : Member) : Prop where
  declaring : m.declaring = owner
  types : ∀ t ∈ m.types, t ∈ named ∨ t = owner ∨ t = TypeId.void
  params : KindSet.fieldsAndProperties.has m.kind = true → m.params = []

namespace Layout

variable {l : Layout} {named : List TypeId}

/-! ### One definition -/

/-- The member that denotes a new slot. -/
def newField (l : Layout) (f : FieldSpec) (isSynthesized : Bool) : Member where
  name := f.name
  declaring := l.owner
  isStatic := f.isStatic
  visibility := f.visibility
  params := []
  valueType := f.type
  isSynthesized
  body := .field (l.nextSlot f.isStatic) f.readonly

lemma addField_eq (l : Layout) (f : FieldSpec) (initial : Value) (isSynthesized : Bool) :
    l.addField f initial isSynthesized =
      if f.isStatic then
        { l with
          staticNames := l.staticNames ++ [f.name], statics := l.statics ++ [initial]
          members := l.members ++ [l.newField f isSynthesized] }
      else
        { l with
          slotNames := l.slotNames ++ [f.name], defaults := l.defaults ++ [initial]
          members := l.members ++ [l.newField f isSynthesized] } := by
  rw [addField, addSlot]
  split <;> rfl

lemma owner_addField (l : Layout) (f : FieldSpec) (initial : Value) (isSynthesized : Bool) :
    (l.addField f initial isSynthesized).owner = l.owner := by
  rw [addField_eq]
  split <;> rfl

@[simp] lemma members_addField (l : Layout) (f : FieldSpec) (initial : Value)
    (isSynthesized : Bool) :
    (l.addField f initial isSynthesized).members = l.members ++ [l.newField f isSynthesized] := by
  rw [addField_eq]
  split <;> rfl

@[simp] lemma owner_add (default : TypeId → Value) (l : Layout) (spec : MemberSpec) :
    (l.add default spec).owner = l.owner := by
  cases spec with
  | field f => exact owner_addField l f _ false
  | property p =>
    cases hp : p.body with
    | auto getOnly =>
      simp only [add, addProperty, hp]
      exact owner_addField l _ _ true
    | native getter setter =>
      simp only [add, addProperty, hp]
      rfl
  | method m => rfl
  | constructor c => rfl
  | indexer x => rfl

lemma from_addField (hl : ∀ m ∈ l.members, m.From l.owner named) {f : FieldSpec}
    (hf : f.type ∈ named) (initial : Value) (isSynthesized : Bool) :
    ∀ m ∈ (l.addField f initial isSynthesized).members, m.From l.owner named := by
  intro m hm
  rw [members_addField, List.mem_append, List.mem_singleton] at hm
  rcases hm with hm | rfl
  · exact hl m hm
  · exact ⟨rfl, fun t ht => Or.inl (by simpa [Member.types] using List.mem_singleton.mp ht ▸ hf),
      fun _ => rfl⟩

lemma from_getterMethod {owner type : TypeId} {indices : List Param} (htype : type ∈ named)
    (hindices : ∀ t ∈ indices.map (·.type), t ∈ named) (name : String) (isStatic : Bool)
    (visibility : Visibility) (accessor : Accessor) :
    (getterMethod owner name isStatic visibility indices type accessor).From owner named := by
  refine ⟨rfl, fun t ht => Or.inl ?_, nofun⟩
  rcases List.mem_cons.mp ht with rfl | ht
  · exact htype
  · exact hindices t ht

lemma from_setterMethod {owner type : TypeId} {indices : List Param} (htype : type ∈ named)
    (hindices : ∀ t ∈ indices.map (·.type), t ∈ named) (name : String) (isStatic : Bool)
    (visibility : Visibility) (accessor : Accessor) :
    (setterMethod owner name isStatic visibility indices type accessor).From owner named := by
  refine ⟨rfl, fun t ht => ?_, nofun⟩
  simp only [Member.types, setterMethod, List.map_append, List.map_cons, List.map_nil,
    List.mem_cons, List.mem_append, List.not_mem_nil, or_false] at ht
  rcases ht with rfl | ht | rfl
  · exact Or.inr (Or.inr rfl)
  · exact Or.inl (hindices t ht)
  · exact Or.inl htype

lemma from_addAccessors (hl : ∀ m ∈ l.members, m.From l.owner named) {p : PropertySpec}
    (hp : p.type ∈ named) (getter setter : Option Accessor) :
    ∀ m ∈ (l.addAccessors p getter setter).members, m.From l.owner named := by
  intro m hm
  simp only [addAccessors, List.mem_append, List.mem_cons, Option.mem_toList,
    Option.map_eq_some_iff] at hm
  rcases hm with hm | rfl | ⟨accessor, -, rfl⟩ | ⟨accessor, -, rfl⟩
  · exact hl m hm
  · exact ⟨rfl, fun t ht => Or.inl (by simpa [Member.types] using List.mem_singleton.mp ht ▸ hp),
      fun _ => rfl⟩
  · exact from_getterMethod hp (by simp) _ _ _ _
  · exact from_setterMethod hp (by simp) _ _ _ _

lemma from_addProperty (hl : ∀ m ∈ l.members, m.From l.owner named) {p : PropertySpec}
    (hp : p.type ∈ named) (initial : Value) :
    ∀ m ∈ (l.addProperty p initial).members, m.From l.owner named := by
  rw [addProperty]
  cases p.body with
  | auto getOnly =>
    have howner := owner_addField l (backingField p getOnly) initial true
    have hfield := from_addField hl (f := backingField p getOnly) hp initial true
    rw [← howner] at hfield
    intro m hm
    rw [← howner]
    exact from_addAccessors hfield hp _ _ m hm
  | native getter setter => exact from_addAccessors hl hp _ _

lemma from_addIndexer (hl : ∀ m ∈ l.members, m.From l.owner named) {x : IndexerSpec}
    (hx : ∀ t ∈ (MemberSpec.indexer x).types, t ∈ named) :
    ∀ m ∈ (l.addIndexer x).members, m.From l.owner named := by
  have htype : x.type ∈ named := hx _ List.mem_cons_self
  have hindices : ∀ t ∈ x.params.map (·.type), t ∈ named := fun t ht =>
    hx t (List.mem_cons_of_mem _ ht)
  intro m hm
  simp only [addIndexer, List.mem_append, List.mem_cons, Option.mem_toList,
    Option.map_eq_some_iff] at hm
  rcases hm with hm | rfl | ⟨body, -, rfl⟩ | ⟨body, -, rfl⟩
  · exact hl m hm
  · exact ⟨rfl, fun t ht => Or.inl (hx t ht), nofun⟩
  · exact from_getterMethod htype hindices _ _ _ _
  · exact from_setterMethod htype hindices _ _ _ _

lemma from_addConstructor (hl : ∀ m ∈ l.members, m.From l.owner named) {c : ConstructorSpec}
    (hc : ∀ t ∈ c.params.map (·.type), t ∈ named) :
    ∀ m ∈ (l.addConstructor c).members, m.From l.owner named := by
  intro m hm
  rcases List.mem_append.mp hm with hm | hm
  · exact hl m hm
  · obtain rfl := List.mem_singleton.mp hm
    refine ⟨rfl, fun t ht => ?_, nofun⟩
    rcases List.mem_cons.mp ht with rfl | ht
    · exact Or.inr (Or.inl rfl)
    · exact Or.inl (hc t ht)

lemma from_add (hl : ∀ m ∈ l.members, m.From l.owner named) {spec : MemberSpec}
    (hspec : ∀ t ∈ spec.types, t ∈ named) (default : TypeId → Value) :
    ∀ m ∈ (l.add default spec).members, m.From l.owner named := by
  cases spec with
  | field f => exact from_addField hl (hspec _ List.mem_cons_self) _ _
  | property p => exact from_addProperty hl (hspec _ List.mem_cons_self) _
  | method m =>
    intro n hn
    rcases List.mem_append.mp hn with hn | hn
    · exact hl n hn
    · obtain rfl := List.mem_singleton.mp hn
      exact ⟨rfl, fun t ht => Or.inl (hspec t ht), nofun⟩
  | constructor c => exact from_addConstructor hl hspec
  | indexer x => exact from_addIndexer hl hspec

/-! ### A whole definition -/

/-- What holds of the layout that a type starts in, and stays true with each of its definitions and
with the default constructor, holds of the whole layout. -/
lemma ofSpec_induction {P : Layout → Prop} {default : TypeId → Value} {owner : TypeId}
    {base : Descriptor} {spec : TypeSpec} (hstart : P (start owner base))
    (hadd : ∀ l, P l → ∀ s ∈ spec.members, P (l.add default s))
    (hconstructor : ∀ l, P l → P (l.addConstructor { body := [] })) :
    P (ofSpec default owner base spec) := by
  have hfold : P (spec.members.foldl (add default) (start owner base)) :=
    List.foldlRecOn _ _ hstart hadd
  rw [ofSpec, addDefaultConstructor]
  split
  · exact hconstructor _ hfold
  · exact hfold

@[simp] lemma owner_ofSpec (default : TypeId → Value) (owner : TypeId) (base : Descriptor)
    (spec : TypeSpec) : (ofSpec default owner base spec).owner = owner :=
  ofSpec_induction (P := fun l => l.owner = owner) rfl
    (fun l hl s _ => (owner_add default l s).trans hl) fun _ hl => hl

/-- All members of a laid-out type are as its definition says. -/
lemma from_ofSpec (default : TypeId → Value) (owner : TypeId) (base : Descriptor)
    (spec : TypeSpec) :
    ∀ m ∈ (ofSpec default owner base spec).members, m.From owner spec.types := by
  have hall : (ofSpec default owner base spec).owner = owner ∧
      ∀ m ∈ (ofSpec default owner base spec).members, m.From owner spec.types := by
    refine ofSpec_induction
      (P := fun l => l.owner = owner ∧ ∀ m ∈ l.members, m.From owner spec.types) ?_ ?_ ?_
    · exact ⟨rfl, List.forall_mem_nil _⟩
    · rintro l ⟨rfl, hl⟩ s hs
      have htypes : ∀ t ∈ s.types, t ∈ spec.types := fun t ht =>
        List.mem_cons_of_mem _ (List.mem_flatMap.mpr ⟨s, hs, ht⟩)
      exact ⟨owner_add default l s, from_add hl htypes default⟩
    · rintro l ⟨rfl, hl⟩
      exact ⟨rfl, from_addConstructor hl (by simp)⟩
  exact hall.2

end Layout

end LateBinding
