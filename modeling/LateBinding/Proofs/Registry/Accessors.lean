import LateBinding.Proofs.Registry.Layout

/-!
# Properties and their methods

Every property and indexer of a laid-out type comes with a method for each of its accessors. The
method is declared by the same type, in the same scope and with the same visibility; it takes the
indices, and after them the value if there is one to write.

Main statement: `Layout.accompanied_ofSpec`.
-/

namespace LateBinding

namespace Member

/-- The method that reads a property or indexer through an accessor. -/
def reader (p : Member) (a : Accessor) : Member :=
  Layout.getterMethod p.declaring p.name p.isStatic p.visibility p.params p.valueType a

/-- The method that writes a property or indexer through an accessor. -/
def writer (p : Member) (a : Accessor) : Member :=
  Layout.setterMethod p.declaring p.name p.isStatic p.visibility p.params p.valueType a

/-- The methods for the accessors of a member. -/
def accessorMethods (p : Member) : List Member :=
  match p.body with
  | .property getter setter => (getter.map p.reader).toList ++ (setter.map p.writer).toList
  | .indexer getter setter =>
    (getter.map (p.reader ∘ .native)).toList ++ (setter.map (p.writer ∘ .native)).toList
  | _ => []

/-- The methods for the member's accessors are listed, and an indexer is no static member. -/
structure Accompanied (members : List Member) (p : Member) : Prop where
  methods : ∀ m ∈ p.accessorMethods, m ∈ members
  isStatic : p.kind = .indexer → p.isStatic = false

variable {members : List Member} {p : Member}

lemma Accompanied.append (h : p.Accompanied members) (more : List Member) :
    p.Accompanied (members ++ more) :=
  ⟨fun m hm => List.mem_append_left _ (h.methods m hm), h.isStatic⟩

/-- A field, method or constructor has no accessors. -/
lemma accompanied_of_kind (hproperty : p.kind ≠ .property) (hindexer : p.kind ≠ .indexer)
    (members : List Member) : p.Accompanied members := by
  refine ⟨fun m hm => ?_, fun h => absurd h hindexer⟩
  rw [kind] at hproperty hindexer
  rw [accessorMethods] at hm
  cases hbody : p.body with
  | property getter setter =>
    rw [hbody] at hproperty
    exact absurd rfl hproperty
  | indexer getter setter =>
    rw [hbody] at hindexer
    exact absurd rfl hindexer
  | _ =>
    rw [hbody] at hm
    cases hm

lemma kind_of_mem_accessorMethods {m : Member} (h : m ∈ p.accessorMethods) : m.kind = .method := by
  rw [accessorMethods] at h
  cases hbody : p.body with
  | property getter setter =>
    rw [hbody] at h
    simp only [List.mem_append, Option.mem_toList, Option.map_eq_some_iff] at h
    rcases h with ⟨_, -, rfl⟩ | ⟨_, -, rfl⟩ <;> rfl
  | indexer getter setter =>
    rw [hbody] at h
    simp only [List.mem_append, Option.mem_toList, Option.map_eq_some_iff] at h
    rcases h with ⟨_, -, rfl⟩ | ⟨_, -, rfl⟩ <;> rfl
  | _ =>
    rw [hbody] at h
    cases h

end Member

namespace Layout

variable {l : Layout}

/-- What is added is a member that has no accessors. -/
lemma accompanied_concat (hl : ∀ p ∈ l.members, p.Accompanied l.members) {p : Member}
    (hproperty : p.kind ≠ .property) (hindexer : p.kind ≠ .indexer) :
    ∀ q ∈ l.members ++ [p], q.Accompanied (l.members ++ [p]) := by
  intro q hq
  rcases List.mem_append.mp hq with hq | hq
  · exact (hl q hq).append _
  · obtain rfl := List.mem_singleton.mp hq
    exact Member.accompanied_of_kind hproperty hindexer _

/-- What is added is a member together with the methods for its accessors. -/
lemma accompanied_group (hl : ∀ p ∈ l.members, p.Accompanied l.members) {p : Member}
    (hp : p.kind = .indexer → p.isStatic = false) :
    ∀ q ∈ l.members ++ p :: p.accessorMethods,
      q.Accompanied (l.members ++ p :: p.accessorMethods) := by
  intro q hq
  rcases List.mem_append.mp hq with hq | hq
  · exact (hl q hq).append _
  rcases List.mem_cons.mp hq with rfl | hq
  · exact ⟨fun m hm => List.mem_append_right _ (List.mem_cons_of_mem _ hm), hp⟩
  · have hkind := Member.kind_of_mem_accessorMethods hq
    exact Member.accompanied_of_kind (by simp [hkind]) (by simp [hkind]) _

lemma accompanied_addField (hl : ∀ p ∈ l.members, p.Accompanied l.members) (f : FieldSpec)
    (initial : Value) (isSynthesized : Bool) :
    ∀ p ∈ (l.addField f initial isSynthesized).members,
      p.Accompanied (l.addField f initial isSynthesized).members := by
  rw [members_addField]
  exact accompanied_concat hl nofun nofun

lemma accompanied_addProperty (hl : ∀ p ∈ l.members, p.Accompanied l.members) (p : PropertySpec)
    (initial : Value) :
    ∀ q ∈ (l.addProperty p initial).members, q.Accompanied (l.addProperty p initial).members := by
  rw [addProperty]
  cases p.body with
  | auto getOnly =>
    exact accompanied_group (accompanied_addField hl _ _ true) fun hindexer => by cases hindexer
  | native getter setter => exact accompanied_group hl fun hindexer => by cases hindexer

/-- Everything that a definition brings is accompanied by what it has to bring. -/
lemma accompanied_add (hl : ∀ p ∈ l.members, p.Accompanied l.members)
    (default : TypeId → Value) (spec : MemberSpec) :
    ∀ p ∈ (l.add default spec).members, p.Accompanied (l.add default spec).members := by
  cases spec with
  | field f => exact accompanied_addField hl f _ false
  | property p => exact accompanied_addProperty hl p _
  | method m => exact accompanied_concat hl nofun nofun
  | constructor c => exact accompanied_concat hl nofun nofun
  | indexer x => exact accompanied_group (l := l) hl fun _ => rfl

/-- In a laid-out type every property and indexer comes with the methods for its accessors. -/
lemma accompanied_ofSpec (default : TypeId → Value) (owner : TypeId) (base : Descriptor)
    (spec : TypeSpec) : ∀ p ∈ (ofSpec default owner base spec).members,
      p.Accompanied (ofSpec default owner base spec).members :=
  ofSpec_induction (P := fun l => ∀ p ∈ l.members, p.Accompanied l.members) (List.forall_mem_nil _)
    (fun _ hl spec _ => accompanied_add hl default spec)
    fun _ hl => accompanied_concat hl nofun nofun

end Layout

end LateBinding
