import LateBinding.Proofs.Registry.Storage

/-!
# Plain types

A type that is made of fields without initial values and of automatic properties brings no body of
its own: its members go to slots, and its constructor does nothing. Each of its slots starts with
the default of the declared type.

Main statement: `Layout.plainOver_ofSpec`.
-/

namespace LateBinding

/-- A field without an initial value, or an automatic property. -/
inductive MemberSpec.Plain : MemberSpec → Prop where
  | field {f : FieldSpec} (h : f.initial = none) : Plain (.field f)
  | property {p : PropertySpec} {getOnly : Bool} (h : p.body = .auto getOnly) : Plain (.property p)

/-- A type that is made of such members only. -/
def TypeSpec.Plain (spec : TypeSpec) : Prop := ∀ member ∈ spec.members, member.Plain

/-- An implementation that goes to slots only, and a constructor that does nothing. -/
inductive Implementation.Plain : Implementation → Prop where
  | field (slot : Nat) (readonly : Bool) : Plain (.field slot readonly)
  | property (getter setter : Option Nat) :
      Plain (.property (getter.map .slot) (setter.map .slot))
  | method (slot : Nat) : Plain (.method (.slot slot))
  | constructor : Plain (.constructor [])

namespace Layout

/-- All members of the layout are plain, and all slots that are not those of the base start with the
default of the declared type. -/
structure PlainOver (default : TypeId → Value) (base : Descriptor) (l : Layout) : Prop where
  members : ∀ m ∈ l.members, m.body.Plain
  defaults : l.defaults =
    base.defaults ++ (fieldsOf false l.members).map (default ·.valueType)
  statics : l.statics = (fieldsOf true l.members).map (default ·.valueType)

variable {default : TypeId → Value} {base : Descriptor} {l : Layout}

lemma plainOver_start (default : TypeId → Value) (owner : TypeId) (base : Descriptor) :
    (start owner base).PlainOver default base :=
  ⟨nofun, (List.append_nil _).symm, rfl⟩

namespace PlainOver

/-- Members that are not fields bring no slots. -/
lemma addMembers (h : l.PlainOver default base) {ms : List Member}
    (hms : ∀ m ∈ ms, m.body.Plain ∧ m.kind ≠ .field) :
    PlainOver default base { l with members := l.members ++ ms } where
  members := fun m hm => (List.mem_append.mp hm).elim (h.members m) fun hm => (hms m hm).1
  defaults := by
    rw [fieldsOf_append, fieldsOf_eq_nil fun m hm => (hms m hm).2, List.append_nil]
    exact h.defaults
  statics := by
    rw [fieldsOf_append, fieldsOf_eq_nil fun m hm => (hms m hm).2, List.append_nil]
    exact h.statics

/-- A field brings a slot that starts with the default of its type. -/
lemma addField (h : l.PlainOver default base) (f : FieldSpec) (isSynthesized : Bool) :
    (l.addField f (default f.type) isSynthesized).PlainOver default base where
  members := by
    rw [members_addField]
    refine List.forall_mem_append.mpr ⟨h.members, fun m hm => ?_⟩
    exact List.mem_singleton.mp hm ▸ .field _ _
  defaults := by
    rw [addField_eq]
    cases hstatic : f.isStatic with
    | false =>
      simp [hstatic, h.defaults]
      rfl
    | true => simp [hstatic, h.defaults]
  statics := by
    rw [addField_eq]
    cases hstatic : f.isStatic with
    | false => simp [hstatic, h.statics]
    | true =>
      simp [hstatic, h.statics]
      rfl

/-- An automatic property brings its backing field, and beside it no slot. -/
lemma addAuto (h : l.PlainOver default base) (p : PropertySpec) (getOnly : Bool) :
    let slot := Accessor.slot (l.nextSlot p.isStatic)
    ((l.addField (backingField p getOnly) (default p.type) true).addAccessors p (some slot)
      (if getOnly then none else some slot)).PlainOver default base := by
  refine (h.addField (backingField p getOnly) true).addMembers fun m hm => ?_
  cases getOnly with
  | true =>
    rcases List.mem_cons.mp hm with rfl | hm
    · exact ⟨.property (some _) none, nofun⟩
    · exact List.mem_singleton.mp hm ▸ ⟨.method _, nofun⟩
  | false =>
    rcases List.mem_cons.mp hm with rfl | hm
    · exact ⟨.property (some _) (some _), nofun⟩
    · rcases List.mem_cons.mp hm with rfl | hm
      · exact ⟨.method _, nofun⟩
      · exact List.mem_singleton.mp hm ▸ ⟨.method _, nofun⟩

lemma add (h : l.PlainOver default base) {spec : MemberSpec} (hspec : spec.Plain) :
    (l.add default spec).PlainOver default base := by
  cases hspec with
  | @field f hf =>
    rw [Layout.add, hf]
    exact h.addField f false
  | @property p getOnly hp =>
    rw [Layout.add, addProperty, hp]
    exact h.addAuto p getOnly

end PlainOver

/-- A plain definition is laid out so that its members are plain and its slots start with
defaults. -/
lemma plainOver_ofSpec (default : TypeId → Value) (owner : TypeId) (base : Descriptor)
    {spec : TypeSpec} (h : spec.Plain) :
    (ofSpec default owner base spec).PlainOver default base := by
  refine ofSpec_induction (plainOver_start default owner base) (fun l hl s hs => hl.add (h s hs))
    fun l hl => hl.addMembers fun m hm => ?_
  exact List.mem_singleton.mp hm ▸ ⟨.constructor, nofun⟩

end Layout

end LateBinding
