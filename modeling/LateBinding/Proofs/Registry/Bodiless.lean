import LateBinding.Proofs.Registry.Plain
import LateBinding.Proofs.Registry.Slots

/-!
# Types without bodies

A type that is made of fields, of automatic properties and of constructors that do nothing brings no
native body. Its fields may start with any values. Properties and indexers without accessors bring
none either. Whatever is registered and unloaded, as long as all types are such, no known member
has a body.

Main statements: `Layout.bodiless_ofSpec` and `Registry.AllBodiless.register`.
-/

namespace LateBinding

/-- A member whose definition has no native body. -/
inductive MemberSpec.Bodiless : MemberSpec → Prop where
  | field (f : FieldSpec) : Bodiless (.field f)
  | auto {p : PropertySpec} {getOnly : Bool} (h : p.body = .auto getOnly) : Bodiless (.property p)
  | property {p : PropertySpec} (h : p.body = .native none none) : Bodiless (.property p)
  | indexer {x : IndexerSpec} (hgetter : x.getter = none) (hsetter : x.setter = none) :
      Bodiless (.indexer x)
  | constructor {c : ConstructorSpec} (h : c.body = []) : Bodiless (.constructor c)

/-- A type that is made of such members only. -/
def TypeSpec.Bodiless (spec : TypeSpec) : Prop := ∀ member ∈ spec.members, member.Bodiless

/-- An implementation that goes to slots only, does nothing or is not there. -/
inductive Implementation.Bodiless : Implementation → Prop where
  | plain {body : Implementation} (h : body.Plain) : Bodiless body
  | indexer : Bodiless (.indexer none none)

namespace Layout

variable {l : Layout} {member : MemberSpec}

/-- Everything that comes with a member without a body is without one. -/
lemma bodiless_add (hl : ∀ m ∈ l.members, m.body.Bodiless) (hmember : member.Bodiless)
    (default : TypeId → Value) : ∀ m ∈ (l.add default member).members, m.body.Bodiless := by
  have happend : ∀ {ms : List Member}, (∀ m ∈ ms, m.body.Bodiless) →
      ∀ m ∈ l.members ++ ms, m.body.Bodiless := fun hms => List.forall_mem_append.mpr ⟨hl, hms⟩
  cases hmember with
  | field f =>
    rw [add, members_addField]
    exact happend (List.forall_mem_singleton.mpr (.plain (.field _ _)))
  | @auto p getOnly hp =>
    obtain ⟨field, rest, hfield, hrest, hauto⟩ := exists_autoProperty l p getOnly (default p.type)
    rw [add, addProperty, hp]
    simp only [hrest, hfield, List.append_assoc, List.singleton_append]
    refine happend fun m hm => ?_
    obtain ⟨field, -, property, readonly, hfield, hproperty, hparts⟩ := hauto.exists_parts
    cases hparts m hm with
    | field => exact hfield.body ▸ .plain (.field _ _)
    | property =>
      rw [hproperty]
      cases readonly with
      | true => exact .plain (.property (some _) none)
      | false => exact .plain (.property (some _) (some _))
    | getter hgetter => exact hgetter.body ▸ .plain (.method _)
    | setter hsetter => exact hsetter.body ▸ .plain (.method _)
  | property hp =>
    rw [add, addProperty, hp]
    exact happend (List.forall_mem_singleton.mpr (.plain (.property none none)))
  | indexer hgetter hsetter =>
    rw [add, addIndexer, hgetter, hsetter]
    exact happend (List.forall_mem_singleton.mpr .indexer)
  | constructor hc =>
    exact happend (List.forall_mem_singleton.mpr (hc ▸ .plain .constructor))

/-- A definition without bodies is laid out without them. -/
lemma bodiless_ofSpec (default : TypeId → Value) (owner : TypeId) (base : Descriptor)
    {spec : TypeSpec} (h : spec.Bodiless) :
    ∀ m ∈ (ofSpec default owner base spec).members, m.body.Bodiless := by
  refine ofSpec_induction (P := fun l => ∀ m ∈ l.members, m.body.Bodiless)
    (List.forall_mem_nil _) (fun l hl s hs => bodiless_add hl (h s hs) default) fun l hl => ?_
  exact List.forall_mem_append.mpr ⟨hl, List.forall_mem_singleton.mpr (.plain .constructor)⟩

end Layout

namespace Registry

variable {reg reg' : Registry} {st st' : Store} {type : TypeId} {spec : TypeSpec}

/-- No member of a known type has a native body. -/
def AllBodiless (reg : Registry) : Prop :=
  ∀ ⦃t d m⦄, reg.get? t = some d → m ∈ d.members → m.body.Bodiless

lemma allBodiless_initial : Registry.initial.AllBodiless := by
  intro t d m hd hm
  obtain ⟨name, isValueType, -, rfl⟩ := get?_initial_eq_some hd
  cases hm

namespace AllBodiless

lemma register (h : reg.AllBodiless) (hspec : spec.Bodiless)
    (hr : reg.register st spec = .ok (type, reg', st')) : reg'.AllBodiless := by
  obtain ⟨rfl, -, base, d, hreg⟩ := registered_of_register hr
  obtain ⟨base', -, -, -, -, hlayout, -⟩ :=
    register_eq_ok hr ((hreg.get? st.nextType).trans (if_pos rfl))
  intro t e m he hm
  rcases hreg.new_or_old he with ⟨rfl, rfl⟩ | he
  · subst hlayout
    exact Layout.bodiless_ofSpec _ _ _ hspec m hm
  · exact h he hm

lemma unload (h : reg.AllBodiless) (hu : reg.unload type = some reg') : reg'.AllBodiless :=
  fun _ _ _ he => h ((unloaded_of_unload hu).get?_of_some he).2

end AllBodiless

end Registry

end LateBinding
