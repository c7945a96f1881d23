import LateBinding.Proofs.Registry.Plain
import LateBinding.Proofs.Store.Filled

/-!
# Defaults of plain types

The default of a type suits the type: for a value type this is a copy whose fields are defaults
again, of types that have been registered before. While plain types are registered, the slots of all
types therefore start with what suits them, and whatever was well typed before stays so.

Main statements: `RegisteredPlain.allPlain` and `RegisteredPlain.filled`.
-/

namespace LateBinding.Registry

variable {reg reg' : Registry} {st st' : Store} {next type t : TypeId} {d base : Descriptor}
  {spec : TypeSpec} {levels : List Descriptor} {f : Member} {v : Value} {shape : Shape}
  {fields : List Member} {slots : List Value} {plan : Plan}

/-- All types are plain, and what their slots start with is well typed. -/
structure AllPlain (reg : Registry) : Prop where
  members : ∀ {t d m}, reg.get? t = some d → m ∈ d.members → m.body.Plain
  fills : ∀ {t d}, reg.get? t = some d → reg.Fills d.toShape d.defaults
  held : ∀ {t d}, reg.get? t = some d → ∀ v ∈ d.defaults, v.Sound reg []

/-! ### Defaults -/

lemma Settled.suits_defaultValue (hv : Settled reg st) (type : TypeId) :
    reg.Suits type (reg.defaultValue type) := by
  rw [defaultValue]
  split
  · subst type
    exact ⟨rfl, by simp, by simp⟩
  split
  · subst type
    exact ⟨rfl, by simp, by simp⟩
  split
  · subst type
    exact ⟨rfl, by simp, by simp⟩
  -- null goes wherever no value type is declared
  have hnull : reg.isValueType type = false → reg.Suits type .null := fun h => by
    refine ⟨?_, fun ht => ?_, by simp⟩
    · simp [Value.isAssignableTo, h]
    · rw [h] at ht
      cases ht
  split
  · -- a type that is known, and of a value type an instance
    rename_i d hd
    split
    · refine ⟨?_, by simp, by simp⟩
      simp [Value.isAssignableTo, Value.typeId, hv.valid.id hd]
    · rename_i hvalue
      exact hnull (by rw [isValueType, hd]; exact Bool.eq_false_iff.mpr hvalue)
  · rename_i hd
    exact hnull (by rw [isValueType, hd]; rfl)

lemma AllPlain.sound_defaultValue (h : reg.AllPlain) (type : TypeId) :
    (reg.defaultValue type).Sound reg [] := by
  rw [defaultValue]
  split
  · exact Value.IsBasic.sound ⟨rfl, rfl⟩
  split
  · exact Value.IsBasic.sound ⟨rfl, rfl⟩
  split
  · exact Value.IsBasic.sound ⟨rfl, rfl⟩
  split
  · rename_i d hd
    split
    · exact .copy (h.fills hd) (h.held hd)
    · exact Value.IsBasic.sound ⟨rfl, rfl⟩
  · exact Value.IsBasic.sound ⟨rfl, rfl⟩

/-- Fields whose slots all start with the defaults of their types. -/
lemma fits_map {default : TypeId → Value}
    (h : ∀ f ∈ fields, reg.Suits f.valueType (default f.valueType)) :
    reg.Fits fields (fields.map (default ·.valueType)) := by
  induction fields with
  | nil => exact .nil
  | cons f fields ih =>
    exact .cons (h f List.mem_cons_self) (ih fun g hg => h g (List.mem_cons_of_mem _ hg))

/-! ### Later registrations -/

lemma Settled.valueType_lt (hv : Settled reg st) (hc : reg.Chain type levels)
    (hf : f ∈ chainFields levels) : f.valueType.code < st.nextType.code := by
  obtain ⟨d, hd, hf⟩ := List.mem_flatMap.mp hf
  obtain ⟨t, ht⟩ := hc.exists_get?_of_mem (List.mem_reverse.mp hd)
  exact hv.closed.types ht (mem_fieldsOf.mp hf).1 _ List.mem_cons_self

namespace Registered

variable (h : Registered reg spec next base d reg')
include h

lemma suits (ht : type.code < next.code) (hs : reg.Suits type v) : reg'.Suits type v := by
  have hvalue : reg'.isValueType type = reg.isValueType type := by
    rw [isValueType, isValueType, h.get?_of_lt ht]
  refine ⟨?_, fun ht => hs.ne_null ?_, fun ht => hs.ne_wrapped ?_⟩
  · rw [hvalue]
    exact hs.assignable
  · rwa [← hvalue]
  · rwa [← hvalue]

lemma fits (hfields : ∀ f ∈ fields, f.valueType.code < next.code) (hs : reg.Fits fields slots) :
    reg'.Fits fields slots := by
  rw [Fits] at hs
  induction hs with
  | nil => exact .nil
  | cons hfirst _ ih =>
    exact .cons (h.suits (hfields _ List.mem_cons_self) hfirst)
      (ih fun f hf => hfields f (List.mem_cons_of_mem _ hf))

end Registered

section Registered

variable (hv : Settled reg st) (h : Registered reg spec st.nextType base d reg')
include hv h

lemma Registered.fills (hs : reg.Fills shape slots) : reg'.Fills shape slots := by
  obtain ⟨levels, ⟨e, he, hshape⟩, hc, hfits⟩ := hs
  refine ⟨levels, ⟨e, ?_, hshape⟩, h.chain_old hv.valid hc, ?_⟩
  · rw [h.get?_of_lt (hv.valid.allocated he), he]
  · exact h.fits (fun f => hv.valueType_lt hc) hfits

lemma Registered.sound (hs : v.Sound reg plan) : v.Sound reg' plan := by
  induction hs with
  | known hknown hcopy => exact .known hknown hcopy
  | copy hfills _ ih => exact .copy (h.fills hv hfills) ih

end Registered

/-! ### Registering a plain type -/

/-- What the registration of a plain type does to the registry and the store. -/
structure RegisteredPlain (reg : Registry) (st : Store) (spec : TypeSpec) (base d : Descriptor)
    (reg' : Registry) (st' : Store) : Prop extends
    Registered reg spec st.nextType base d reg' where
  plain : ∀ m ∈ d.members, m.body.Plain
  types : ∀ m ∈ d.members, m.kind = .field → m.valueType ∈ spec.types
  defaults : d.defaults =
    base.defaults ++ (fieldsOf false d.members).map (reg.defaultValue ·.valueType)
  store : st' = { st with
    nextType := st.nextType.next
    statics := st.statics.insert st.nextType
      ((fieldsOf true d.members).map (reg.defaultValue ·.valueType)) }

lemma registeredPlain_of_register (hplain : spec.Plain)
    (hr : reg.register st spec = .ok (type, reg', st')) :
    ∃ base d, RegisteredPlain reg st spec base d reg' st' := by
  obtain ⟨rfl, -, base, d, hreg⟩ := registered_of_register hr
  have hd : reg'.get? st.nextType = some d := (hreg.get? _).trans (if_pos rfl)
  obtain ⟨base', hbase, -, -, -, hlayout, rfl⟩ := register_eq_ok hr hd
  obtain rfl : base' = base := Option.some.inj (hbase.symm.trans hreg.base_known)
  have hover := Layout.plainOver_ofSpec reg.defaultValue st.nextType base' hplain
  refine ⟨base', d, ⟨hreg, ?_, ?_, ?_, ?_⟩⟩ <;> subst hlayout
  · exact hover.members
  · exact Layout.fieldType_ofSpec
  · exact hover.defaults
  · exact congrArg (fun slots => { st with
      nextType := st.nextType.next, statics := st.statics.insert st.nextType slots }) hover.statics

lemma allPlain_initial : Registry.initial.AllPlain where
  members := by
    intro t d m hd hm
    obtain ⟨name, isValueType, -, rfl⟩ := get?_initial_eq_some hd
    cases hm
  fills := by
    intro t d hd
    obtain ⟨levels, hc, hlaid⟩ := archive_initial.laidOut hd
    have hid := archive_initial.valid.id hd
    refine ⟨d :: levels, ⟨d, hid ▸ hd, rfl⟩, hid ▸ hc, ?_⟩
    have hfields := hlaid.occupy.length_eq
    obtain ⟨name, isValueType, -, rfl⟩ := get?_initial_eq_some hd
    rw [List.eq_nil_of_length_eq_zero hfields]
    exact .nil
  held := by
    intro t d hd v hv
    obtain ⟨name, isValueType, -, rfl⟩ := get?_initial_eq_some hd
    cases hv

namespace RegisteredPlain

variable (h : RegisteredPlain reg st spec base d reg' st') (hv : Settled reg st)
  (hspec : spec.Allocated st.nextType) (hall : reg.AllPlain)
include h hv hspec

/-- The fields of the new type start with what suits them. -/
lemma fits_own (isStatic : Bool) : reg'.Fits (fieldsOf isStatic d.members)
    ((fieldsOf isStatic d.members).map (reg.defaultValue ·.valueType)) := by
  refine fits_map fun f hf => ?_
  obtain ⟨hmem, hkind, -⟩ := mem_fieldsOf.mp hf
  exact h.suits (hspec _ (h.types f hmem hkind)) (hv.suits_defaultValue _)

include hall

/-- The new type starts with the defaults of its base and then those of its own fields. -/
lemma fills_new : reg'.Fills d.toShape d.defaults := by
  obtain ⟨farther, hchain, -⟩ := hv.archive.laidOut h.base_known
  have hbase := (hall.fills h.base_known).fits ((hv.valid.id h.base_known).symm ▸ hchain)
  have hd : reg'.get? d.id = some d := (h.get? _).trans (if_pos h.id)
  refine ⟨d :: base :: farther, ⟨d, hd, rfl⟩, h.id ▸ h.chain_new hv.valid hchain, ?_⟩
  -- what the slots of the base start with still suits them in the larger registry
  rw [chainFields_cons, h.defaults]
  exact List.rel_append (h.fits (fun f => hv.valueType_lt hchain) hbase) (h.fits_own hv hspec false)

lemma allPlain : reg'.AllPlain where
  members := by
    intro t e m he hm
    rcases h.new_or_old he with ⟨rfl, rfl⟩ | he
    · exact h.plain m hm
    · exact hall.members he hm
  fills := by
    intro t e he
    rcases h.new_or_old he with ⟨rfl, rfl⟩ | he
    · exact h.fills_new hv hspec hall
    · exact h.toRegistered.fills hv (hall.fills he)
  held := by
    intro t e he v hmem
    rcases h.new_or_old he with ⟨rfl, rfl⟩ | he
    · -- the defaults of the base and then those of the own fields
      rw [h.defaults] at hmem
      rcases List.mem_append.mp hmem with hmem | hmem
      · exact h.sound hv (hall.held h.base_known v hmem)
      · obtain ⟨f, -, rfl⟩ := List.mem_map.mp hmem
        exact h.sound hv (hall.sound_defaultValue _)
    · exact h.sound hv (hall.held he v hmem)

lemma filled (hst : st.Filled reg plan) : st'.Filled reg' plan := by
  have hstatics : ∀ t, st'.staticsOf t =
      if t = st.nextType then (fieldsOf true d.members).map (reg.defaultValue ·.valueType)
      else st.staticsOf t := by
    rw [h.store]
    exact fun t => Store.staticsOf_insert st st.nextType t _
  have hcells : st'.cells = st.cells := by rw [h.store]
  constructor
  case length_eq => rw [hcells, hst.length_eq]
  case instances =>
    intro r tenant shape hr hshape
    rw [Store.cell, hcells]
    exact h.toRegistered.fills hv (hst.instances hr hshape)
  case held =>
    intro slots hslots v hmem
    exact h.sound hv (hst.held slots (hcells ▸ hslots) v hmem)
  case statics =>
    intro t e he
    rw [hstatics]
    rcases h.new_or_old he with ⟨rfl, rfl⟩ | he
    · -- the new type starts with the defaults of its static fields
      rw [if_pos rfl]
      exact h.fits_own hv hspec true
    · -- an old type keeps its static slots, as its identifier is smaller
      rw [if_neg fun ht => Nat.lt_irrefl _ (ht ▸ hv.valid.allocated he)]
      refine h.fits (fun f hf => ?_) (hst.statics he)
      exact hv.closed.types he (mem_fieldsOf.mp hf).1 _ List.mem_cons_self
  case heldStatic =>
    intro t v hmem
    rw [hstatics] at hmem
    split at hmem
    · obtain ⟨f, -, rfl⟩ := List.mem_map.mp hmem
      exact (h.sound hv (hall.sound_defaultValue _)).mono (List.nil_prefix)
    · exact h.sound hv (hst.heldStatic t v hmem)

end RegisteredPlain

end LateBinding.Registry
