import LateBinding.Proofs.Invoker.Access
import LateBinding.Proofs.Invoker.Frame
import LateBinding.Proofs.Lookup.Copying
import LateBinding.Proofs.Registry.Defaults
import LateBinding.Proofs.Run.Binder

/-!
# Invokers of plain members

An invoker of a member of a plain type runs no native body but the empty one. It reads and writes
places, and where it writes it demands of the value what the field at the place demands: that it
fits the declared type, and it knows whether this is a value type. Registering further types changes
nothing of this.

Main statements: `Fetches.plain` and `Category.Plain.registered`.
-/

namespace LateBinding

variable {reg reg' : Registry} {st : Store} {target type : TypeId} {d base : Descriptor}
  {spec : TypeSpec} {m : Member} {slot : Nat} {guard : Option ReceiverGuard} {p : Place}

/-! ### What an invoker of plain members is -/

/-- The place is that of a field of the type: of a field along the chain of the target, or of a
static one. -/
inductive Place.Holds (reg : Registry) (guard : Option ReceiverGuard) (type : TypeId) :
    Place → Prop where
  | receiver {g : ReceiverGuard} {levels : List Descriptor} {slot : Nat} {f : Member}
      (hg : guard = some g) (hc : reg.Chain g.target levels)
      (hf : (chainFields levels)[slot]? = some f) (htype : f.valueType = type) :
      Holds reg guard type (.receiver slot)
  | static {owner : TypeId} {d : Descriptor} {slot : Nat} {f : Member}
      (hd : reg.get? owner = some d) (hf : (fieldsOf true d.members)[slot]? = some f)
      (htype : f.valueType = type) : Holds reg guard type (.static owner slot)

/-- The getter reads a place. -/
def Getter.Plain (g : Getter) : Prop := ∃ p, g.access = .place p

/-- The setter writes a place, and demands of the value what is to be demanded there. -/
structure Setter.Plain (reg : Registry) (s : Setter) : Prop where
  value : s.value = .ofType reg s.value.type
  access : ∃ p, s.access = .place p ∧ p.Holds reg s.receiver s.value.type

/-- The method reads a place, or it writes one with its only argument and demands of this what is to
be demanded there. -/
inductive Method.Plain (reg : Registry) (m : Method) : Prop where
  | read {p : Place} (hbody : m.body = .read p)
  | write {p : Place} {type : TypeId} (hbody : m.body = .write p (reg.isValueType type))
      (hparams : m.arguments.params = [.ofType reg type]) (hp : p.Holds reg m.receiver type)

/-- No constructor does anything. -/
structure Construction.Plain (reg : Registry) (c : Construction) : Prop where
  owner : reg.get? c.owner.id = some c.owner
  inherited : ∀ script ∈ c.inherited, script.body = []
  body : c.body.body = []

/-- The invoker is one of plain members. Those of indexers are left out. -/
def Category.Plain (reg : Registry) : (c : Category) → c.Item → Prop
  | .getters, g => Getter.Plain g
  | .setters, s => Setter.Plain reg s
  | .methods, m => Method.Plain reg m
  | .constructors, c => Construction.Plain reg c
  | .batchSetters, b => ∀ s ∈ BatchSetter.setters b, s.Plain reg
  | .copiers, c => ∀ step ∈ Copier.steps c, step.1.Plain ∧ step.2.Plain reg
  | .lookups, _ => True
  | .indexReaders, _ => True
  | .indexWriters, _ => True

/-! ### Making an invoker -/

/-- The slot that the accessor of a plain member goes to is the one that it is read from. -/
lemma Getter.exists_readSlot? {g : Getter} (hplain : m.body.Plain)
    (h : ofMember reg target m = .ok g) : ∃ slot, m.readSlot? = some slot := by
  rw [ofMember, accessOf] at h
  simp only [Member.readSlot?]
  generalize m.body = body at hplain h
  cases hplain with
  | field slot readonly => exact ⟨slot, rfl⟩
  | property getter setter =>
    cases getter with
    | none => cases h
    | some slot => exact ⟨slot, rfl⟩
  | method slot => cases h
  | constructor => cases h

lemma Setter.exists_writeSlot? {s : Setter} (hplain : m.body.Plain)
    (h : ofMember reg target m = .ok s) : ∃ slot, m.writeSlot? = some slot := by
  rw [ofMember, accessOf] at h
  simp only [Member.writeSlot?]
  generalize m.body = body at hplain h
  cases hplain with
  | field slot readonly =>
    cases readonly with
    | false => exact ⟨slot, rfl⟩
    | true => cases h
  | property getter setter =>
    cases setter with
    | none => cases h
    | some slot => exact ⟨slot, rfl⟩
  | method slot => cases h
  | constructor => cases h

lemma Method.exists_slot {x : Method} (hplain : m.body.Plain)
    (h : ofMember reg target m = .ok x) : ∃ slot, m.body = .method (.slot slot) := by
  rw [ofMember] at h
  generalize m.body = body at hplain h ⊢
  cases hplain with
  | method slot => exact ⟨slot, rfl⟩
  | _ => cases h

/-- A method of an automatic property takes nothing, or the value of the property. -/
lemma AutoProperty.params {group : List Member} (h : AutoProperty slot group) (hm : m ∈ group)
    (hbody : m.body = .method (.slot slot)) :
    m.params = [] ∨ m.params = [⟨m.storedType, false⟩] := by
  obtain ⟨field, -, property, readonly, hfield, hproperty, hparts⟩ := h.exists_parts
  cases hparts m hm with
  | field =>
    rw [hfield.body] at hbody
    cases hbody
  | property =>
    rw [hproperty] at hbody
    cases hbody
  | getter hgetter => exact Or.inl hgetter.params
  | setter hsetter =>
    right
    rw [Member.storedType, hsetter.body, hsetter.params]
    rfl

section Made

open Registry

variable (hv : Settled reg st) (hm : reg.Along target m)
include hv hm

/-- What a member stores is at the place of a field of the type. -/
lemma Member.holds_place (hd : reg.get? target = some d) (hi : slot ∈ m.slots) :
    (m.place slot).Holds reg (m.receiverGuard? d) m.storedType := by
  obtain ⟨levels, hc, e, he, hmem⟩ := hm
  obtain ⟨d', farther, hd', rfl, hlaid⟩ := hv.archive.laidOut_of_chain hc
  obtain rfl := Option.some.inj (hd.symm.trans hd')
  rw [place, receiverGuard?]
  cases hstatic : m.isStatic with
  | false =>
    obtain ⟨f, hf, hstored⟩ := hlaid.storedIn he hmem hstatic hi
    refine .receiver rfl ?_ hf hstored.valueType
    rw [ReceiverGuard.ofType, hv.valid.id hd]
    exact hc
  | true =>
    obtain ⟨f, hf, hstored⟩ := hlaid.storedIn_static he hmem hstatic hi
    have hknown := hv.archive.get?_of_mem_chain hc he
    exact .static (hv.valid.declaring hknown hmem ▸ hknown) hf hstored.valueType

/-- The parameters of a method that goes to a slot. -/
lemma Registry.Along.params (hbody : m.body = .method (.slot slot)) :
    m.params = [] ∨ m.params = [⟨m.storedType, false⟩] := by
  obtain ⟨levels, hc, e, he, hmem⟩ := hm
  obtain ⟨d, farther, -, rfl, hlaid⟩ := hv.archive.laidOut_of_chain hc
  obtain ⟨_, _, hover⟩ := hlaid.exists_laidOver he hmem
  have hslot : slot ∈ m.accessorSlots := by
    rw [Member.accessorSlots, hbody]
    exact List.mem_singleton_self slot
  obtain ⟨group, hgroup, hmem', -⟩ := hover.grouped m hmem slot hslot
  exact hgroup.params hmem' hbody

variable (hall : reg.AllPlain)
include hall

lemma Getter.plain {g : Getter} (h : ofMember reg target m = .ok g) : g.Plain := by
  obtain ⟨d, e, hd, he, hid, hmem⟩ := hv.archive.exists_declaring hm
  obtain ⟨slot, hslot⟩ := exists_readSlot? (hall.members he hmem) h
  rw [ofMember_of_readSlot? hd he hid hslot] at h
  cases h
  exact ⟨_, rfl⟩

lemma Setter.plain {s : Setter} (h : ofMember reg target m = .ok s) : s.Plain reg := by
  obtain ⟨d, e, hd, he, hid, hmem⟩ := hv.archive.exists_declaring hm
  obtain ⟨slot, hslot⟩ := exists_writeSlot? (hall.members he hmem) h
  rw [ofMember_of_writeSlot? hd he hid hslot] at h
  cases h
  have hholds := Member.holds_place hv hm hd (Member.mem_slots_of_writeSlot? hslot)
  rw [Member.storedType_of_writeSlot? hslot] at hholds
  exact ⟨rfl, _, rfl, hholds⟩

lemma Method.plain {x : Method} (h : ofMember reg target m = .ok x) : x.Plain reg := by
  obtain ⟨d, e, hd, he, hid, hmem⟩ := hv.archive.exists_declaring hm
  obtain ⟨slot, hbody⟩ := exists_slot (hall.members he hmem) h
  have hslot : slot ∈ m.slots := by
    rw [Member.slots, Member.accessorSlots, hbody]
    exact List.mem_append_right _ (List.mem_singleton_self slot)
  have hholds := Member.holds_place hv hm hd hslot
  simp only [ofMember, hbody, MethodBody.ofAccessor, Place.ofSlot_eq he hid,
    ReceiverGuard.ofMember_eq hd] at h
  rcases hm.params hv hbody with hparams | hparams <;> rw [hparams] at h <;> cases h
  · exact .read rfl
  · refine .write rfl ?_ hholds
    rw [ArgumentsGuard.ofMember, hparams]
    rfl

end Made

/-- A constructor that a plain type brings does nothing. -/
lemma Construction.inherited_plain (hall : reg.AllPlain) {owner : Descriptor}
    {scripts : List BoundScript} (h : inheritedScripts reg owner = .ok scripts) :
    ∀ script ∈ scripts, script.body = [] := by
  intro script hscript
  obtain ⟨found, hfound, h⟩ := exists_of_bind_eq_ok h
  cases h
  obtain ⟨_, hmem, rfl⟩ := List.mem_filterMap.mp hscript
  obtain ⟨ancestor, -, hancestor⟩ := exists_of_mem_mapM hfound hmem
  obtain ⟨d, hknown, hancestor⟩ := exists_of_bind_eq_ok hancestor
  obtain ⟨body, hbody, rfl⟩ := Option.map_eq_some_iff.mp (Except.ok.inj hancestor)
  -- the script is the body of the ancestor's constructor without parameters
  obtain ⟨m, hm, hmade⟩ := List.exists_of_findSome?_eq_some hbody
  have hplain := hall.members (Registry.known_eq_ok_iff.mp hknown) hm
  generalize m.body = implementation at hmade hplain
  cases hplain with
  | constructor =>
    change (if m.params.isEmpty then some [] else none) = some body at hmade
    split at hmade
    · exact (Option.some.inj hmade).symm
    · cases hmade
  | _ => cases hmade

/-- What a construction of a plain type runs are constructors that do nothing. -/
lemma Construction.plain {c : Construction} (hv : Registry.Settled reg st) (hall : reg.AllPlain)
    (hm : reg.Along target m) (h : ofMember reg m = .ok c) : c.Plain reg := by
  obtain ⟨d, e, -, he, hid, hmem⟩ := hv.archive.exists_declaring hm
  have hbody : m.body = .constructor [] := by
    have hplain := hall.members he hmem
    rw [ofMember] at h
    generalize m.body = body at hplain h ⊢
    cases hplain with
    | constructor => rfl
    | _ => cases h
  simp only [ofMember, hbody, Registry.known_of_get?_eq_some he] at h
  obtain ⟨_, heq, h⟩ := exists_of_bind_eq_ok h
  cases heq
  obtain ⟨scripts, hinherited, h⟩ := exists_of_bind_eq_ok h
  cases h
  exact ⟨hid ▸ he, inherited_plain hall hinherited, rfl⟩

/-! ### Questions to the caches -/

section Fetches

open Registry

variable {config : Config} {q : Query}

variable (hv : Settled reg st) (hall : reg.AllPlain)
include hv hall

/-- Whatever invoker the binder makes is one of plain members. -/
lemma Fetches.plain {c : Category} {key : c.Key} {make : Unit → Except Fault c.Item} {x : c.Item}
    (h : Fetches reg config c key make) (hx : make () = .ok x) : c.Plain reg x := by
  cases h with
  | invoker sort hm =>
    obtain ⟨q, -, hfind⟩ := hm
    have hm := (along_of_find hfind).1
    cases sort with
    | getter => exact Getter.plain hv hm hall hx
    | setter => exact Setter.plain hv hm hall hx
    | method => exact Method.plain hv hm hall hx
    | constructor => exact Construction.plain hv hall hm hx
    | indexReader => trivial
    | indexWriter => trivial
  | elementReader => trivial
  | elementWriter => trivial
  | @batchSetter type flags names ms hms =>
    intro s hs
    obtain ⟨setters, hsetters, rfl⟩ := exists_of_map_eq_ok hx
    obtain ⟨m, hm, hmade⟩ := exists_of_mem_mapM hsetters hs
    obtain ⟨name, -, hfind⟩ := exists_of_mem_mapM hms hm
    exact Setter.plain hv (along_of_find hfind).1 hall hmade
  | @copier source target o pairs hpairs =>
    intro step hstep
    obtain ⟨steps, hsteps, rfl⟩ := exists_of_map_eq_ok hx
    obtain ⟨pair, hpair, hmade⟩ := exists_of_mem_mapM hsteps hstep
    obtain ⟨hsource, htarget⟩ := along_of_copyPairs hpairs pair hpair
    obtain ⟨getter, hgetter, hmade⟩ := exists_of_bind_eq_ok hmade
    obtain ⟨setter, hsetter, hmade⟩ := exists_of_bind_eq_ok hmade
    cases hmade
    exact ⟨Getter.plain hv hsource hall hgetter, Setter.plain hv htarget hall hsetter⟩

end Fetches

/-! ### Later registrations -/

section Registered

open Registry

variable (h : Registered reg spec st.nextType base d reg') (hv : Settled reg st)
include h hv

lemma Place.Holds.registered (hp : p.Holds reg guard type) :
    p.Holds reg' guard type ∧ type.code < st.nextType.code := by
  cases hp with
  | receiver hg hc hf htype =>
    refine ⟨.receiver hg (h.chain_old hv.valid hc) hf htype, ?_⟩
    exact htype ▸ hv.valueType_lt hc (List.mem_of_getElem? hf)
  | static hd hf htype =>
    refine ⟨.static ((h.get?_of_lt (hv.valid.allocated hd)).trans hd) hf htype, ?_⟩
    have hmem := mem_fieldsOf.mp (List.mem_of_getElem? hf)
    exact htype ▸ hv.closed.types hd hmem.1 _ List.mem_cons_self

lemma Setter.Plain.registered {s : Setter} (hs : s.Plain reg) : s.Plain reg' := by
  obtain ⟨hvalue, p, haccess, hp⟩ := hs
  obtain ⟨hp', htype⟩ := hp.registered h hv
  refine ⟨hvalue.trans ?_, p, haccess, hp'⟩
  exact (ValueGuard.ofType_congr (h.get?_of_lt htype)).symm

lemma Method.Plain.registered {m : Method} (hm : m.Plain reg) : m.Plain reg' := by
  cases hm with
  | read hbody => exact .read hbody
  | @write p type hbody hparams hp =>
    obtain ⟨hp', htype⟩ := hp.registered h hv
    have hsame := ValueGuard.ofType_congr (h.get?_of_lt htype)
    refine .write (hbody.trans ?_) (hparams.trans ?_) hp'
    · exact congrArg (MethodBody.write p ·.isValueType) hsame.symm
    · rw [hsame]

lemma Construction.Plain.registered {c : Construction} (hc : c.Plain reg) : c.Plain reg' :=
  ⟨(h.get?_of_lt (hv.valid.allocated hc.owner)).trans hc.owner, hc.inherited, hc.body⟩

/-- Registering a type leaves an invoker of plain members what it is. -/
lemma Category.Plain.registered {c : Category} {x : c.Item} (hx : c.Plain reg x) :
    c.Plain reg' x := by
  cases c with
  | getters => exact hx
  | setters => exact Setter.Plain.registered h hv hx
  | methods => exact Method.Plain.registered h hv hx
  | constructors => exact Construction.Plain.registered h hv hx
  | batchSetters => exact fun s hs => (hx s hs).registered h hv
  | copiers => exact fun step hstep => ⟨(hx step hstep).1, (hx step hstep).2.registered h hv⟩
  | _ => trivial

end Registered

end LateBinding
