import LateBinding.Proofs.Invoker.Access
import LateBinding.Proofs.Invoker.Bodiless
import LateBinding.Proofs.Registry.ReadOnly

/-!
# Invokers keep off read-only slots

Whether a slot may be written is looked at when an invoker is made, and never again. The place that
an invoker writes is that of a field that may be written: of a field along the chain of the target,
or of a static one. Registering further types changes nothing of this.

Main statements: `Registry.Settled.built_open` and `Category.Open.registered`.
-/

namespace LateBinding

variable {reg reg' : Registry} {st : Store} {target : TypeId} {d base : Descriptor}
  {spec : TypeSpec} {m : Member} {slot : Nat} {guard : Option ReceiverGuard} {p : Place}

/-! ### Places that may be written -/

/-- The place is that of a field that may be written. -/
inductive Place.Open (reg : Registry) (guard : Option ReceiverGuard) : Place → Prop where
  | receiver {g : ReceiverGuard} {slot : Nat} (hg : guard = some g)
      (h : reg.InstanceSlot g.target slot true) : Open reg guard (.receiver slot)
  | static {owner : TypeId} {slot : Nat} (h : reg.StaticSlot owner slot true) :
      Open reg guard (.static owner slot)

/-- If the setter writes a place, the place may be written. -/
def Setter.Open (reg : Registry) (s : Setter) : Prop :=
  ∀ p, s.access = .place p → p.Open reg s.receiver

/-- If the method writes a place, the place may be written. -/
def Method.Open (reg : Registry) (m : Method) : Prop :=
  ∀ p storesValueType, m.body = .write p storesValueType → p.Open reg m.receiver

/-- The invoker writes no place but those that may be written, and makes instances of known types
only. -/
def Category.Open (reg : Registry) : (c : Category) → c.Item → Prop
  | .setters, s => Setter.Open reg s
  | .methods, m => Method.Open reg m
  | .constructors, c => reg.get? (Construction.owner c).id = some (Construction.owner c)
  | .batchSetters, b => ∀ s ∈ BatchSetter.setters b, s.Open reg
  | .copiers, c => ∀ step ∈ Copier.steps c, step.2.Open reg
  | .lookups, _ => True
  | .getters, _ => True
  | .indexReaders, _ => True
  | .indexWriters, _ => True

/-! ### Making an invoker -/

lemma Access.exists_slot {accessor : Accessor} (h : ofAccessor reg m accessor = .ok (.place p)) :
    ∃ slot, accessor = .slot slot := by
  cases accessor with
  | slot index => exact ⟨index, rfl⟩
  | native body =>
    obtain ⟨_, -, h⟩ := exists_of_map_eq_ok h
    cases h

/-- The setter of a member that writes a place is that of a slot. -/
lemma Setter.exists_writeSlot?_of_place {s : Setter} (h : ofMember reg target m = .ok s)
    (hp : s.access = .place p) : ∃ slot, m.writeSlot? = some slot := by
  obtain ⟨access, haccess, h⟩ := exists_of_bind_eq_ok h
  obtain ⟨receiver, -, h⟩ := exists_of_bind_eq_ok h
  cases h
  obtain rfl : access = .place p := hp
  rw [accessOf] at haccess
  rw [Member.writeSlot?]
  split at haccess
  · -- a field that is not read-only
    rename_i slot readonly hbody
    cases readonly with
    | true => cases haccess
    | false => exact ⟨slot, by rw [hbody]⟩
  · -- a property whose setter writes a slot
    rename_i setter hbody
    obtain ⟨slot, rfl⟩ := Access.exists_slot haccess
    exact ⟨slot, by rw [hbody]; rfl⟩
  · cases haccess
  · cases haccess

/-- A method that writes a place is that of a slot and takes the value. -/
lemma Method.exists_slot_of_write {x : Method} {storesValueType : Bool}
    (h : ofMember reg target m = .ok x) (hx : x.body = .write p storesValueType) :
    ∃ slot, m.body = .method (.slot slot) ∧ m.params ≠ [] ∧ Place.ofSlot reg m slot = .ok p ∧
      ReceiverGuard.ofMember reg target m = .ok x.receiver := by
  rw [ofMember] at h
  split at h
  · rename_i accessor hbody
    obtain ⟨body, hmade, h⟩ := exists_of_bind_eq_ok h
    obtain ⟨receiver, hreceiver, h⟩ := exists_of_bind_eq_ok h
    cases h
    obtain rfl : body = .write p storesValueType := hx
    cases accessor with
    | native script =>
      obtain ⟨_, -, h⟩ := exists_of_map_eq_ok hmade
      cases h
    | slot slot =>
      obtain ⟨place, hplace, hmade⟩ := exists_of_bind_eq_ok hmade
      split at hmade
      · cases hmade
      · -- a method that writes a slot takes the new value last, so it takes something
        rename_i last hlast
        cases hmade
        refine ⟨slot, hbody, ?_, hplace, hreceiver⟩
        rintro hnil
        rw [hnil] at hlast
        cases hlast
  · cases h

section Made

open Registry

variable (hv : Settled reg st) (hm : reg.Along target m)
include hv hm

/-- What a member writes may be written. -/
lemma Member.open_place (hd : reg.get? target = some d) (hi : m.Uses slot true) :
    (m.place slot).Open reg (m.receiverGuard? d) := by
  have hslot := hm.exists_slot hv hi
  rw [place, receiverGuard?]
  cases hstatic : m.isStatic with
  | false =>
    rw [hstatic] at hslot
    refine .receiver rfl ?_
    rw [ReceiverGuard.ofType, hv.valid.id hd]
    exact hslot
  | true =>
    rw [hstatic] at hslot
    exact .static hslot

lemma Setter.open_of_ofMember {s : Setter} (h : ofMember reg target m = .ok s) : s.Open reg := by
  intro p hp
  obtain ⟨d, e, hd, he, hid, -⟩ := hv.archive.exists_declaring hm
  obtain ⟨slot, hslot⟩ := exists_writeSlot?_of_place h hp
  rw [ofMember_of_writeSlot? hd he hid hslot] at h
  cases h
  cases hp
  exact Member.open_place hv hm hd (.writes hslot)

lemma Method.open_of_ofMember {x : Method} (h : ofMember reg target m = .ok x) : x.Open reg := by
  intro p storesValueType hx
  obtain ⟨d, e, hd, he, hid, -⟩ := hv.archive.exists_declaring hm
  obtain ⟨slot, hbody, hparams, hplace, hreceiver⟩ := exists_slot_of_write h hx
  rw [Place.ofSlot_eq he hid] at hplace
  rw [ReceiverGuard.ofMember_eq hd] at hreceiver
  rw [← Except.ok.inj hplace, ← Except.ok.inj hreceiver]
  exact Member.open_place hv hm hd (.method hbody hparams)

omit hm in
lemma Construction.open_of_ofMember {c : Construction} (h : ofMember reg m = .ok c) :
    reg.get? c.owner.id = some c.owner := by
  rw [ofMember] at h
  split at h
  · obtain ⟨owner, howner, h⟩ := exists_of_bind_eq_ok h
    obtain ⟨scripts, -, h⟩ := exists_of_bind_eq_ok h
    cases h
    have hknown := known_eq_ok_iff.mp howner
    rwa [hv.valid.id hknown]
  · cases h

end Made

/-- Whatever the binder makes writes nothing that may not be written. -/
lemma Registry.Settled.built_open (hv : Settled reg st) :
    Category.Built reg (Category.Open reg) where
  invoker := by
    intro sort target m x hm hx
    cases sort with
    | setter => exact Setter.open_of_ofMember hv hm hx
    | method => exact Method.open_of_ofMember hv hm hx
    | constructor => exact Construction.open_of_ofMember hv hx
    | _ => trivial
  elementReader := fun _ => trivial
  elementWriter := fun _ => trivial
  batchSetter := id
  copier := fun h step hstep => (h step hstep).2

/-! ### Later registrations -/

section Registered

open Registry

variable (h : Registered reg spec st.nextType base d reg') (hv : reg.Valid st.nextType)
include h hv

lemma Place.Open.registered (hp : p.Open reg guard) : p.Open reg' guard := by
  cases hp with
  | receiver hg hslot => exact .receiver hg (hslot.registered h hv)
  | static hslot => exact .static (hslot.registered h hv)

/-- Registering a type leaves open what may be written. -/
lemma Category.Open.registered {c : Category} {x : c.Item} (hx : c.Open reg x) : c.Open reg' x := by
  have hsetter : ∀ {s : Setter}, s.Open reg → s.Open reg' := fun hs p hp =>
    (hs p hp).registered h hv
  cases c with
  | setters => exact hsetter hx
  | methods => exact fun p b hp => (hx p b hp).registered h hv
  | constructors => exact (h.get?_of_lt (hv.allocated hx)).trans hx
  | batchSetters => exact fun s hs => hsetter (hx s hs)
  | copiers => exact fun step hstep => hsetter (hx step hstep)
  | _ => trivial

end Registered

end LateBinding
