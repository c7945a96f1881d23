import LateBinding.Proofs.Invoker.ReadWrite
import LateBinding.Proofs.Lookup.Copying
import LateBinding.Proofs.Registry.Owned
import LateBinding.Proofs.Session.Archived
import LateBinding.Proofs.Session.FieldAccess
import LateBinding.Proofs.Store.Keeps

/-!
# What a copy leaves

A copy from one instance to another goes pair by pair and stops at the first value that does not fit
the member it is copied to. Several pairs may name one slot; it then holds what the last of them has
copied. All other slots of all instances are as they were. Since a type does not store its own
instances in its fields, what has been copied so far never changes what is copied next.

Main statement: `copied_slots`.
-/

namespace LateBinding

open Run Registry

variable {reg ever : Registry} {plan : Plan} {st st' : Store} {source target v w : Value}
  {next sourceType targetType : TypeId} {d d' : Descriptor} {r : Ref} {i : Nat} {m : Member}
  {p : Member × Member} {pairs before : List (Member × Member)} {shape : Shape}

/-! ### What is copied -/

/-- What a member reads from an instance. -/
def Store.Offers (st : Store) (source : Value) (m : Member) (v : Value) : Prop :=
  ∃ i, m.readSlot? = some i ∧ st.readSlot source i = .ok v

/-- The value may be written to the member. -/
def Registry.Takes (reg : Registry) (m : Member) (v : Value) : Prop :=
  v.isAssignableTo m.valueType (reg.isValueType m.valueType) = true

/-- What the first member of a pair reads may be written to the second one. -/
def Store.Fits (st : Store) (reg : Registry) (source : Value) (p : Member × Member) : Prop :=
  ∀ v, st.Offers source p.1 v → reg.Takes p.2 v

lemma Store.Offers.unique (h : st.Offers source m v) (h' : st.Offers source m w) : v = w := by
  obtain ⟨i, hi, hv⟩ := h
  obtain ⟨j, hj, hw⟩ := h'
  obtain rfl := Option.some.inj (hi.symm.trans hj)
  exact Except.ok.inj (hv.symm.trans hw)

/-- Both members of a pair belong to instances and go to slots. -/
structure BySlots (p : Member × Member) : Prop where
  ofInstances : p.1.isStatic = false ∧ p.2.isStatic = false
  reads : ∃ i, p.1.readSlot? = some i
  writes : ∃ i, p.2.writeSlot? = some i

/-- From the first store to the second one the pairs have been copied to the instance behind a
reference. -/
structure Store.Copied (st : Store) (reg : Registry) (source : Value) (r : Ref)
    (pairs : List (Member × Member)) (st' : Store) : Prop where
  /-- A slot that is named holds what the last pair that names it has copied. -/
  last : ∀ {before p after i v}, pairs = before ++ p :: after → p.2.writeSlot? = some i →
    (∀ q ∈ after, q.2.writeSlot? ≠ some i) → st.Offers source p.1 v →
      (st'.cell r)[i]? = some (st.toStored (reg.isValueType p.2.valueType) v)
  untouched : ∀ {i}, (∀ p ∈ pairs, p.2.writeSlot? ≠ some i) → (st'.cell r)[i]? = (st.cell r)[i]?
  instances : ∀ w, w.ref? ≠ some r → st'.slots? w = st.slots? w
  /-- Nothing but the one cell has changed. -/
  rest : ∃ slots, slots.length = (st.cell r).length ∧ st' = st.setCell r slots

namespace Store.Copied

lemma refl (st : Store) (reg : Registry) (source : Value) (r : Ref) :
    st.Copied reg source r [] st where
  last := fun h => by simp at h
  untouched := fun _ => rfl
  instances := fun _ _ => rfl
  rest := by
    refine ⟨st.cell r, rfl, ?_⟩
    rw [setCell, cell]
    cases hr : st.cells[r]? with
    | none => rw [List.set_eq_of_length_le (List.getElem?_eq_none_iff.mp hr)]
    | some slots =>
      obtain ⟨hlt, rfl⟩ := List.getElem?_eq_some_iff.mp hr
      rw [Option.getD_some, List.set_getElem_self]

/-- One more pair has been copied. -/
lemma snoc (h : st.Copied reg source r before st') (hr : r < st.nextRef)
    (hi : p.2.writeSlot? = some i) (hlt : i < (st.cell r).length) (hv : st.Offers source p.1 v) :
    st.Copied reg source r (before ++ [p]) (st'.setCell r ((st'.cell r).set i
      (st.toStored (reg.isValueType p.2.valueType) v))) := by
  obtain ⟨slots, hlength, rfl⟩ := h.rest
  have hcell : (st.setCell r slots).cell r = slots := cell_setCell_self hr slots
  have hr' : r < (st.setCell r slots).nextRef := by
    rwa [nextRef, setCell, List.length_set]
  constructor
  case last =>
    intro bf p' af j w hsplit hj haf hw
    rw [cell_setCell_self hr', hcell]
    -- the pair is the new one, or nothing behind it writes the slot, the new one included
    rcases List.eq_nil_or_concat af with rfl | ⟨af, q, rfl⟩
    · obtain ⟨rfl, rfl⟩ := List.append_inj' hsplit rfl |>.imp id List.singleton_inj.mp
      obtain rfl := Option.some.inj (hi.symm.trans hj)
      rw [hv.unique hw, List.getElem?_set_self (hlength ▸ hlt)]
    · rw [List.concat_eq_append, ← List.cons_append, ← List.append_assoc] at hsplit
      obtain ⟨rfl, hq⟩ := List.append_inj' hsplit rfl
      obtain rfl := List.singleton_inj.mp hq
      have hne : i ≠ j := fun hij => haf p (by simp) (hij ▸ hi)
      have hlast := h.last rfl hj (fun q hq => haf q (by simp [hq])) hw
      rw [hcell] at hlast
      rw [List.getElem?_set_ne hne, hlast]
  case untouched =>
    intro j hj
    -- the new pair writes another slot
    have hne : i ≠ j := fun hij => hj p (by simp) (hij ▸ hi)
    have hsame := h.untouched fun q hq => hj q (List.mem_append_left _ hq)
    rw [hcell] at hsame
    rw [cell_setCell_self hr', hcell, List.getElem?_set_ne hne, hsame]
  case instances =>
    exact fun w hw => (slots?_setCell hw _).trans (h.instances w hw)
  case rest =>
    refine ⟨slots.set i (st.toStored (reg.isValueType p.2.valueType) v), ?_, ?_⟩
    · rw [List.length_set, hlength]
    · rw [hcell, setCell, setCell, setCell, List.set_set]

lemma cell_of_ne (h : st.Copied reg source r before st') {q : Ref} (hq : q ≠ r) :
    st'.cell q = st.cell q := by
  obtain ⟨slots, -, rfl⟩ := h.rest
  exact cell_setCell_of_ne st (Ne.symm hq) slots

lemma length_cell (h : st.Copied reg source r before st') (hr : r < st.nextRef) :
    (st'.cell r).length = (st.cell r).length := by
  obtain ⟨slots, hlength, rfl⟩ := h.rest
  rw [cell_setCell_self hr, hlength]

end Store.Copied

/-! ### Two instances -/

/-- An instance to copy from and one to copy to, which is an object or a wrapper. They are not the
same one, and the plan knows the latter and whatever the former holds. -/
structure Store.Apart (st : Store) (reg : Registry) (plan : Plan) (sourceType targetType : TypeId)
    (source target : Value) (r : Ref) : Prop where
  arranged : st.Arranged plan
  ofSource : ∃ shape, st.HasInstance reg shape source ∧ shape.derivesFrom sourceType = true
  ofTarget : ∃ shape, st.HasInstance reg shape target ∧ shape.derivesFrom targetType = true
  behind : target.ref? = some r
  target : plan.Knows target
  apart : source.ref? ≠ some r
  known : ∀ i v, st.readSlot source i = .ok v → plan.Knows v

/-- An instance of a type with members is a receiver of these: if it is a wrapper, it is one of this
very type. -/
lemma Store.HasInstance.receiverAt (hr : reg.Consistent) (h : st.HasInstance reg shape target)
    (hderives : shape.derivesFrom targetType = true) (howns : reg.Owns targetType)
    (hknows : plan.Knows target) (hbehind : target.ref? = some r) :
    ReceiverAt reg plan targetType target r := by
  obtain ⟨e, he, rfl⟩ := id h.known
  have hancestor := List.contains_iff_mem.mp hderives
  have hshape := h.shape?_eq
  cases target with
  | object s q =>
    cases hshape
    cases hbehind
    exact .object h.known hancestor (hknows _ rfl)
  | wrapped s q =>
    cases hshape
    cases hbehind
    have hlevels : e.ancestors = [e.id, TypeId.object] := hr.value he h.value.symm
    rcases List.mem_pair.mp (hlevels ▸ hancestor) with rfl | rfl
    · exact .wrapper h.known rfl (hknows _ rfl)
    · cases howns.1
  | struct s fields => cases hbehind
  | _ => cases hshape

section Ever

variable (hever : ∀ {t d}, reg.get? t = some d → ever.get? t = some d)
include hever

lemma Registry.HasShape.mono (h : reg.HasShape shape) : ever.HasShape shape := by
  obtain ⟨d, hd, hshape⟩ := h
  exact ⟨d, hever hd, hshape⟩

lemma Registry.Along.mono (h : reg.Along sourceType m) : ever.Along sourceType m := by
  obtain ⟨levels, ⟨d, hd, hlevels⟩, e, he, hm⟩ := h
  refine ⟨levels, ⟨d, hever hd, ?_⟩, e, he, hm⟩
  rw [← hlevels]
  refine List.map_congr_left fun a ha => ?_
  obtain ⟨b, -, hb⟩ := List.mem_map.mp (hlevels ▸ List.mem_map_of_mem ha)
  rw [← hb, hever hb.symm]

lemma Registry.ReceiverAt.mono (h : ReceiverAt reg plan targetType target r) :
    ReceiverAt ever plan targetType target r := by
  cases h with
  | object hs htarget hr => exact .object (hs.mono hever) htarget hr
  | wrapper hs hid hr => exact .wrapper (hs.mono hever) hid hr

lemma Registry.isValueType_mono {t : TypeId} (h : reg.isValueType t = true) :
    ever.isValueType t = true := by
  rw [isValueType] at h ⊢
  cases hd : reg.get? t with
  | none =>
    rw [hd] at h
    cases h
  | some d =>
    rw [hd] at h
    rwa [hever hd]

end Ever

/-! ### The steps of a copier -/

/-- The step that a pair by slots is compiled to. -/
inductive Copier.SlotStep (reg : Registry) (d d' : Descriptor) :
    Member × Member → Getter × Setter → Prop where
  | mk {p : Member × Member} {i j : Nat} (hi : p.1.readSlot? = some i)
      (hj : p.2.writeSlot? = some j) :
      SlotStep reg d d' p (⟨some (.ofType d), .place (.receiver i)⟩,
        ⟨some (.ofType d'), .ofType reg p.2.valueType, .place (.receiver j)⟩)

/-- A copier of pairs by slots can be made. -/
lemma Copier.exists_steps (hv : reg.Valid next)
    (hd : reg.get? sourceType = some d) (hd' : reg.get? targetType = some d')
    (hpairs : ∀ p ∈ pairs, BySlots p ∧ reg.Along sourceType p.1 ∧ reg.Along targetType p.2) :
    ∃ steps, Copier.ofPairs reg sourceType targetType pairs = .ok ⟨steps⟩ ∧
      List.Forall₂ (SlotStep reg d d') pairs steps := by
  suffices ∃ steps, pairs.mapM (step reg sourceType targetType) = .ok steps ∧
      List.Forall₂ (SlotStep reg d d') pairs steps by
    obtain ⟨steps, hsteps, hforall⟩ := this
    exact ⟨steps, by rw [ofPairs, hsteps]; rfl, hforall⟩
  induction pairs with
  | nil => exact ⟨[], rfl, .nil⟩
  | cons p pairs ih =>
    obtain ⟨⟨hslots, halong, halong'⟩, hpairs⟩ := List.forall_mem_cons.mp hpairs
    obtain ⟨steps, hsteps, hforall⟩ := ih hpairs
    obtain ⟨i, hi⟩ := hslots.reads
    obtain ⟨j, hj⟩ := hslots.writes
    obtain ⟨e, he, -⟩ := halong.declares hv
    obtain ⟨e', he', -⟩ := halong'.declares hv
    have hgetter := Getter.ofMember_of_readSlot? hd he (hv.id he) hi
    have hsetter := Setter.ofMember_of_writeSlot? hd' he' (hv.id he') hj
    rw [Member.receiverGuard?, Member.place, hslots.ofInstances.1] at hgetter
    rw [Member.receiverGuard?, Member.place, hslots.ofInstances.2] at hsetter
    refine ⟨_, mapM_cons_of_ok ?_ hsteps, .cons (.mk hi hj) hforall⟩
    rw [step, hgetter, hsetter]
    rfl

/-- How a copy along pairs ends: all values fit and all pairs have been copied; or the first value
that does not fit is refused, and the pairs before it have been copied. -/
inductive Copier.Ends (reg : Registry) (st : Store) (source : Value) (r : Ref)
    (pairs : List (Member × Member)) : EStateM.Result Fault State Unit → Prop where
  | done {t : State} (hfits : ∀ p ∈ pairs, st.Fits reg source p)
      (h : st.Copied reg source r pairs t.store) : Ends reg st source r pairs (.ok () t)
  | stopped {before : List (Member × Member)} {p : Member × Member}
      {after : List (Member × Member)} {v : Value} {t : State}
      (hpairs : pairs = before ++ p :: after) (hfits : ∀ q ∈ before, st.Fits reg source q)
      (hv : st.Offers source p.1 v) (hnot : ¬ reg.Takes p.2 v)
      (h : st.Copied reg source r before t.store) :
      Ends reg st source r pairs (.error (.mismatch (reg.nameOf p.2.valueType) v.typeName) t)

/-- So the copy succeeds exactly if all values fit. -/
lemma Copier.Ends.ok_iff {res : EStateM.Result Fault State Unit}
    (h : Ends reg st source r pairs res) :
    (∃ t, res = .ok () t) ↔ ∀ p ∈ pairs, st.Fits reg source p := by
  cases h with
  | done hfits => exact ⟨fun _ => hfits, fun _ => ⟨_, rfl⟩⟩
  | stopped hpairs _ hv hnot =>
    refine ⟨?_, fun hfits => absurd (hfits _ (hpairs ▸ by simp) _ hv) hnot⟩
    rintro ⟨t, ht⟩
    cases ht

namespace Store.Apart

variable {st₀ : Store} (h : st.Apart reg plan sourceType targetType source target r)
include h

lemma lt_nextRef : r < st.nextRef := by
  have htenant := h.target r h.behind
  have hbehind := h.behind
  cases target with
  | object | wrapped | array => exact h.arranged.lt_nextRef htenant
  | _ => cases hbehind

/-- What it is copied to is a receiver of every member that is written. -/
lemma receiverAt (hr : reg.Consistent) (hvalid : reg.Valid next)
    (hm : reg.Along targetType m) : ReceiverAt reg plan targetType target r := by
  obtain ⟨shape, htarget, hderives⟩ := h.ofTarget
  exact htarget.receiverAt hr hderives (hm.owns hvalid) h.target h.behind

section Past

variable (hv : ever.Settled st₀) (hever : ∀ {t d}, reg.get? t = some d → ever.get? t = some d)
include hv hever

/-- The source has a value for every member that it is read through. -/
lemma exists_offers (hm : reg.Along sourceType m) (hinstance : m.isStatic = false)
    (hi : m.readSlot? = some i) : ∃ v, st.readSlot source i = .ok v := by
  obtain ⟨shape, hsource, hderives⟩ := h.ofSource
  have hm := hm.mono hever
  obtain ⟨d, e, hd, -⟩ := hv.archive.exists_declaring hm
  have hlt := hv.slot_lt hm hd hinstance (Member.mem_slots_of_readSlot? hi)
  have hsource' : st.HasInstance ever shape source :=
    ⟨hsource.shape?_eq, hsource.known.mono hever, hsource.value, hsource.slots⟩
  exact exists_readSlot hv hsource' hderives hd hlt

lemma slot_lt (hto : ReceiverAt reg plan targetType target r) (hm : reg.Along targetType m)
    (hinstance : m.isStatic = false) (hi : m.writeSlot? = some i) : i < (st.cell r).length :=
  (hto.mono hever).slot_lt hv (hm.mono hever) hinstance
    (Member.mem_slots_of_writeSlot? hi) h.arranged

/-- What is stored of a value does not depend on what has been copied before. -/
lemma toStored_eq (hto : ReceiverAt reg plan targetType target r)
    (hcopied : st.Copied reg source r before st') (hm : reg.Along targetType m)
    (hinstance : m.isStatic = false) (hi : m.writeSlot? = some i) {j : Nat}
    (hread : st.readSlot source j = .ok v) (hfits : reg.Takes m v) :
    st'.toStored (reg.isValueType m.valueType) v =
      st.toStored (reg.isValueType m.valueType) v := by
  cases hvalue : reg.isValueType m.valueType with
  | false => rfl
  | true =>
    cases v with
    | wrapped shape q =>
      -- the wrapper has a cell of its own, since no type stores its own instances
      have hstored := Member.storedType_of_writeSlot? hi
      rw [Registry.Takes, hvalue, ← hstored] at hfits
      have hne : q ≠ r := hv.ref?_ne (hm.mono hever) hinstance (Member.mem_slots_of_writeSlot? hi)
        (hto.mono hever) (h.known j _ hread q rfl)
        (hstored ▸ isValueType_mono hever hvalue) hfits
      exact congrArg (Value.struct shape) (hcopied.cell_of_ne hne)
    | _ => rfl

section Steps

variable (hr : reg.Consistent) (hvalid : reg.Valid next) (hid : d.id = sourceType)
  (hid' : d'.id = targetType)
include hr hvalid hid hid'

/-- A step copies its pair if the value fits, and refuses it otherwise. Whatever has been copied
before, it gets the value that the source had at first. -/
lemma run_step (hp : BySlots p) (hm : reg.Along sourceType p.1) (hm' : reg.Along targetType p.2)
    {getter : Getter} {setter : Setter} (hstep : Copier.SlotStep reg d d' p (getter, setter))
    (ctx : Context) {u : State} (hcopied : st.Copied reg source r before u.store) :
    ∃ v, st.Offers source p.1 v ∧ getter.run ctx source u = .ok v u ∧
      ((reg.Takes p.2 v ∧ ∃ t, setter.run ctx target v u = .ok () t ∧
          st.Copied reg source r (before ++ [p]) t.store) ∨
        (¬ reg.Takes p.2 v ∧ setter.run ctx target v u =
          .error (.mismatch (reg.nameOf p.2.valueType) v.typeName) u)) := by
  cases hstep with
  | @mk i j hi hj =>
    obtain ⟨shape, hsource, hderives⟩ := h.ofSource
    obtain ⟨hinstance, hinstance'⟩ := hp.ofInstances
    obtain ⟨v, hread⟩ := h.exists_offers hv hever hm hinstance hi
    have hoffers : st.Offers source p.1 v := ⟨i, hi, hread⟩
    have hto := h.receiverAt hr hvalid hm'
    have hlt := h.slot_lt hv hever hto hm' hinstance' hj
    have hrun := hto.run_setter hid'
      ((hcopied.length_cell h.lt_nextRef).symm ▸ hlt) ctx reg p.2.valueType v
    refine ⟨v, hoffers, ?_, ?_⟩
    · -- the source is not what has been written so far, so it reads as it did in the beginning
      have hsame := Store.readSlot_congr (hcopied.instances source h.apart) i
      rw [Getter.run_eq (check_of_derivesFrom hr hsource hderives hid), hsame, hread]
      rfl
    · by_cases hfits : v.isAssignableTo p.2.valueType (reg.isValueType p.2.valueType) = true
      · rw [if_pos hfits] at hrun
        refine .inl ⟨hfits, _, hrun, ?_⟩
        rw [h.toStored_eq hv hever hto hcopied hm' hinstance' hj hread hfits]
        exact hcopied.snoc h.lt_nextRef hj hlt hoffers
      · rw [if_neg hfits] at hrun
        exact .inr ⟨hfits, hrun⟩

/-- So the steps copy their pairs in turn, up to the first value that does not fit. -/
lemma run_steps {steps : List (Getter × Setter)}
    (hsteps : List.Forall₂ (Copier.SlotStep reg d d') pairs steps)
    (hpairs : ∀ p ∈ pairs, BySlots p ∧ reg.Along sourceType p.1 ∧ reg.Along targetType p.2)
    (ctx : Context) {u : State} (hcopied : st.Copied reg source r before u.store)
    (hbefore : ∀ p ∈ before, st.Fits reg source p) :
    Copier.Ends reg st source r (before ++ pairs) (Copier.runEach ctx source target steps u) := by
  induction hsteps generalizing before u with
  | nil =>
    rw [List.append_nil]
    exact .done hbefore hcopied
  | @cons p step pairs steps hstep _ ih =>
    obtain ⟨getter, setter⟩ := step
    obtain ⟨⟨hslots, hm, hm'⟩, hpairs⟩ := List.forall_mem_cons.mp hpairs
    obtain ⟨v, hoffers, hget, hset⟩ :=
      h.run_step hv hever hr hvalid hid hid' hslots hm hm' hstep ctx hcopied
    have hrun : Copier.runEach ctx source target ((getter, setter) :: steps) u =
        (setter.run ctx target v >>= fun _ => Copier.runEach ctx source target steps) u :=
      bind_eq_of_ok hget
    -- the copy goes on, or stops with what it has copied
    rcases hset with ⟨hfits, t, hset, ht⟩ | ⟨hnot, hset⟩
    · have hp : st.Fits reg source p := fun w hw => hoffers.unique hw ▸ hfits
      rw [hrun, bind_eq_of_ok hset, List.append_cons]
      refine ih hpairs ht fun q hq => ?_
      rcases List.mem_append.mp hq with hq | hq
      · exact hbefore q hq
      · exact List.mem_singleton.mp hq ▸ hp
    · rw [hrun, bind_eq_of_error hset]
      exact .stopped rfl hbefore hoffers hnot hcopied

end Steps

end Past

end Store.Apart

/-! ### The copy -/

/-- In every session that can be reached: where all pairs of two types go by slots of instances, a
copier of them can be made. From an instance of the one type it copies to another instance, of the
other type. It succeeds exactly if each value fits the member it is copied to. Then each slot that
is named holds the value that the last pair for it has read, or the copy of this value where a value
type is declared, and all else in the store is as it was. Otherwise the first value that does not
fit is refused, and exactly the pairs before it have been copied. -/
theorem Session.copied_slots {gone : List TypeId} {s : Session} {o : CopyOptions} {u : State}
    (h : Reached gone s) (hpairs : s.registry.copyPairs sourceType targetType o = .ok pairs)
    (hslots : ∀ p ∈ pairs, BySlots p)
    (hu : u.store.Apart s.registry plan sourceType targetType source target r) (ctx : Context) :
    ∃ copier, Copier.ofPairs s.registry sourceType targetType pairs = .ok copier ∧
      (∀ p ∈ pairs, ∃ v, u.store.Offers source p.1 v) ∧
      ((∃ t, copier.run ctx source target u = .ok () t) ↔
        ∀ p ∈ pairs, u.store.Fits s.registry source p) ∧
      Copier.Ends s.registry u.store source r pairs (copier.run ctx source target u) := by
  obtain ⟨ever, st₀, hv, hever⟩ := h.exists_ever
  obtain ⟨all, found, hall, hfound, -⟩ := exists_of_copyPairs hpairs
  obtain ⟨levels, d, hd, -⟩ := exists_chain_of_findAll hall
  obtain ⟨levels', d', hd', -⟩ := exists_chain_of_findAll hfound
  have hknown : ∀ p ∈ pairs, BySlots p ∧ s.registry.Along sourceType p.1 ∧
      s.registry.Along targetType p.2 :=
    fun p hp => ⟨hslots p hp, along_of_copyPairs hpairs p hp⟩
  have hvalid := h.sound.valid
  obtain ⟨steps, hmade, hsteps⟩ := Copier.exists_steps hvalid hd hd' hknown
  have hends := hu.run_steps hv hever h.consistent hvalid (hvalid.id hd) (hvalid.id hd') hsteps
    hknown ctx (.refl u.store s.registry source r) (fun _ hp => absurd hp List.not_mem_nil)
  refine ⟨⟨steps⟩, hmade, fun p hp => ?_, hends.ok_iff, hends⟩
  obtain ⟨hp, hm, -⟩ := hknown p hp
  obtain ⟨i, hi⟩ := hp.reads
  obtain ⟨v, hread⟩ := hu.exists_offers hv hever hm hp.ofInstances.1 hi
  exact ⟨v, i, hi, hread⟩

/-! ### Two pairs for one slot -/

/-- A value type, another one with two fields whose names differ in their case, and a type with a
field that has this name as well. -/
def crowdedSession : Session :=
  let s := (({} : Session).step (.register
    { name := "Point", isValueType := true
      members := [.field { name := "x", type := TypeId.int }] })).2
  let s := (s.step (.register
    { name := "Draft", isValueType := true
      members := [.field { name := "AT", type := ⟨64⟩ },
        .field { name := "at", type := TypeId.object }] })).2
  (s.step (.register
    { name := "Place"
      members := [.field { name := "at", type := ⟨64⟩ },
        .field { name := "size", type := TypeId.int }] })).2

def draftShape : Shape :=
  ⟨⟨65⟩, "Draft", some TypeId.object, true, [⟨65⟩, TypeId.object], ["AT", "at"], []⟩

def placeShape : Shape :=
  ⟨⟨66⟩, "Place", some TypeId.object, false, [⟨66⟩, TypeId.object], ["at", "size"], []⟩

/-- A field of the session. -/
def crowdedField (name : String) (declaring valueType : TypeId) (slot : Nat) : Member where
  name
  declaring
  isStatic := false
  visibility := .declaring
  params := []
  valueType
  isSynthesized := false
  body := .field slot false

/-- Both fields of the one type are copied to the same field of the other. -/
def crowdedPairs : List (Member × Member) :=
  [(crowdedField "AT" ⟨65⟩ ⟨64⟩ 0, crowdedField "at" ⟨66⟩ ⟨64⟩ 0),
    (crowdedField "at" ⟨65⟩ TypeId.object 1, crowdedField "at" ⟨66⟩ ⟨64⟩ 0)]

/-- An object and a wrapper of the first value type. -/
def crowdedState : State where
  store := { cells := [[.struct pointShape [.int 0], .int 5], [.int 7]] }

def crowdedPlan : Plan := [.object placeShape, .wrapper pointShape]

/-- A copy of the second value type, which holds the wrapper in its second field. -/
def draft : Value := .struct draftShape [.struct pointShape [.int 1], .wrapped pointShape 1]

lemma reached_crowdedSession : Session.Reached [] crowdedSession :=
  (((Session.Reached.start {}).step_register (by decide)).step_register (by decide)).step_register
    (by decide)

lemma apart_crowdedState : crowdedState.store.Apart crowdedSession.registry crowdedPlan ⟨65⟩ ⟨66⟩
    draft (.object placeShape 0) 0 where
  arranged := by
    refine ⟨rfl, fun {r tenant shape} hr hshape => ?_⟩
    match r with
    | 0 => cases hr; cases hshape; rfl
    | 1 => cases hr; cases hshape; rfl
    | r + 2 => cases hr
  ofSource := ⟨draftShape, ⟨rfl, ⟨_, rfl, rfl⟩, rfl, _, rfl, rfl⟩, rfl⟩
  ofTarget := ⟨placeShape, ⟨rfl, ⟨_, rfl, rfl⟩, rfl, _, rfl, rfl⟩, rfl⟩
  behind := rfl
  target := by rintro _ ⟨⟩; rfl
  apart := by rintro ⟨⟩
  known := by
    intro i v hread
    match i with
    | 0 => cases hread; exact fun _ hr => by cases hr
    | 1 => cases hread; rintro _ ⟨⟩; rfl
    | i + 2 => cases hread

/-- The slot holds what the second pair has copied: the wrapper, unwrapped. The other slot of the
object holds what it held. -/
theorem Session.copied_slots_crowdedSession : ∃ copier t,
    Reached [] crowdedSession ∧
    crowdedSession.registry.copyPairs ⟨65⟩ ⟨66⟩ { flags := { Flags.instanceAny with
      ignoreCase := true } } = .ok crowdedPairs ∧
    (∀ p ∈ crowdedPairs, BySlots p) ∧
    crowdedState.store.Apart crowdedSession.registry crowdedPlan ⟨65⟩ ⟨66⟩ draft
      (.object placeShape 0) 0 ∧
    Copier.ofPairs crowdedSession.registry ⟨65⟩ ⟨66⟩ crowdedPairs = .ok copier ∧
    copier.run crowdedSession.binder.toContext draft (.object placeShape 0) crowdedState =
      .ok () t ∧
    (t.store.cell 0)[0]? = some (.struct pointShape [.int 7]) ∧
    (t.store.cell 0)[1]? = some (.int 5) := by
  have hpairs : crowdedSession.registry.copyPairs ⟨65⟩ ⟨66⟩ { flags := { Flags.instanceAny with
      ignoreCase := true } } = .ok crowdedPairs := by rfl
  have hslots : ∀ p ∈ crowdedPairs, BySlots p := by
    simp only [crowdedPairs, List.forall_mem_cons]
    exact ⟨⟨⟨rfl, rfl⟩, ⟨_, rfl⟩, ⟨_, rfl⟩⟩, ⟨⟨rfl, rfl⟩, ⟨_, rfl⟩, ⟨_, rfl⟩⟩, by simp⟩
  obtain ⟨copier, hmade, -, hok, hends⟩ := copied_slots reached_crowdedSession hpairs hslots
    apart_crowdedState crowdedSession.binder.toContext
  have hfits : ∀ p ∈ crowdedPairs, crowdedState.store.Fits crowdedSession.registry draft p := by
    simp only [crowdedPairs, List.forall_mem_cons]
    exact ⟨fun v hv => hv.unique ⟨0, rfl, rfl⟩ ▸ rfl, fun v hv => hv.unique ⟨1, rfl, rfl⟩ ▸ rfl,
      by simp⟩
  obtain ⟨t, ht⟩ := hok.mpr hfits
  refine ⟨copier, t, reached_crowdedSession, hpairs, hslots, apart_crowdedState, hmade, ht, ?_⟩
  rw [ht] at hends
  cases hends with
  | done _ hcopied =>
    have hsplit : crowdedPairs = [crowdedPairs[0]] ++ crowdedPairs[1] :: [] := rfl
    exact ⟨hcopied.last hsplit rfl (by simp) ⟨1, rfl, rfl⟩,
      (hcopied.untouched (i := 1) (by decide)).trans rfl⟩

end LateBinding
