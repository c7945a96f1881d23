import LateBinding.Proofs.Registry.Slots

/-!
# Members along a chain

A member that is declared along the chain of a type stores what it stores in one of the fields of
the chain, and the chain of an ancestor is the end of the chain of the type.
-/

namespace LateBinding

namespace LaidOut

variable {d : Descriptor} {levels : List Descriptor} {m : Member} {i : Nat}

lemma exists_laidOver (h : LaidOut levels) (hd : d ∈ levels) (hm : m ∈ d.members) :
    ∃ statics base, (d.layout statics).LaidOver base := by
  induction h with
  | root h =>
    obtain rfl := List.mem_singleton.mp hd
    rw [h.members] at hm
    cases hm
  | derived _ h ih =>
    rcases List.mem_cons.mp hd with rfl | hd
    · obtain ⟨statics, hlaid⟩ := h.laid
      exact ⟨statics, _, hlaid⟩
    · exact ih hd

/-- What can be written along a chain can be read, from the same slot. -/
lemma readSlot?_of_writeSlot? (h : LaidOut levels) (hd : d ∈ levels) (hm : m ∈ d.members)
    (hw : m.writeSlot? = some i) : m.readSlot? = some i := by
  obtain ⟨_, _, hlaid⟩ := h.exists_laidOver hd hm
  exact hlaid.grouped.readSlot?_of_writeSlot? hm hw

/-- A field along a chain stands at the position of its slot. -/
lemma getElem?_of_slot (h : LaidOut levels) (hd : d ∈ levels) {f : Member}
    (hf : f ∈ fieldsOf false d.members) (hi : f.fieldSlot? = some i) :
    (chainFields levels)[i]? = some f := by
  have hmem : f ∈ chainFields levels := List.mem_flatMap.mpr ⟨d, List.mem_reverse.mpr hd, hf⟩
  cases levels with
  | nil => cases hd
  | cons e farther => exact h.occupy.getElem?_of_slot hmem (by rw [hi, Nat.zero_add])

/-- The field of the chain at the position of a slot has this slot, and what an instance member of
the chain stores there is in this field. -/
lemma storedIn (h : LaidOut levels) (hd : d ∈ levels) (hm : m ∈ d.members)
    (hinstance : m.isStatic = false) (hi : i ∈ m.slots) :
    ∃ f, (chainFields levels)[i]? = some f ∧ m.StoredIn f i := by
  obtain ⟨_, _, hlaid⟩ := h.exists_laidOver hd hm
  obtain ⟨f, hf, hstored⟩ := hlaid.grouped.exists_storedIn hm hi
  exact ⟨f, h.getElem?_of_slot hd (hinstance ▸ hf) hstored.slot, hstored⟩

/-- What a static member stores is in a static field of the type that declares it. -/
lemma storedIn_static (h : LaidOut levels) (hd : d ∈ levels) (hm : m ∈ d.members)
    (hstatic : m.isStatic = true) (hi : i ∈ m.slots) :
    ∃ f, (fieldsOf true d.members)[i]? = some f ∧ m.StoredIn f i := by
  obtain ⟨_, _, hlaid⟩ := h.exists_laidOver hd hm
  obtain ⟨f, hf, hstored⟩ := hlaid.grouped.exists_storedIn hm hi
  refine ⟨f, hlaid.statics.getElem?_of_slot (hstatic ▸ hf) ?_, hstored⟩
  rw [hstored.slot, Nat.zero_add]

end LaidOut

namespace Registry

variable {reg : Registry} {st : Store} {type a : TypeId} {d : Descriptor}
  {levels levels' : List Descriptor} {m : Member}

/-- The member is declared by the type or one of its ancestors. -/
def Along (reg : Registry) (type : TypeId) (m : Member) : Prop :=
  ∃ levels, reg.Chain type levels ∧ ∃ d ∈ levels, m ∈ d.members

/-- The shape is that of a known type. -/
def HasShape (reg : Registry) (shape : Shape) : Prop :=
  ∃ d, reg.get? shape.id = some d ∧ d.toShape = shape

namespace Archive

variable {ever : Registry}

lemma laidOut_of_chain (h : Archive ever reg st) (hc : ever.Chain type levels) :
    ∃ d farther, ever.get? type = some d ∧ levels = d :: farther ∧ LaidOut levels := by
  obtain ⟨d, hd, -⟩ := id hc
  obtain ⟨farther, hc', hlaid⟩ := h.laidOut hd
  obtain rfl := hc.unique hc'
  exact ⟨d, farther, hd, rfl, hlaid⟩

/-- The type that a member along a chain names as its own is known and declares it. -/
lemma exists_declaring (h : Archive ever reg st) (hm : ever.Along type m) :
    ∃ d e, ever.get? type = some d ∧ ever.get? m.declaring = some e ∧ e.id = m.declaring ∧
      m ∈ e.members := by
  obtain ⟨levels, hc, e, he, hmem⟩ := hm
  obtain ⟨d, farther, hd, -, -⟩ := h.laidOut_of_chain hc
  have hknown := h.get?_of_mem_chain hc he
  have hdeclaring := h.valid.declaring hknown hmem
  exact ⟨d, e, hd, hdeclaring ▸ hknown, hdeclaring.symm, hmem⟩

/-- The chain of an ancestor is the end of the chain. -/
lemma chain_of_ancestor (h : Archive ever reg st) (hd : ever.get? type = some d)
    (ha : a ∈ d.ancestors) (hc : ever.Chain type levels) (hc' : ever.Chain a levels') :
    levels' <:+ levels := by
  obtain ⟨e, farther, he, rfl, hlaid⟩ := h.laidOut_of_chain hc
  obtain rfl := Option.some.inj (hd.symm.trans he)
  rw [hlaid.ancestors_eq] at ha
  obtain ⟨b, hb, rfl⟩ := List.mem_map.mp ha
  obtain ⟨nearer, rest, hsplit⟩ := List.append_of_mem hb
  have hend : b :: rest <:+ d :: farther := ⟨nearer, hsplit.symm⟩
  have hmap := (hlaid.within hend).1.ancestors_eq
  have hchain : ever.Chain b.id (b :: rest) := by
    refine ⟨b, h.get?_of_mem_chain hc hb, ?_⟩
    rw [hmap, List.map_map]
    exact List.map_congr_left fun c hc' => h.get?_of_mem_chain hc (hend.subset hc')
  rw [hc'.unique hchain]
  exact hend

end Archive

end Registry

end LateBinding
