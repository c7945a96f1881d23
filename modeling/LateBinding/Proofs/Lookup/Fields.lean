import LateBinding.Proofs.Lookup.Nearest
import LateBinding.Proofs.Lookup.Overload
import LateBinding.Proofs.Registry.Along
import LateBinding.Proofs.Registry.Twins

/-!
# Fields by name

A search for an instance field of a given name takes the nearest level that declares one, and is
ambiguous if this level declares several. The layout of the searched type takes the last of all its
slots with the name. Wherever the search decides for a field, the two mean the same one.

Main statement: `find_ofField`.
-/

namespace LateBinding

/-! ### Positions of names -/

section LastIndex

variable {name : String} {names before after : List String}

lemma lastIndex?_eq_none (h : name ∉ names) : lastIndex? name names = none := by
  induction names with
  | nil => rfl
  | cons n names ih =>
    rw [List.mem_cons, not_or] at h
    rw [lastIndex?, ih h.2]
    exact if_neg (Ne.symm h.1)

/-- What stands after the last occurrence does not matter. -/
lemma lastIndex?_append_cons (h : name ∉ after) :
    lastIndex? name (before ++ name :: after) = some before.length := by
  induction before with
  | nil =>
    rw [List.nil_append, lastIndex?, lastIndex?_eq_none h]
    exact if_pos rfl
  | cons n before ih => rw [List.cons_append, lastIndex?, ih, List.length_cons]

lemma lastIndex?_lt {i : Nat} (h : lastIndex? name names = some i) : i < names.length := by
  induction names generalizing i with
  | nil => cases h
  | cons n names ih =>
    rw [lastIndex?] at h
    split at h
    · cases h
      exact Nat.succ_lt_succ (ih ‹_›)
    · split at h <;> cases h
      exact Nat.succ_pos _

end LastIndex

/-! ### Fields -/

namespace Query

/-- The instance fields of a name, whoever may see them. -/
def ofField (name : String) : Query where
  kinds := .single .field
  name := some name
  flags := .instanceAny

lemma wants_ofField {name : String} {i : Nat} {m : Member} :
    (ofField name).Wants reg i m ↔ m.kind = .field ∧ m.isStatic = false ∧ m.name = name := by
  constructor
  · intro h
    refine ⟨?_, ?_, ?_⟩
    · simpa [ofField, eq_comm] using h.kind
    · simpa [ofField, Flags.acceptsScope, Flags.instanceAny] using h.scope
    · simpa [ofField, Flags.nameMatches, Flags.fold, Flags.trim, Flags.instanceAny]
        using h.name name rfl
  · rintro ⟨hkind, hstatic, rfl⟩
    refine ⟨nofun, fun hc => ?_, ?_, ?_, ?_, ?_, nofun, rfl⟩
    · rw [hkind] at hc
      cases hc
    · simp [ofField, hkind]
    · rw [hstatic]
      rfl
    · cases m.isPublic <;> rfl
    · rintro _ ⟨⟩
      simp [ofField, Flags.nameMatches, Flags.fold, Flags.trim, Flags.instanceAny]

end Query

/-- The instance fields of a name that a type itself declares. -/
def Descriptor.fieldsNamed (d : Descriptor) (name : String) : List Member :=
  (fieldsOf false d.members).filter (·.name = name)

lemma Descriptor.mem_fieldsNamed {d : Descriptor} {name : String} {m : Member} :
    m ∈ d.fieldsNamed name ↔
      m ∈ d.members ∧ m.kind = .field ∧ m.isStatic = false ∧ m.name = name := by
  simp [fieldsNamed, mem_fieldsOf, and_assoc]

lemma Descriptor.name_ne_of_fieldsNamed_eq_nil {d : Descriptor} {name : String} {m : Member}
    (h : d.fieldsNamed name = []) (hm : m ∈ fieldsOf false d.members) : m.name ≠ name := by
  intro hname
  have hmem : m ∈ d.fieldsNamed name := List.mem_filter.mpr ⟨hm, decide_eq_true hname⟩
  rw [h] at hmem
  cases hmem

lemma Query.not_wants_ofField {reg : Registry} {d : Descriptor} {name : String} {m : Member}
    (h : d.fieldsNamed name = []) (hm : m ∈ d.members) (i : Nat) :
    ¬ (ofField name).Wants reg i m := by
  intro hw
  have hmem := Descriptor.mem_fieldsNamed.mpr ⟨hm, wants_ofField.mp hw⟩
  rw [h] at hmem
  cases hmem

lemma Query.filter_wants_ofField {reg : Registry} {d : Descriptor} {name : String} (i : Nat) :
    d.members.filter ((ofField name).Wants reg i ·) = d.fieldsNamed name := by
  rw [Descriptor.fieldsNamed, fieldsOf, List.filter_filter]
  refine List.filter_congr fun m _ => ?_
  rw [Bool.eq_iff_iff, decide_eq_true_eq, wants_ofField]
  simp [and_comm, and_left_comm, and_assoc]

/-- The nearest fields of a name are those of the first level that has some. -/
lemma Query.nearest_ofField {reg : Registry} {nearer rest : List Descriptor} {e : Descriptor}
    {name : String} (hnearer : ∀ b ∈ nearer, b.fieldsNamed name = [])
    (he : e.fieldsNamed name ≠ []) :
    nearest ((ofField name).listed reg (nearer ++ e :: rest)) =
      (e.fieldsNamed name).map (⟨nearer.length, ·⟩) := by
  have hwanted : e.members.filter ((ofField name).Wants reg nearer.length ·) =
      e.fieldsNamed name := filter_wants_ofField nearer.length
  rw [← hwanted] at he ⊢
  refine nearest_listed (fun level hlevel m hm => ?_) he
  exact not_wants_ofField (hnearer _ (List.fst_mem_of_mem_zipIdx hlevel)) hm level.2

/-! ### The search and the layout -/

namespace Registry

variable {reg : Registry} {type : TypeId} {d : Descriptor} {farther : List Descriptor}
  {next : TypeId}

/-- A field that is the only one of its name in its type has no twin. -/
lemma sole_of_fieldsNamed (hv : reg.Valid next) {e : Descriptor} {m : Member} {t : TypeId}
    (he : reg.get? t = some e) (hm : e.fieldsNamed m.name = [m]) : reg.Sole m := by
  have hmem := Descriptor.mem_fieldsNamed.mp (hm ▸ List.mem_singleton_self m)
  intro n hn hdeclaring hmark
  obtain ⟨e', he', hne⟩ := hn
  rw [hdeclaring, hv.declaring he hmem.1] at he'
  obtain rfl := Option.some.inj (he.symm.trans he')
  simp only [Member.mark, Prod.mk.injEq] at hmark
  have hn : n ∈ e.fieldsNamed m.name := Descriptor.mem_fieldsNamed.mpr
    ⟨hne, hmark.1.trans hmem.2.1, hmark.2.2.2.trans hmem.2.2.1, hmark.2.1⟩
  rw [hm] at hn
  exact List.mem_singleton.mp hn

/-- If the nearest level with fields of a name has one of them, the layout means this one. -/
lemma slot?_of_fieldsNamed {nearer rest : List Descriptor} {e : Descriptor} {m : Member}
    (hlaid : LaidOut (d :: farther)) (hsplit : d :: farther = nearer ++ e :: rest)
    (hnearer : ∀ b ∈ nearer, b.fieldsNamed m.name = []) (hm : e.fieldsNamed m.name = [m]) :
    ∃ i, m.fieldSlot? = some i ∧ d.slot? m.name = some i := by
  obtain ⟨before, after, hfields, -, -, hafter⟩ := List.filter_eq_cons_iff.mp hm
  -- all fields of the chain, the root's first, with the field in question in between
  have hchain : chainFields (d :: farther) =
      (chainFields rest ++ before) ++ m :: (after ++ chainFields nearer) := by
    rw [hsplit, chainFields, List.reverse_append, List.flatMap_append, ← chainFields,
      ← chainFields, chainFields_cons, hfields]
    simp
  have hoccupy := hlaid.occupy
  have hlast : m.name ∉ (after ++ chainFields nearer).map (·.name) := by
    rintro hmem
    obtain ⟨f, hf, hname⟩ := List.mem_map.mp hmem
    rcases List.mem_append.mp hf with hf | hf
    · exact List.filter_eq_nil_iff.mp hafter f hf (decide_eq_true hname)
    · obtain ⟨b, hb, hf⟩ := List.mem_flatMap.mp hf
      have hnone := hnearer b (List.mem_reverse.mp hb)
      exact Descriptor.name_ne_of_fieldsNamed_eq_nil hnone hf hname
  refine ⟨(chainFields rest ++ before).length, ?_, ?_⟩
  · rw [hoccupy.slot (i := (chainFields rest ++ before).length), Nat.zero_add]
    rw [hchain, List.getElem?_append_right (Nat.le_refl _), Nat.sub_self]
    rfl
  · rw [Shape.slot?, ← hoccupy.map_name, hchain, List.map_append, List.map_cons,
      lastIndex?_append_cons hlast, List.length_map]

/-- If no level has a field of a name, the layout has no slot with it. -/
lemma slot?_of_forall_fieldsNamed {name : String} (hlaid : LaidOut (d :: farther))
    (hnone : ∀ b ∈ d :: farther, b.fieldsNamed name = []) : d.slot? name = none := by
  refine lastIndex?_eq_none ?_
  rw [← hlaid.occupy.map_name]
  intro hmem
  obtain ⟨f, hf, hname⟩ := List.mem_map.mp hmem
  obtain ⟨b, hb, hf⟩ := List.mem_flatMap.mp hf
  have hnone := hnone b (List.mem_reverse.mp hb)
  exact Descriptor.name_ne_of_fieldsNamed_eq_nil hnone hf hname

/-- How a search for a field ends along a chain of layouts: it decides for the field whose slot the
layout of the searched type means by the name; or there is no such field and no such slot; or it is
ambiguous. -/
lemma find_ofField (hv : reg.Valid next) (hc : reg.Chain type (d :: farther))
    (hlaid : LaidOut (d :: farther)) (name : String) :
    (∃ m i, reg.find type (.ofField name) = .ok m ∧ reg.Sole m ∧ m.isStatic = false ∧
        m.fieldSlot? = some i ∧ d.slot? name = some i) ∨
      (reg.find type (.ofField name) =
          .error (.notFound (.member (.single .field)) name (reg.nameOf type)) ∧
        d.slot? name = none) ∨
      ∃ n, reg.find type (.ofField name) =
        .error (.ambiguous (.single .field) name (reg.nameOf type) n) := by
  have hdenotes := denotes_find hc (.ofField name)
  cases hfirst : (d :: farther).find? fun b => !(b.fieldsNamed name).isEmpty with
  | none =>
    have hall : ∀ b ∈ d :: farther, b.fieldsNamed name = [] := by
      simpa using List.find?_eq_none.mp hfirst
    have hlisted : (Query.ofField name).listed reg (d :: farther) = [] :=
      Query.listed_eq_nil fun level hlevel m hm =>
        Query.not_wants_ofField (hall _ (List.fst_mem_of_mem_zipIdx hlevel)) hm level.2
    exact Or.inr (Or.inl ⟨hdenotes.unique (.none hlisted), slot?_of_forall_fieldsNamed hlaid hall⟩)
  | some e =>
    obtain ⟨he, nearer, rest, hsplit, hnearer⟩ := List.find?_eq_some_iff_append.mp hfirst
    replace hnearer : ∀ b ∈ nearer, b.fieldsNamed name = [] := by simpa using hnearer
    have hnearest : Query.nearest ((Query.ofField name).listed reg (d :: farther)) =
        (e.fieldsNamed name).map (⟨nearer.length, ·⟩) := by
      rw [hsplit]
      exact Query.nearest_ofField hnearer (by simpa using he)
    cases hfields : e.fieldsNamed name with
    | nil => simp [hfields] at he
    | cons m ms =>
      rw [hfields] at hnearest
      cases ms with
      | nil =>
        obtain ⟨-, -, hinstance, rfl⟩ :=
          Descriptor.mem_fieldsNamed.mp (hfields ▸ List.mem_singleton_self m)
        have hmem : e ∈ d :: farther := by rw [hsplit]; simp
        obtain ⟨t, ht⟩ := hc.exists_get?_of_mem hmem
        obtain ⟨i, hi, hslot⟩ := slot?_of_fieldsNamed hlaid hsplit hnearer hfields
        exact Or.inl ⟨m, i, hdenotes.unique (.only rfl hnearest),
          sole_of_fieldsNamed hv ht hfields, hinstance, hi, hslot⟩
      | cons m' ms =>
        have hlength : 2 ≤ (Query.nearest
            ((Query.ofField name).listed reg (d :: farther))).length := by
          rw [hnearest]
          simp
        exact Or.inr (Or.inr ⟨_, hdenotes.unique (.ambiguous rfl hlength nofun)⟩)

end Registry

end LateBinding
