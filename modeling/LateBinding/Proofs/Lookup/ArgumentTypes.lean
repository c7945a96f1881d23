import LateBinding.Invoker.Guard
import LateBinding.Proofs.Lookup.Exactly
import LateBinding.Proofs.Registry.Along

/-!
# Argument types and arguments

The search asks the registry whether the types of arguments are assignable to parameters, and the
guard of an invoker asks the arguments themselves. For arguments of known types both say the same,
since the shape that an instance carries is that of its type, and a value type has no ancestor but
the root.

Main statements: `Member.admitsParams_iff_applicable`, `Member.applicable_iff_check`.
-/

namespace LateBinding

variable {reg : Registry} {next : TypeId} {v : Value} {p : Param} {m : Member} {q : Query}
  {arguments : List Value} {type : TypeId}

/-! ### One argument -/

/-- The value is not null, and its type is known and of the kind that the value is of. -/
def Value.Typed (reg : Registry) : Value → Prop
  | null => False
  | bool _ | int _ | float _ | str _ | array _ _ => True
  | object shape _ => reg.HasShape shape
  | struct shape _ | wrapped shape _ => reg.HasShape shape ∧ shape.isValueType = true

/-- The parameter that is passed a value by value, of just the type that the value has. -/
def Param.ofValue (v : Value) : Param := ⟨v.typeId, false⟩

namespace Value.Typed

lemma exists_get? (hv : reg.Valid next) (h : v.Typed reg) :
    ∃ d, reg.get? v.typeId = some d := by
  cases v with
  | null => exact h.elim
  | object => exact h.imp fun _ hd => hd.1
  | struct => exact h.1.imp fun _ hd => hd.1
  | wrapped => exact h.1.imp fun _ hd => hd.1
  | _ => exact ⟨_, (hv.builtin rfl).trans rfl⟩

lemma typeId_ne_any (hv : reg.Valid next) (h : v.Typed reg) : v.typeId ≠ TypeId.any := by
  intro hany
  obtain ⟨d, hd⟩ := h.exists_get? hv
  rw [hany, hv.get?_any] at hd
  cases hd

/-- The registry and the value give one answer. -/
lemma isAssignable_iff (hv : reg.Valid next) (hc : reg.Consistent) (h : v.Typed reg)
    (isValueType : Bool) :
    reg.isAssignable v.typeId type = true ↔ v.isAssignableTo type isValueType = true := by
  -- a copy and a wrapper have a value type, which derives from the root only
  have halone : ∀ {shape : Shape}, reg.HasShape shape → shape.isValueType = true →
      (reg.isAssignable shape.id type = true ↔
        (type == TypeId.object || type == TypeId.any || shape.id == type) = true) := by
    rintro shape ⟨d, hd, rfl⟩ hvalue
    exact Registry.isAssignable_iff_of_alone hd (hc.value hd hvalue)
  cases v with
  | null => exact h.elim
  | object shape =>
    obtain ⟨d, hd, rfl⟩ := h
    have hself : d.id ∈ d.ancestors := List.mem_of_head? (hc.head hd)
    rw [Value.typeId, Registry.isAssignable_iff, Value.isAssignableTo]
    simp only [Bool.or_eq_true, beq_iff_eq, Shape.derivesFrom, List.contains_iff_mem]
    constructor
    · rintro (hany | hobject | rfl | ⟨e, he, hmem⟩)
      · exact Or.inl (Or.inr hany)
      · exact Or.inl (Or.inl hobject)
      · exact Or.inr hself
      · exact Or.inr (Option.some.inj (hd.symm.trans he) ▸ hmem)
    · rintro ((hobject | hany) | hmem)
      · exact Or.inr (Or.inl hobject)
      · exact Or.inl hany
      · exact Or.inr (Or.inr (Or.inr ⟨d, hd, hmem⟩))
  | struct => exact halone h.1 h.2
  | wrapped => exact halone h.1 h.2
  | _ => exact Registry.isAssignable_iff_of_alone ((hv.builtin rfl).trans rfl) rfl

/-- An argument fits just where it may be put. -/
lemma admits_iff (hv : reg.Valid next) (hc : reg.Consistent) (h : v.Typed reg) :
    reg.admits (.ofValue v) p = true ↔
      p.byRef = false ∧ v.isAssignableTo p.type (reg.isValueType p.type) = true := by
  rw [← h.isAssignable_iff hv hc, Registry.admits, Param.ofValue, Bool.or_eq_true, beq_iff_eq,
    or_iff_right (h.typeId_ne_any hv), Bool.and_eq_true, Bool.not_eq_true']

end Value.Typed

/-! ### Lists of arguments -/

namespace Member

/-- The types of arguments fit a member just if the arguments can be passed to it. -/
lemma admitsParams_iff_applicable (hv : reg.Valid next) (hc : reg.Consistent)
    (harguments : ∀ v ∈ arguments, v.Typed reg) :
    reg.admitsParams m (arguments.map .ofValue) = true ↔ m.Applicable reg arguments := by
  rw [Registry.admitsParams, agree_iff_forall₂, List.forall₂_map_left_iff]
  exact forall₂_congr_of_mem fun v hmem _ => (harguments v hmem).admits_iff hv hc

/-- Parameters that are just the types of the arguments fit them. -/
lemma applicable_of_params_eq (hv : reg.Valid next) (hc : reg.Consistent)
    (harguments : ∀ v ∈ arguments, v.Typed reg) (h : m.params = arguments.map .ofValue) :
    m.Applicable reg arguments := by
  rw [← admitsParams_iff_applicable hv hc harguments, Registry.admitsParams, agree_iff_forall₂, h,
    List.forall₂_map_left_iff, List.forall₂_map_right_iff, List.forall₂_same]
  intro v hmem
  rw [Registry.admits, Bool.or_eq_true, Bool.and_eq_true]
  exact Or.inr ⟨rfl, reg.isAssignable_refl _⟩

end Member

/-- A list of arguments passes if there are as many of them as guards and each passes its own. -/
lemma ArgumentsGuard.check_eq_ok_iff {g : ArgumentsGuard} :
    g.check arguments = .ok () ↔
      List.Forall₂ (fun v guard => guard.check v = .ok ()) arguments g.params := by
  have heach : ∀ guards : List ValueGuard, arguments.length = guards.length →
      (checkEach guards arguments = .ok () ↔
        List.Forall₂ (fun v guard => guard.check v = .ok ()) arguments guards) := by
    induction arguments with
    | nil =>
      rintro (_ | ⟨guard, guards⟩) hlength
      · exact ⟨fun _ => .nil, fun _ => rfl⟩
      · cases hlength
    | cons v arguments ih =>
      rintro (_ | ⟨guard, guards⟩) hlength
      · cases hlength
      rw [checkEach, List.forall₂_cons, ← ih guards (Nat.succ.inj hlength)]
      cases guard.check v with
      | error e => exact ⟨fun h => (by cases h), fun h => (by cases h.1)⟩
      | ok => exact ⟨fun h => ⟨rfl, h⟩, fun h => h.2⟩
  rw [check]
  split
  · rename_i hlength
    exact heach g.params hlength
  · rename_i hlength
    exact ⟨fun h => (by cases h), fun h => absurd h.length_eq hlength⟩

namespace Member

/-- A value passes the guard of a parameter that it is passed to by value if it is assignable. -/
lemma check_ofParam_iff (href : p.byRef = false) : (ValueGuard.ofParam reg p).check v = .ok () ↔
    v.isAssignableTo p.type (reg.isValueType p.type) = true := by
  rw [ValueGuard.check, ValueGuard.ofParam, ValueGuard.ofType, href, Bool.false_and, Bool.false_or]
  split
  · rename_i h
    exact ⟨fun _ => h, fun _ => rfl⟩
  · rename_i h
    exact ⟨fun hok => (by cases hok), fun hok => absurd hok h⟩

lemma applicable_iff : m.Applicable reg arguments ↔ (∀ p ∈ m.params, p.byRef = false) ∧
    List.Forall₂ (fun v p => v.isAssignableTo p.type (reg.isValueType p.type) = true)
      arguments m.params := by
  -- the condition on the parameters comes out if the parameters are the first list
  constructor
  · intro h
    obtain ⟨href, hassignable⟩ := (List.forall₂_and_left _ _).mp h.flip
    exact ⟨href, hassignable.flip⟩
  · rintro ⟨href, hassignable⟩
    exact ((List.forall₂_and_left _ _).mpr ⟨href, hassignable.flip⟩).flip

/-- If nothing is passed by reference, what is demanded of arguments is that they are assignable. -/
lemma check_iff (href : ∀ p ∈ m.params, p.byRef = false) :
    (ArgumentsGuard.ofMember reg m).check arguments = .ok () ↔
      List.Forall₂ (fun v p => v.isAssignableTo p.type (reg.isValueType p.type) = true)
        arguments m.params := by
  rw [ArgumentsGuard.check_eq_ok_iff, ArgumentsGuard.ofMember, List.forall₂_map_right_iff]
  have hplaces : List.Forall₂ (fun p v => (ValueGuard.ofParam reg p).check v = .ok ())
      m.params arguments ↔ List.Forall₂ (fun p v =>
        v.isAssignableTo p.type (reg.isValueType p.type) = true) m.params arguments :=
    forall₂_congr_of_mem fun p hmem _ => check_ofParam_iff (href p hmem)
  exact ⟨fun h => (hplaces.mp h.flip).flip, fun h => (hplaces.mpr h.flip).flip⟩

/-- Arguments can be passed to a member just if nothing is passed by reference and they pass its
guard. -/
lemma applicable_iff_check : m.Applicable reg arguments ↔
    (∀ p ∈ m.params, p.byRef = false) ∧
      (ArgumentsGuard.ofMember reg m).check arguments = .ok () :=
  applicable_iff.trans (and_congr_right fun href => (check_iff href).symm)

/-- Arguments that can be passed are what is demanded. -/
lemma Applicable.check (h : m.Applicable reg arguments) :
    (ArgumentsGuard.ofMember reg m).check arguments = .ok () :=
  (applicable_iff_check.mp h).2

end Member

/-! ### Members that are found -/

namespace Registry

/-- What a search finds has parameters as the search asks for. -/
lemma admits_of_find (h : reg.find type q = .ok m) : q.signature.admits reg m = true := by
  obtain ⟨levels, -, d, i, -, -, hl⟩ := lists_of_find h
  exact hl.1.params

/-- A member that is found by the types of the arguments, whether they have to be the types of the
parameters or only to fit, can be passed the arguments. -/
lemma applicable_of_find (hv : reg.Valid next) (hc : reg.Consistent)
    (harguments : ∀ v ∈ arguments, v.Typed reg)
    (hq : q.signature = .exact (arguments.map .ofValue) ∨
      q.signature = .inferred (arguments.map .ofValue))
    (h : reg.find type q = .ok m) : m.Applicable reg arguments := by
  have hadmits := admits_of_find h
  rcases hq with hq | hq
  · rw [hq] at hadmits
    refine Member.applicable_of_params_eq hv hc harguments ?_
    refine (Member.acceptsParams_iff ?_).mp hadmits
    intro p hp
    obtain ⟨v, hmem, rfl⟩ := List.mem_map.mp hp
    exact (harguments v hmem).typeId_ne_any hv
  · rw [hq] at hadmits
    exact (Member.admitsParams_iff_applicable hv hc harguments).mp hadmits

end Registry

end LateBinding
