import Mathlib.Data.List.Forall2
import LateBinding.Binder
import LateBinding.Proofs.Lookup.Filtered
import LateBinding.Proofs.Lookup.Frame
import LateBinding.Proofs.Registry.Consistent
import LateBinding.Proofs.Registry.Twins

/-!
# Overloads

A call without a parameter list goes to a method that the shown types of its arguments fit.
Primitives and texts show what they are, and all other arguments fit anywhere, so that a method may
fit to which the arguments cannot be passed. Where exactly one method is applicable at the nearest
level that has one at all, the call either goes to it, or a method that merely fits is in the way.
-/

namespace LateBinding

/-! ### Parameter lists place by place -/

/-- Two relations between lists are one if they say the same of every element of the first list. -/
lemma forall₂_congr_of_mem {α β : Type} {R S : α → β → Prop} {l : List α} {u : List β}
    (h : ∀ a ∈ l, ∀ b, R a b ↔ S a b) : List.Forall₂ R l u ↔ List.Forall₂ S l u := by
  constructor
  · exact fun hR => ((List.forall₂_and_left _ _).mpr ⟨h, hR⟩).imp fun _ _ hp => (hp.1 _).mp hp.2
  · exact fun hS => ((List.forall₂_and_left _ _).mpr ⟨h, hS⟩).imp fun _ _ hp => (hp.1 _).mpr hp.2

namespace Member

lemma agree_iff_forall₂ {fits : Param → Param → Bool} {ps qs : List Param} :
    agree fits ps qs = true ↔ List.Forall₂ (fits · · = true) ps qs := by
  induction ps generalizing qs with
  | nil => cases qs <;> simp [agree]
  | cons p ps ih => cases qs <;> simp [agree, ih]

/-- The arguments can be passed to the member: each goes by value to the parameter at its place, and
may be put there. -/
def Applicable (reg : Registry) (arguments : List Value) (m : Member) : Prop :=
  List.Forall₂ (fun v p => p.byRef = false ∧
    v.isAssignableTo p.type (reg.isValueType p.type) = true) arguments m.params

instance (reg : Registry) (arguments : List Value) (m : Member) :
    Decidable (m.Applicable reg arguments) :=
  inferInstanceAs (Decidable (List.Forall₂ _ arguments m.params))

end Member

/-- The value is a primitive or a text, whose type the search is shown. -/
def Value.IsShown : Value → Prop
  | bool _ | int _ | float _ | str _ => True
  | _ => False

namespace Registry

variable {reg : Registry} {next : TypeId} {v : Value} {p : Param} {isValueType : Bool}

/-- Where an argument may be put, it fits. -/
lemma admits_of_assignable (href : p.byRef = false)
    (h : v.isAssignableTo p.type isValueType = true) :
    reg.admits (.ofArgument v) p = true := by
  have hshown : ∀ t, (p.type == TypeId.object || p.type == TypeId.any || t == p.type) = true →
      reg.admits ⟨t, false⟩ p = true := by
    intro t ht
    simp only [Bool.or_eq_true, beq_iff_eq] at ht
    rw [admits, href, Bool.or_eq_true, Bool.not_false, Bool.true_and, isAssignable_iff]
    rcases ht with (ht | ht) | ht
    · exact Or.inr (Or.inr (Or.inl ht))
    · exact Or.inr (Or.inl ht)
    · exact Or.inr (Or.inr (Or.inr (Or.inl ht)))
  cases v with
  | bool | int | float | str => exact hshown _ h
  | _ => rfl

/-- A shown argument fits only where it may be put. -/
lemma assignable_of_admits (hv : reg.Valid next) (hshown : v.IsShown)
    (h : reg.admits (.ofArgument v) p = true) :
    p.byRef = false ∧ v.isAssignableTo p.type isValueType = true := by
  have hplace : ∀ t name isValueType, t ≠ TypeId.any ∧ t ≠ TypeId.object →
      reg.get? t = some (.builtin t name isValueType) → reg.admits ⟨t, false⟩ p = true →
        p.byRef = false ∧
          (p.type == TypeId.object || p.type == TypeId.any || t == p.type) = true := by
    rintro t name isValueType ⟨hany, hobject⟩ hknown ht
    rw [admits, Bool.or_eq_true, Bool.and_eq_true, Bool.not_eq_true'] at ht
    obtain ⟨href, ht⟩ := ht.resolve_left fun h => hany (beq_iff_eq.mp h)
    exact ⟨href, (isAssignable_iff_of_alone hknown (if_neg hobject)).mp ht⟩
  cases v with
  | bool => exact hplace TypeId.bool "bool" true (by decide) ((hv.builtin rfl).trans rfl) h
  | int => exact hplace TypeId.int "int" true (by decide) ((hv.builtin rfl).trans rfl) h
  | float => exact hplace TypeId.float "float" true (by decide) ((hv.builtin rfl).trans rfl) h
  | str => exact hplace TypeId.string "string" false (by decide) ((hv.builtin rfl).trans rfl) h
  | _ => exact hshown.elim

end Registry

namespace Member.Applicable

variable {reg : Registry} {next : TypeId} {arguments : List Value} {m : Member}

/-- The arguments fit where they can be passed. -/
lemma admits (h : m.Applicable reg arguments) :
    (Signature.ofArguments arguments).admits reg m = true := by
  refine agree_iff_forall₂.mpr (List.forall₂_map_left_iff.mpr (h.imp fun v p hp => ?_))
  exact Registry.admits_of_assignable hp.1 hp.2

/-- If all arguments are shown, they fit only where they can be passed. -/
lemma of_admits (hv : reg.Valid next) (hshown : ∀ v ∈ arguments, v.IsShown)
    (h : (Signature.ofArguments arguments).admits reg m = true) : m.Applicable reg arguments := by
  have hfits := List.forall₂_map_left_iff.mp (agree_iff_forall₂.mp h)
  refine ((List.forall₂_and_left _ _).mpr ⟨hshown, hfits⟩).imp fun v p hp => ?_
  exact Registry.assignable_of_admits hv hp.1 hp.2

end Member.Applicable

/-! ### A search by parameters -/

/-- What is asked of parameter lists depends on the parameter list alone. -/
lemma Signature.admits_of_params_eq {reg : Registry} (s : Signature) {m n : Member}
    (h : m.params = n.params) : s.admits reg m = s.admits reg n := by
  cases s <;> simp only [admits, Member.acceptsParams, Registry.admitsParams, h]

namespace Query

variable {q : Query} {reg : Registry} {type : TypeId} {levels : List Descriptor} {i : Nat}
  {m : Member} {c : Found}

/-- The query without a demand on the parameters. -/
def anyParams (q : Query) : Query := { q with signature := .any }

lemma wants_iff_anyParams :
    q.Wants reg i m ↔ q.anyParams.Wants reg i m ∧ q.signature.admits reg m = true := by
  constructor
  · intro h
    exact ⟨⟨h.own_of_declaredOnly, h.own_of_constructor, h.kind, h.scope, h.visibility, h.name,
      h.backing, rfl⟩, h.params⟩
  · rintro ⟨h, hparams⟩
    exact ⟨h.own_of_declaredOnly, h.own_of_constructor, h.kind, h.scope, h.visibility, h.name,
      h.backing, hparams⟩

/-- Members of the same kind, name and parameter list have the same parameters. -/
lemma narrows_anyParams (q : Query) (reg : Registry) :
    q.Narrows q.anyParams reg (q.signature.admits reg) where
  signature := fun hs => q.signature.admits_of_params_eq hs.2.2
  wants := wants_iff_anyParams

/-! ### The selected member -/

/-- One of those found is taken: the only one of the nearest level, or the only one there that has
exactly the parameters. Where names may match in part, it is the first one. -/
def Takes (q : Query) (params : List Param) (found : List Found) (c : Found) : Prop :=
  if q.flags.partialName then found.head? = some c
  else nearest found = [c] ∨ (nearest found).filter (·.member.acceptsParams params) = [c]

lemma mem_nearest_iff {found : List Found} :
    c ∈ nearest found ↔ c ∈ found ∧ ∀ e ∈ found, c.level ≤ e.level := by
  rw [nearest, List.mem_filter, List.all_eq_true]
  simp only [decide_eq_true_eq]

variable {params : List Param} {found : List Found}

/-- If only one was found at the nearest level, it comes first. -/
lemma head?_of_nearest (hsorted : found.Pairwise fun c e => c.level ≤ e.level)
    (h : nearest found = [c]) : found.head? = some c := by
  cases found with
  | nil => cases h
  | cons e found =>
    rw [nearest_cons hsorted, List.cons.injEq] at h
    rw [h.1, List.head?_cons]

/-- What is taken is at the nearest level. -/
lemma Takes.mem_nearest (h : q.Takes params found c)
    (hsorted : found.Pairwise fun c e => c.level ≤ e.level) : c ∈ nearest found := by
  rw [Takes] at h
  split at h
  · obtain ⟨rest, rfl⟩ := List.head?_eq_some_iff.mp h
    rw [nearest_cons hsorted]
    exact List.mem_cons_self
  · rcases h with h | h
    · exact h ▸ List.mem_singleton_self c
    · exact (List.mem_filter.mp (h ▸ List.mem_singleton_self c)).1

/-- What is taken is what is denoted. -/
lemma Takes.denotes (h : q.Takes params found c) (hq : q.signature = .inferred params) :
    q.Denotes reg type found (.ok c.member) := by
  rw [Takes] at h
  split at h
  · rename_i hp
    exact .first hp h
  rename_i hp
  rw [Bool.not_eq_true] at hp
  rcases h with h | h
  · exact .only hp h
  by_cases hlen : 2 ≤ (nearest found).length
  · exact .exact hp hlen hq h
  -- the nearest level holds no more than what is left of it
  have hsub : [c].Sublist (nearest found) := h ▸ List.filter_sublist
  exact .only hp (hsub.eq_of_length_le (Nat.le_of_lt_succ (Nat.lt_of_not_le hlen))).symm

lemma Denotes.exists_takes (h : q.Denotes reg type found (.ok m))
    (hq : q.signature = .inferred params) : ∃ c, q.Takes params found c ∧ c.member = m := by
  cases h with
  | first hp hc => exact ⟨_, by rwa [Takes, if_pos hp], rfl⟩
  | only hp hc => exact ⟨_, by rw [Takes, if_neg (by simp [hp])]; exact Or.inl hc, rfl⟩
  | exact hp hlen hs hc =>
    obtain rfl : params = _ := Signature.inferred.inj (hq.symm.trans hs)
    exact ⟨_, by rw [Takes, if_neg (by simp [hp])]; exact Or.inr hc, rfl⟩

end Query

/-! ### The method of a call -/

/-- What a call by name looks for if it gives no parameter list. -/
def Query.ofCall (name : String) (flags : Flags) (arguments : List Value) : Query where
  kinds := .single .method
  name := some name
  flags := flags
  signature := .ofArguments arguments

/-- The flags let through members of all visibilities, synthesized ones as well. -/
def Flags.ShowsAll (f : Flags) : Prop :=
  f.publics = true ∧ f.nonPublics = true ∧ f.excludeBacking = false

namespace Registry

open Query

variable {reg : Registry} {next type : TypeId} {levels : List Descriptor} {name : String}
  {flags : Flags} {arguments : List Value} {c e : Found}

/-- The methods of a name that the flags let through and that are not hidden, whatever their
parameters. -/
def overloads (reg : Registry) (levels : List Descriptor) (name : String) (flags : Flags) :
    List Found :=
  (ofCall name flags []).anyParams.listed reg levels

/-- The nearest of the methods to which the arguments can be passed. -/
def applicable (reg : Registry) (levels : List Descriptor) (name : String) (flags : Flags)
    (arguments : List Value) : List Found :=
  nearest ((reg.overloads levels name flags).filter (·.member.Applicable reg arguments))

/-- The methods that the shown arguments fit. -/
def fitting (reg : Registry) (levels : List Descriptor) (name : String) (flags : Flags)
    (arguments : List Value) : List Found :=
  (reg.overloads levels name flags).filter
    ((Signature.ofArguments arguments).admits reg ·.member)

lemma listed_ofCall : (ofCall name flags arguments).listed reg levels =
    reg.fitting levels name flags arguments :=
  (narrows_anyParams (ofCall name flags arguments) reg).listed_eq_filter levels

lemma pairwise_fitting :
    (reg.fitting levels name flags arguments).Pairwise fun c e => c.level ≤ e.level :=
  listed_ofCall ▸ pairwise_listed _ _ _

lemma mem_fitting_of_applicable (he : e ∈ reg.overloads levels name flags)
    (happ : e.member.Applicable reg arguments) : e ∈ reg.fitting levels name flags arguments :=
  List.mem_filter.mpr ⟨he, happ.admits⟩

/-- If what is taken is applicable, it is the one that is. -/
lemma eq_of_takes_of_applicable
    (hc : reg.applicable levels name flags arguments = [c])
    (he : (ofCall name flags arguments).Takes (arguments.map .ofArgument)
      (reg.fitting levels name flags arguments) e)
    (happ : e.member.Applicable reg arguments) : e = c := by
  obtain ⟨hmem, hnear⟩ := mem_nearest_iff.mp (he.mem_nearest pairwise_fitting)
  have hlisted := (List.mem_filter.mp hmem).1
  have happlicable : e ∈ reg.applicable levels name flags arguments := by
    refine mem_nearest_iff.mpr ⟨List.mem_filter.mpr ⟨hlisted, decide_eq_true happ⟩, ?_⟩
    intro f hf
    obtain ⟨hf, hfapp⟩ := List.mem_filter.mp hf
    exact hnear f (mem_fitting_of_applicable hf (of_decide_eq_true hfapp))
  exact List.mem_singleton.mp (hc ▸ happlicable)

/-- If all arguments are shown, what fits is what is applicable. -/
lemma fitting_eq_of_shown (hv : reg.Valid next) (hshown : ∀ v ∈ arguments, v.IsShown) :
    reg.fitting levels name flags arguments =
      (reg.overloads levels name flags).filter (·.member.Applicable reg arguments) := by
  refine List.filter_congr fun e _ => ?_
  rw [Bool.eq_iff_iff, decide_eq_true_eq]
  exact ⟨.of_admits hv hshown, fun h => h.admits⟩

lemma find_ofCall_eq_ok_iff (hchain : reg.Chain type levels) {m : Member} :
    reg.find type (ofCall name flags arguments) = .ok m ↔
      ∃ e, (ofCall name flags arguments).Takes (arguments.map .ofArgument)
        (reg.fitting levels name flags arguments) e ∧ e.member = m := by
  have hdenotes := denotes_find hchain (ofCall name flags arguments)
  rw [listed_ofCall] at hdenotes
  constructor
  · intro h
    exact (h ▸ hdenotes).exists_takes rfl
  · rintro ⟨e, he, rfl⟩
    exact hdenotes.unique (he.denotes rfl)

/-- Where one method is the only applicable one of the nearest level with any, the search takes it,
or else it takes a method that merely fits, or is ambiguous between methods that fit. It takes it
for sure if all arguments are shown. -/
lemma find_ofCall (hv : reg.Valid next) (hchain : reg.Chain type levels)
    (hc : reg.applicable levels name flags arguments = [c]) :
    (reg.find type (ofCall name flags arguments) = .ok c.member ↔
      (ofCall name flags arguments).Takes (arguments.map .ofArgument)
        (reg.fitting levels name flags arguments) c) ∧
    ((∀ v ∈ arguments, v.IsShown) →
      reg.find type (ofCall name flags arguments) = .ok c.member) ∧
    (reg.find type (ofCall name flags arguments) = .ok c.member ∨
      (∃ e ∈ nearest (reg.fitting levels name flags arguments),
        ¬ e.member.Applicable reg arguments ∧
          reg.find type (ofCall name flags arguments) = .ok e.member) ∨
      reg.find type (ofCall name flags arguments) =
        .error (.ambiguous (.single .method) name (reg.nameOf type)
          (nearest (reg.fitting levels name flags arguments)).length)) := by
  have hmem : c ∈ reg.applicable levels name flags arguments := hc ▸ List.mem_singleton_self c
  obtain ⟨hmem, hnear⟩ := mem_nearest_iff.mp hmem
  obtain ⟨hlisted, happ⟩ := List.mem_filter.mp hmem
  have happ : c.member.Applicable reg arguments := of_decide_eq_true happ
  have hfits := mem_fitting_of_applicable hlisted happ
  have hiff : reg.find type (ofCall name flags arguments) = .ok c.member ↔
      (ofCall name flags arguments).Takes (arguments.map .ofArgument)
        (reg.fitting levels name flags arguments) c := by
    rw [find_ofCall_eq_ok_iff hchain]
    constructor
    · rintro ⟨e, he, heq⟩
      exact eq_of_takes_of_applicable hc he (heq ▸ happ) ▸ he
    · exact fun h => ⟨c, h, rfl⟩
  refine ⟨hiff, fun hshown => ?_, ?_⟩
  · -- what fits and what is applicable are the same, as the arguments show their types
    rw [hiff, Takes, fitting_eq_of_shown hv hshown]
    split
    · refine head?_of_nearest ?_ hc
      exact List.Pairwise.filter _ (pairwise_listed _ _ _)
    · exact Or.inl hc
  · -- whatever is found fits, so it is the member or one that is not applicable
    have hdenotes := denotes_find hchain (ofCall name flags arguments)
    rw [listed_ofCall] at hdenotes
    cases hfind : reg.find type (ofCall name flags arguments) with
    | ok m =>
      obtain ⟨e, he, rfl⟩ := (find_ofCall_eq_ok_iff hchain).mp hfind
      by_cases heapp : e.member.Applicable reg arguments
      · exact Or.inl (by rw [eq_of_takes_of_applicable hc he heapp])
      · exact Or.inr (Or.inl ⟨e, he.mem_nearest pairwise_fitting, heapp, rfl⟩)
    | error f =>
      rw [hfind] at hdenotes
      cases hdenotes with
      | none h =>
        rw [h] at hfits
        cases hfits
      | ambiguous => exact Or.inr (Or.inr rfl)

/-! ### Members without twins -/

/-- If all members are shown, a twin of an applicable method would be applicable as well. -/
lemma sole_of_applicable (hv : reg.Valid next) (hchain : reg.Chain type levels)
    (hflags : flags.ShowsAll) (hc : reg.applicable levels name flags arguments = [c]) :
    reg.Sole c.member := by
  intro n hn hdeclaring hmark
  have hmem : c ∈ reg.applicable levels name flags arguments := hc ▸ List.mem_singleton_self c
  obtain ⟨hmem, hnear⟩ := mem_nearest_iff.mp hmem
  obtain ⟨hlisted, happ⟩ := List.mem_filter.mp hmem
  obtain ⟨d, hd, hm, hw, hhidden⟩ := mem_listed.mp hlisted
  simp only [Member.mark, Prod.mk.injEq] at hmark
  obtain ⟨hkind, hname, hparams, hscope⟩ := hmark
  obtain ⟨hpublics, hnonPublics, hbacking⟩ := hflags
  -- a twin is declared at the same level
  have hnd : n ∈ d.members := by
    obtain ⟨t, ht⟩ := hchain.exists_get?_of_mem (List.fst_mem_of_mem_zipIdx hd)
    obtain ⟨e, he, hne⟩ := hn
    rw [hdeclaring, hv.declaring ht hm] at he
    obtain rfl : d = e := Option.some.inj (ht.symm.trans he)
    exact hne
  have hwn : (ofCall name flags []).anyParams.Wants reg c.level n := by
    refine ⟨hw.own_of_declaredOnly, hkind ▸ hw.own_of_constructor, hkind ▸ hw.kind,
      hscope ▸ hw.scope, ?_, hname ▸ hw.name, fun h => ?_, rfl⟩
    · change (if n.isPublic then flags.publics else flags.nonPublics) = true
      rw [hpublics, hnonPublics, ite_self]
    · exact absurd (hbacking.symm.trans h) Bool.false_ne_true
  have hlistedn : (⟨c.level, n⟩ : Found) ∈ reg.overloads levels name flags := by
    refine mem_listed.mpr ⟨d, hd, hnd, hwn, fun nearer hnearer l hl hwl hs => ?_⟩
    exact hhidden nearer hnearer l hl hwl (hs.trans ⟨hkind, hname, hparams⟩)
  -- it would be listed and applicable as well
  have happn : (⟨c.level, n⟩ : Found) ∈ reg.applicable levels name flags arguments := by
    refine mem_nearest_iff.mpr ⟨List.mem_filter.mpr ⟨hlistedn, decide_eq_true ?_⟩, hnear⟩
    rw [Member.Applicable, hparams]
    exact of_decide_eq_true happ
  rw [hc, List.mem_singleton] at happn
  exact congrArg Found.member happn

end Registry

end LateBinding
