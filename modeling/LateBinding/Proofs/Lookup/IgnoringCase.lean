import LateBinding.Proofs.Lookup.Filtered
import LateBinding.Proofs.Lookup.Frame
import LateBinding.Proofs.Text.LowerCase

/-!
# Ignoring case

To ignore case is meant to find more. It does so where whole names are compared, and where the
requested name has to occur in the name of a member, as long as the sigmas of the requested name are
settled. With a sigma that is not, members are lost: the lower-case form of the requested name ends
with a final sigma, say, where that of the member goes on.

Main statement: `Flags.ignoringCase_finds`.
-/

namespace LateBinding

/-! ### Names -/

lemma occursIn_iff {pattern cs : List Char} : occursIn pattern cs = true ↔ pattern <:+: cs := by
  induction cs with
  | nil => rw [occursIn, List.isEmpty_iff, List.infix_nil]
  | cons c cs ih =>
    rw [occursIn, Bool.or_eq_true, List.isPrefixOf_iff_prefix, ih, List.infix_cons_iff]

lemma afterLastPoint?_eq_none {cs : List Char} (h : '.' ∉ cs) : afterLastPoint? cs = none := by
  induction cs with
  | nil => rfl
  | cons c cs ih =>
    rw [List.mem_cons, not_or] at h
    rw [afterLastPoint?, ih h.2]
    exact if_neg fun hc => h.1 hc.symm

/-- A name without a point stays as it is. -/
lemma simpleName_of_not_mem {name : String} (h : '.' ∉ name.toList) : simpleName name = name := by
  rw [simpleName]
  split
  · rfl
  · rename_i c cs hname
    rw [hname, List.mem_cons, not_or] at h
    rw [afterLastPoint?_eq_none h.2]

namespace Flags

variable {f : Flags} {member name : String}

/-- The flags with case ignored. -/
def ignoringCase (f : Flags) : Flags := { f with ignoreCase := true }

lemma fold_ignoringCase (f : Flags) (name : String) :
    f.ignoringCase.fold name = Text.lower name := if_pos rfl

lemma fold_of_cased (h : f.ignoreCase = false) (name : String) : f.fold name = name :=
  if_neg (h ▸ Bool.false_ne_true)

lemma trim_ignoringCase (f : Flags) : f.ignoringCase.trim = f.trim := rfl

/-- If the name may be a part of others and case counts, the sigmas of the name are settled. -/
def Settles (f : Flags) (name : String) : Prop :=
  f.partialName = true → f.ignoreCase = false → Text.settledFrom [] name.toList = true

instance (f : Flags) (name : String) : Decidable (f.Settles name) :=
  inferInstanceAs (Decidable (_ → _ → _))

lemma nameMatches_of_partialName (h : f.partialName = true) :
    f.nameMatches member name = true ↔
      (f.fold name).toList <:+: (f.fold (f.trim member)).toList := by
  rw [nameMatches, if_pos h, occursIn_iff]

lemma nameMatches_of_whole (h : f.partialName = false) :
    f.nameMatches member name = true ↔ f.fold (f.trim member) = f.fold name := by
  rw [nameMatches, h, if_neg Bool.false_ne_true, beq_iff_eq]

/-- A name that fits goes on to do so. -/
lemma nameMatches_ignoringCase (h : f.Settles name) (hmatches : f.nameMatches member name = true) :
    f.ignoringCase.nameMatches member name = true := by
  cases hcase : f.ignoreCase with
  | true =>
    have hsame : f.ignoringCase = f := by rw [ignoringCase, ← hcase]
    rw [hsame, hmatches]
  | false =>
    have hfold := fold_of_cased hcase
    cases hpartial : f.partialName with
    | true =>
      have hpartial' : f.ignoringCase.partialName = true := hpartial
      rw [nameMatches_of_partialName hpartial, hfold, hfold] at hmatches
      rw [nameMatches_of_partialName hpartial', fold_ignoringCase, fold_ignoringCase,
        trim_ignoringCase, Text.toList_lower, Text.toList_lower]
      exact Text.lower_infix_of_settled (h hpartial hcase) hmatches
    | false =>
      have hpartial' : f.ignoringCase.partialName = false := hpartial
      rw [nameMatches_of_whole hpartial, hfold, hfold] at hmatches
      rw [nameMatches_of_whole hpartial', fold_ignoringCase, fold_ignoringCase, trim_ignoringCase,
        hmatches]

/-- With a sigma that is not settled, some name no longer fits. -/
lemma exists_nameMatches_lost (h : ¬ f.Settles name)
    (htrim : f.trimExplicit = true → '.' ∉ name.toList) :
    ∃ member, f.nameMatches member name = true ∧
      f.ignoringCase.nameMatches member name = false := by
  rw [Settles, Classical.not_imp, Classical.not_imp, Bool.not_eq_true] at h
  obtain ⟨hpartial, hcase, hnot⟩ := h
  have hpartial' : f.ignoringCase.partialName = true := hpartial
  obtain ⟨cs, hoccurs, hpoint, hlost⟩ := Text.exists_larger_of_not_settled hnot
  -- the larger text has a point only if the smaller one has
  have htrimmed : f.trim (String.ofList cs) = String.ofList cs := by
    rw [trim]
    split
    · rename_i hexplicit
      refine simpleName_of_not_mem ?_
      rw [String.toList_ofList, hpoint]
      exact htrim hexplicit
    · rfl
  refine ⟨String.ofList cs, ?_, ?_⟩
  · rw [nameMatches_of_partialName hpartial, fold_of_cased hcase, fold_of_cased hcase, htrimmed,
      String.toList_ofList]
    exact hoccurs
  · -- what goes on after the name changes the form of a sigma in it
    rw [← Bool.not_eq_true, nameMatches_of_partialName hpartial', fold_ignoringCase,
      fold_ignoringCase, trim_ignoringCase, htrimmed, Text.toList_lower, Text.toList_lower,
      String.toList_ofList]
    exact hlost

end Flags

/-! ### Searches -/

namespace Query

variable {q : Query} {reg : Registry} {type : TypeId} {name : String} {found : List Member}

/-- The query with case ignored. -/
def ignoringCase (q : Query) : Query := { q with flags := q.flags.ignoringCase }

/-- A query that minds the case demands that names fit as they are. -/
lemma narrows_ignoringCase (hname : q.name = some name) (h : q.flags.Settles name) :
    q.Narrows q.ignoringCase reg (q.flags.nameMatches ·.name name) where
  signature := fun hs => congrArg (q.flags.nameMatches · name) hs.2.1
  wants := by
    intro i m
    constructor
    · intro hw
      refine ⟨⟨hw.own_of_declaredOnly, hw.own_of_constructor, hw.kind, hw.scope, hw.visibility, ?_,
        hw.backing, hw.params⟩, hw.name name hname⟩
      intro name' hname'
      exact Flags.nameMatches_ignoringCase (Option.some.inj (hname.symm.trans hname') ▸ h)
        (hw.name name' hname')
    · rintro ⟨hw, hmatches⟩
      refine ⟨hw.own_of_declaredOnly, hw.own_of_constructor, hw.kind, hw.scope, hw.visibility, ?_,
        hw.backing, hw.params⟩
      intro name' hname'
      rwa [← Option.some.inj (hname.symm.trans hname')]

/-- What was found is found again, in the same order, among other members perhaps. -/
lemma exists_findAll_ignoringCase (hname : q.name = some name) (h : q.flags.Settles name)
    (hfound : reg.findAll type q = .ok found) :
    ∃ more, reg.findAll type q.ignoringCase = .ok more ∧ found.Sublist more := by
  obtain ⟨levels, hchain⟩ := Registry.exists_chain_of_findAll hfound
  rw [Registry.findAll_of_chain hchain, (narrows_ignoringCase hname h).listed_eq_filter,
    Except.ok.injEq] at hfound
  refine ⟨_, Registry.findAll_of_chain hchain _, ?_⟩
  rw [← hfound]
  exact List.filter_sublist.map _

end Query

/-- Where whole names are compared, or the sigmas of the requested name are settled, every name that
fits still fits if case is ignored, and every search for the name finds what it found before.
Otherwise some name no longer fits; only a name with a point may be safe nevertheless where points
count. -/
theorem Flags.ignoringCase_finds (f : Flags) (name : String) :
    (f.Settles name →
      (∀ member, f.nameMatches member name = true →
        f.ignoringCase.nameMatches member name = true) ∧
      ∀ reg type q found, q.name = some name → q.flags = f →
        Registry.findAll reg type q = .ok found →
          ∃ more, reg.findAll type q.ignoringCase = .ok more ∧ found.Sublist more) ∧
    (¬ f.Settles name → (f.trimExplicit = true → '.' ∉ name.toList) →
      ∃ member, f.nameMatches member name = true ∧
        f.ignoringCase.nameMatches member name = false) := by
  refine ⟨fun h => ⟨fun member => nameMatches_ignoringCase h, ?_⟩, exists_nameMatches_lost⟩
  rintro reg type q found hname rfl hfound
  exact Query.exists_findAll_ignoringCase hname h hfound

/-! ### A Greek name -/

/-- A type with one field, whose name has a sigma between two letters. -/
def greekSpec : TypeSpec where
  name := "Greek"
  members := [.field { name := "ΑΣΑ", type := TypeId.int, visibility := .everywhere }]

/-- The registry with this type. -/
def greek : Registry :=
  match Registry.initial.register {} greekSpec with
  | .ok (_, reg, _) => reg
  | .error _ => .initial

/-- Asks for the fields of instances in whose names a given one occurs. -/
def greekQuery (name : String) : Query where
  kinds := .single .field
  name := some name
  flags := { Flags.instanceAny with partialName := true }

/-- A sigma before a letter is settled. -/
theorem ignoringCase_finds_greek :
    (greekQuery "ΣΑ").flags.Settles "ΣΑ" ∧
    (greekQuery "ΣΑ").flags.ignoringCase.nameMatches "ΑΣΑ" "ΣΑ" = true ∧
    ∃ m more, greek.findAll ⟨64⟩ (greekQuery "ΣΑ") = .ok [m] ∧ m.name = "ΑΣΑ" ∧
      greek.findAll ⟨64⟩ (greekQuery "ΣΑ").ignoringCase = .ok more ∧ m ∈ more := by
  have hsettles : (greekQuery "ΣΑ").flags.Settles "ΣΑ" := by decide +kernel
  obtain ⟨hmatches, hfound⟩ := (Flags.ignoringCase_finds _ _).1 hsettles
  obtain ⟨m, hm, hname⟩ : ∃ m, greek.findAll ⟨64⟩ (greekQuery "ΣΑ") = .ok [m] ∧
      m.name = "ΑΣΑ" := ⟨_, rfl, rfl⟩
  obtain ⟨more, hmore, hsublist⟩ := hfound _ _ _ _ rfl rfl hm
  refine ⟨hsettles, hmatches _ (by decide +kernel), m, more, hm, hname, hmore, ?_⟩
  exact hsublist.subset (List.mem_singleton_self m)

/-- A sigma at the end of the requested name is not settled: the field is lost. -/
theorem not_ignoringCase_finds_greek :
    (greekQuery "ΑΣ").flags.nameMatches "ΑΣΑ" "ΑΣ" = true ∧
    (greekQuery "ΑΣ").flags.ignoringCase.nameMatches "ΑΣΑ" "ΑΣ" = false ∧
    (greek.findAll ⟨64⟩ (greekQuery "ΑΣ")).map (·.map (·.name)) = .ok ["ΑΣΑ"] ∧
    (greek.findAll ⟨64⟩ (greekQuery "ΑΣ").ignoringCase).map (·.map (·.name)) = .ok [] := by
  refine ⟨?_, ?_, ?_, ?_⟩ <;> decide +kernel

end LateBinding
