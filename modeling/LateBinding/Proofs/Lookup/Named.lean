import Mathlib.Data.List.Flatten
import LateBinding.Proofs.Lookup.Filtered

/-!
# Searches for several names

A search for several names lists everything first and looks at the names afterwards, while a search
for one name wants nothing else from the start. It makes no difference, since a member is only
hidden by one that has the identical name: names may be compared before or after hiding, whatever
it means that they match.

Main statement: `Registry.findNamed_eq_findAll`.
-/

namespace LateBinding

namespace Query

variable {reg : Registry} {levels : List Descriptor} {q : Query} {name : String}

/-- A query with a name demands that name of what the query without it wants. -/
lemma narrows_name (hname : q.name = some name) :
    q.Narrows { q with name := none } reg (q.flags.nameMatches ·.name name) where
  signature := fun hs => congrArg (q.flags.nameMatches · name) hs.2.1
  wants := by
    intro i m
    constructor
    · intro h
      exact ⟨⟨h.own_of_declaredOnly, h.own_of_constructor, h.kind, h.scope, h.visibility,
        fun _ hnone => (by cases hnone), h.backing, h.params⟩, h.name name hname⟩
    · rintro ⟨h, hmatches⟩
      refine ⟨h.own_of_declaredOnly, h.own_of_constructor, h.kind, h.scope, h.visibility, ?_,
        h.backing, h.params⟩
      intro name' hname'
      rwa [← Option.some.inj (hname.symm.trans hname')]

/-- Every member is listed at most once, in the order of the levels and of the declarations. -/
lemma listed_sublist (q : Query) (reg : Registry) (levels : List Descriptor) :
    ((q.listed reg levels).map (·.member)).Sublist (levels.flatMap (·.members)) := by
  have hlevels : levels.flatMap (·.members) = levels.zipIdx.flatMap (·.1.members) := by
    conv_lhs => rw [← List.zipIdx_map_fst 0 levels, List.flatMap_map]
  rw [listed, List.map_flatMap, hlevels]
  refine List.Sublist.flatMap_right _ fun level _ => ?_
  rw [List.map_map]
  exact (List.map_id' (level.1.members.filter _)).symm ▸ List.filter_sublist

end Query

namespace Registry

variable {reg : Registry} {type missing : TypeId} {levels : List Descriptor} {kinds : KindSet}
  {flags : Flags}

/-- What is listed without a name, in the order of the levels. -/
def unnamed (reg : Registry) (kinds : KindSet) (flags : Flags) (levels : List Descriptor) :
    List Member :=
  (Query.listed { kinds, flags } reg levels).map (·.member)

/-- A search for one name gives what fits it of all that is listed without a name. -/
lemma findAll_name_eq_filter (h : reg.Chain type levels) (name : String) :
    reg.findAll type { kinds, name := some name, flags } =
      .ok ((reg.unnamed kinds flags levels).filter (flags.nameMatches ·.name name)) := by
  rw [findAll_of_chain h, (Query.narrows_name rfl).listed_eq_filter, unnamed, List.filter_map]
  rfl

/-- A search for several names gives what fits one of them. -/
lemma findNamed_eq_filter (h : reg.Chain type levels) {names : List String} (hnames : names ≠ []) :
    reg.findNamed type kinds flags names =
      .ok ((reg.unnamed kinds flags levels).filter fun m =>
        names.any (flags.nameMatches m.name)) := by
  rw [findNamed, findAll_of_chain h, List.isEmpty_eq_false_iff.mpr hnames]
  rfl

lemma findAll_of_firstUnknown (h : reg.FirstUnknown type missing) (q : Query) :
    reg.findAll type q = .error (.unknownType missing) := by
  rw [findAll, candidates_of_firstUnknown h]
  rfl

lemma findNamed_of_firstUnknown (h : reg.FirstUnknown type missing) (names : List String) :
    reg.findNamed type kinds flags names = .error (.unknownType missing) := by
  rw [findNamed, findAll_of_firstUnknown h]
  rfl

/-- For one name the two searches are the same. -/
lemma findNamed_singleton (reg : Registry) (type : TypeId) (kinds : KindSet) (flags : Flags)
    (name : String) :
    reg.findNamed type kinds flags [name] =
      reg.findAll type { kinds, name := some name, flags } := by
  rcases chain_or_firstUnknown reg type with ⟨levels, h⟩ | ⟨missing, h⟩
  · rw [findNamed_eq_filter h (List.cons_ne_nil name []), findAll_name_eq_filter h]
    simp only [List.any_cons, List.any_nil, Bool.or_false]
  · rw [findNamed_of_firstUnknown h, findAll_of_firstUnknown h]

open Classical in
/-- Along a known chain everything that is listed without a name is a declared member, each at most
once and in order. A search for several names leaves of this list exactly what is found for at least
one of the names alone, and what is found for one name alone is a part of the list in its order. For
a single name the two searches are the same, and where the chain is not known all of them fail
alike. -/
theorem findNamed_eq_findAll (reg : Registry) (type : TypeId) (kinds : KindSet) (flags : Flags)
    {names : List String} (hnames : names ≠ []) :
    (∀ levels, reg.Chain type levels → ∃ (all : List Member) (named : String → List Member),
      reg.findAll type { kinds, flags } = .ok all ∧
      all.Sublist (levels.flatMap (·.members)) ∧
      (∀ name, reg.findAll type { kinds, name := some name, flags } = .ok (named name)) ∧
      (∀ name, named name = all.filter (· ∈ named name)) ∧
      reg.findNamed type kinds flags names =
        .ok (all.filter fun m => ∃ name ∈ names, m ∈ named name)) ∧
    (∀ missing, reg.FirstUnknown type missing →
      reg.findNamed type kinds flags names = .error (.unknownType missing) ∧
      ∀ name, reg.findAll type { kinds, name := some name, flags } =
        .error (.unknownType missing)) ∧
    ∀ name, reg.findNamed type kinds flags [name] =
      reg.findAll type { kinds, name := some name, flags } := by
  refine ⟨fun levels h => ?_, fun missing h => ?_, findNamed_singleton reg type kinds flags⟩
  · set all := reg.unnamed kinds flags levels with hall
    have hmem : ∀ m ∈ all, ∀ name,
        m ∈ all.filter (flags.nameMatches ·.name name) ↔ flags.nameMatches m.name name = true :=
      fun m hm name => by rw [List.mem_filter, and_iff_right hm]
    refine ⟨all, fun name => all.filter (flags.nameMatches ·.name name), findAll_of_chain h _,
      Query.listed_sublist _ _ _, findAll_name_eq_filter h, fun name => ?_, ?_⟩
    · refine List.filter_congr fun m hm => ?_
      rw [Bool.eq_iff_iff, decide_eq_true_eq, hmem m hm]
    · -- both searches filter the list of a search without a name
      rw [findNamed_eq_filter h hnames, ← hall]
      congr 1
      refine List.filter_congr fun m hm => ?_
      rw [Bool.eq_iff_iff, decide_eq_true_eq, List.any_eq_true]
      simp only [hmem m hm]
  · exact ⟨findNamed_of_firstUnknown h names, fun name => findAll_of_firstUnknown h _⟩

/-- Asks for fields of instances in whose names a given text occurs. -/
def occurring : Flags := { Flags.instanceAny with partialName := true }

/-- Both names fit the first field, which is listed once, and hides the one of the same name in the
base type. -/
theorem findNamed_eq_findAll_layered :
    ["x", ""] ≠ [] ∧ ∃ levels all, layered.Chain ⟨65⟩ levels ∧
      layered.findNamed ⟨65⟩ (.single .field) occurring ["x", ""] = .ok all ∧
      all.map (fun m => (m.declaring, m.name)) =
        [(⟨65⟩, "x"), (⟨64⟩, "y"), (⟨64⟩, "Y")] ∧
      layered.FirstUnknown ⟨66⟩ ⟨66⟩ ∧
      layered.findNamed ⟨66⟩ (.single .field) occurring ["x", ""] = .error (.unknownType ⟨66⟩) := by
  have hnames : ["x", ""] ≠ [] := List.cons_ne_nil _ _
  have hchain : layered.Chain ⟨65⟩
      ([⟨65⟩, ⟨64⟩, TypeId.object].filterMap layered.get?) := ⟨_, rfl, rfl⟩
  have hmissing : layered.FirstUnknown ⟨66⟩ ⟨66⟩ := Or.inl ⟨rfl, rfl⟩
  obtain ⟨all, named, -, -, -, -, hfound⟩ :=
    (findNamed_eq_findAll layered ⟨65⟩ (.single .field) occurring hnames).1 _ hchain
  refine ⟨hnames, _, _, hchain, hfound, ?_, hmissing,
    ((findNamed_eq_findAll layered ⟨66⟩ (.single .field) occurring hnames).2.1 _ hmissing).1⟩
  have hall : (layered.findNamed ⟨65⟩ (.single .field) occurring ["x", ""]).map
      (·.map fun m => (m.declaring, m.name)) =
        .ok [(⟨65⟩, "x"), (⟨64⟩, "y"), (⟨64⟩, "Y")] := by decide
  rw [hfound] at hall
  exact Except.ok.inj hall

end Registry

end LateBinding
