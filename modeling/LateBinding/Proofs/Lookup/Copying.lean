import LateBinding.Copying
import LateBinding.Proofs.Except
import LateBinding.Proofs.Lookup.Frame
import LateBinding.Proofs.Registry.Along

/-!
# What a copy pairs

The members that a copy reads and writes are fields and properties along the chains of the two
types. Registering a type changes nothing of the pairs.
-/

namespace LateBinding.Registry

variable {reg reg' : Registry} {next source target type : TypeId} {q : Query} {m : Member}
  {ms : List Member} {o : CopyOptions} {pairs : List (Member × Member)}

/-! ### Found members -/

/-- What is listed is wanted and declared along the chain. -/
lemma Lists.along (h : reg.Lists type q m) : reg.Along type m ∧ q.kinds.has m.kind = true := by
  obtain ⟨levels, hc, d, i, hd, hm, hl⟩ := h
  exact ⟨⟨levels, hc, d, List.fst_mem_of_mem_zipIdx hd, hm⟩, hl.1.kind⟩

lemma along_of_find (h : reg.find type q = .ok m) :
    reg.Along type m ∧ q.kinds.has m.kind = true := (lists_of_find h).along

/-- What is declared along a chain is declared by a known type. -/
lemma Along.declares (hm : reg.Along type m) (hv : reg.Valid next) : reg.Declares m := by
  obtain ⟨levels, hc, e, he, hmem⟩ := hm
  obtain ⟨t, ht⟩ := hc.exists_get?_of_mem he
  exact ⟨e, hv.declaring ht hmem ▸ ht, hmem⟩

/-- Registering a type leaves what a search finds as it is. -/
lemma Registered.findAll_eq {spec : TypeSpec} {base d : Descriptor} (hv : reg.Valid next)
    (h : reg.Registered spec next base d reg') (hq : q.signature.OfRequest)
    (hfind : reg.findAll type q = .ok ms) : reg'.findAll type q = .ok ms := by
  obtain ⟨levels, e, he, -⟩ := exists_chain_of_findAll hfind
  rw [← hfind]
  exact findAll_congr ((hv.sameBuiltins (h.valid hv)).sameAdmitted hq)
    (h.sameChain hv (hv.allocated he))

/-! ### Pairs -/

lemma exists_of_copyPairs (h : reg.copyPairs source target o = .ok pairs) :
    ∃ all found, reg.findAll source
        { kinds := o.sourceKinds.inter .fieldsAndProperties, flags := o.effectiveFlags } = .ok all ∧
      reg.findAll target
        { kinds := o.targetKinds.inter .fieldsAndProperties, flags := o.effectiveFlags } =
          .ok found ∧
      ∀ pair ∈ pairs, (pair.1 ∈ all ∧ pair.1.isReadable = true) ∧
        pair.2 ∈ found ∧ pair.2.isWritable = true := by
  obtain ⟨sources, hsources, h⟩ := exists_of_bind_eq_ok h
  obtain ⟨targets, htargets, h⟩ := exists_of_bind_eq_ok h
  cases h
  obtain ⟨named, hnamed, hsources⟩ := exists_of_bind_eq_ok hsources
  cases hsources
  obtain ⟨found, hfound, htargets⟩ := exists_of_bind_eq_ok htargets
  cases htargets
  obtain ⟨all, hall, hnamed⟩ := exists_of_bind_eq_ok hnamed
  cases hnamed
  refine ⟨all, found, hall, hfound, fun pair hpair => ?_⟩
  obtain ⟨s, hs, hmap⟩ := List.mem_filterMap.mp hpair
  obtain ⟨t, ht, rfl⟩ := Option.map_eq_some_iff.mp hmap
  obtain ⟨hs, hreadable⟩ := List.mem_filter.mp hs
  refine ⟨⟨?_, hreadable⟩, List.mem_filter.mp (List.mem_of_find?_eq_some ht)⟩
  -- sources that a later one of their name hides have been left out
  split at hs
  · exact hs
  · exact (List.mem_filter.mp hs).1

/-- Both members of a pair hold a value under a name; the one can be read along the chain of the
source, and the other written along the chain of the target. -/
structure Copies (reg : Registry) (source target : TypeId) (pair : Member × Member) : Prop where
  source : reg.Along source pair.1
  source_kind : KindSet.fieldsAndProperties.has pair.1.kind = true
  readable : pair.1.isReadable = true
  target : reg.Along target pair.2
  target_kind : KindSet.fieldsAndProperties.has pair.2.kind = true
  writable : pair.2.isWritable = true

lemma copies_of_copyPairs (h : reg.copyPairs source target o = .ok pairs) :
    ∀ pair ∈ pairs, reg.Copies source target pair := by
  intro pair hpair
  obtain ⟨all, found, hall, hfound, hpairs⟩ := exists_of_copyPairs h
  obtain ⟨⟨hs, hreadable⟩, ht, hwritable⟩ := hpairs pair hpair
  obtain ⟨hsource, hskind⟩ := (lists_of_findAll hall hs).along
  obtain ⟨htarget, htkind⟩ := (lists_of_findAll hfound ht).along
  rw [KindSet.has_inter, Bool.and_eq_true] at hskind htkind
  exact ⟨hsource, hskind.2, hreadable, htarget, htkind.2, hwritable⟩

/-- What is copied is declared along the chains of the two types. -/
lemma along_of_copyPairs (h : reg.copyPairs source target o = .ok pairs) :
    ∀ pair ∈ pairs, reg.Along source pair.1 ∧ reg.Along target pair.2 :=
  fun pair hpair => ⟨(copies_of_copyPairs h pair hpair).source,
    (copies_of_copyPairs h pair hpair).target⟩

/-- Registering a type leaves the pairs as they are. -/
lemma Registered.copyPairs_eq {spec : TypeSpec} {base d : Descriptor} (hv : reg.Valid next)
    (h : reg.Registered spec next base d reg')
    (hpairs : reg.copyPairs source target o = .ok pairs) :
    reg'.copyPairs source target o = .ok pairs := by
  obtain ⟨all, found, hall, hfound, -⟩ := exists_of_copyPairs hpairs
  rw [← hpairs, copyPairs, copyPairs, copySources, copySources, copyTargets, copyTargets,
    findNamed, findNamed, hall, hfound, h.findAll_eq hv (by trivial) hall,
    h.findAll_eq hv (by trivial) hfound]

end LateBinding.Registry
