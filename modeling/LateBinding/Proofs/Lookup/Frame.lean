import LateBinding.Proofs.Lookup.Reference
import LateBinding.Proofs.Registry.Valid

/-!
# Searches in changing registries

A search depends on what is known of the types along the chain of the searched type, and of the
types that arguments show, which are builtin. Two registries that know the same of these find the
same.
-/

namespace LateBinding

/-- A signature that a request can have: argument types are shown by primitives and texts only. -/
def Signature.OfRequest : Signature → Prop
  | .inferred arguments => ∀ p ∈ arguments, p.type.isBuiltin = true
  | _ => True

namespace Registry

variable {reg reg' : Registry} {next type : TypeId} {d : Descriptor} {levels : List Descriptor}
  {q : Query} {m : Member}

/-! ### Searches in two registries -/

/-- The second registry knows the same of the builtin types. -/
def SameBuiltins (reg reg' : Registry) : Prop :=
  ∀ t, t.isBuiltin = true → reg'.get? t = reg.get? t

lemma Valid.sameBuiltins {next' : TypeId} (hv : reg.Valid next) (hv' : reg'.Valid next') :
    reg.SameBuiltins reg' :=
  fun _ ht => (hv'.builtin ht).trans (hv.builtin ht).symm

lemma isAssignable_congr {source : TypeId} (h : reg'.get? source = reg.get? source)
    (target : TypeId) : reg'.isAssignable source target = reg.isAssignable source target := by
  rw [isAssignable, isAssignable, h]

lemma admitsParams_congr {arguments : List Param}
    (h : ∀ p ∈ arguments, reg'.get? p.type = reg.get? p.type) (m : Member) :
    reg'.admitsParams m arguments = reg.admitsParams m arguments := by
  rw [admitsParams, admitsParams]
  induction arguments generalizing m with
  | nil => cases m.params <;> rfl
  | cons p ps ih =>
    cases hm : m.params with
    | nil => rfl
    | cons declared rest =>
      have hp : reg'.admits p declared = reg.admits p declared := by
        rw [admits, admits, isAssignable_congr (h p List.mem_cons_self)]
      have hps := ih (fun p hp => h p (List.mem_cons_of_mem _ hp)) { m with params := rest }
      rw [Member.agree, Member.agree, hp]
      exact congrArg (reg.admits p declared && ·) hps

/-- The second registry knows the same of a type and of its ancestors. -/
structure SameChain (reg reg' : Registry) (type : TypeId) : Prop where
  self : reg'.get? type = reg.get? type
  ancestors : ∀ {d}, reg.get? type = some d → ∀ a ∈ d.ancestors, reg'.get? a = reg.get? a

/-- In the second registry the query admits the same members. -/
def SameAdmitted (reg reg' : Registry) (q : Query) : Prop :=
  ∀ m, q.signature.admits reg' m = q.signature.admits reg m

lemma sameAdmitted_of (h : ∀ arguments, q.signature = .inferred arguments →
    ∀ p ∈ arguments, reg'.get? p.type = reg.get? p.type) : reg.SameAdmitted reg' q := by
  intro m
  cases hs : q.signature with
  | any => rfl
  | exact params => rfl
  | inferred arguments => exact admitsParams_congr (h arguments hs) m

lemma SameBuiltins.sameAdmitted (hb : reg.SameBuiltins reg') (hq : q.signature.OfRequest) :
    reg.SameAdmitted reg' q := by
  refine sameAdmitted_of fun arguments hs p hp => hb _ ?_
  rw [hs] at hq
  exact hq p hp

lemma collect_congr (hq : reg.SameAdmitted reg' q) (levels : List Descriptor) :
    q.collect reg' levels = q.collect reg levels := by
  have hlevel : q.addLevel reg' = q.addLevel reg := by
    funext found level
    simp only [Query.addLevel, Query.acceptsAt, Query.accepts, hq _]
  rw [Query.collect, Query.collect, hlevel]

lemma hierarchy_congr (h : reg.SameChain reg' type) : reg'.hierarchy type = reg.hierarchy type := by
  cases hd : reg.get? type with
  | none => rw [hierarchy_of_get?_eq_none hd, hierarchy_of_get?_eq_none (h.self.trans hd)]
  | some d =>
    rw [hierarchy_of_get?_eq_some hd, hierarchy_of_get?_eq_some (h.self.trans hd),
      mapM_known_congr (h.ancestors hd)]

/-- What is found depends on the chain of the searched type and on what the query admits. -/
lemma candidates_congr (hq : reg.SameAdmitted reg' q) (h : reg.SameChain reg' type) :
    reg'.candidates type q = reg.candidates type q := by
  rw [candidates, candidates, hierarchy_congr h]
  simp only [collect_congr hq]

lemma nameOf_congr (h : reg'.get? type = reg.get? type) : reg'.nameOf type = reg.nameOf type := by
  rw [nameOf, nameOf, h]

lemma find_congr (hq : reg.SameAdmitted reg' q) (h : reg.SameChain reg' type) :
    reg'.find type q = reg.find type q := by
  have hchoose : reg'.choose type q = reg.choose type q := by
    funext found
    cases found with
    | nil => simp only [choose, nameOf_congr h.self]
    | cons c found => simp only [choose, nameOf_congr h.self]
  rw [find, find, hchoose, candidates_congr hq h]

lemma findAll_congr (hq : reg.SameAdmitted reg' q) (h : reg.SameChain reg' type) :
    reg'.findAll type q = reg.findAll type q := by
  rw [findAll, findAll, candidates_congr hq h]

/-! ### What is found is declared -/

/-- A known type declares the member. -/
def Declares (reg : Registry) (m : Member) : Prop :=
  ∃ d, reg.get? m.declaring = some d ∧ m ∈ d.members

/-- If a search succeeds, the whole chain is known. -/
lemma exists_chain_of_find (h : reg.find type q = .ok m) : ∃ levels, reg.Chain type levels := by
  rcases chain_or_firstUnknown reg type with hc | ⟨missing, hm⟩
  · exact hc
  · rw [find_of_firstUnknown hm] at h
    cases h

/-- If a search for all members succeeds, the whole chain is known. -/
lemma exists_chain_of_findAll {ms : List Member} (h : reg.findAll type q = .ok ms) :
    ∃ levels, reg.Chain type levels := by
  rcases chain_or_firstUnknown reg type with hc | ⟨missing, hmissing⟩
  · exact hc
  · rw [findAll, candidates_of_firstUnknown hmissing] at h
    cases h

lemma Chain.exists_get?_of_mem (hc : reg.Chain type levels) {e : Descriptor} (he : e ∈ levels) :
    ∃ t, reg.get? t = some e := by
  obtain ⟨d, -, hmap⟩ := hc
  have hmem : some e ∈ d.ancestors.map reg.get? := hmap ▸ List.mem_map_of_mem he
  obtain ⟨t, -, ht⟩ := List.mem_map.mp hmem
  exact ⟨t, ht⟩

/-- The whole chain of the type is known, and the query lists the member at one of its levels. -/
def Lists (reg : Registry) (type : TypeId) (q : Query) (m : Member) : Prop :=
  ∃ levels, reg.Chain type levels ∧
    ∃ d i, (d, i) ∈ levels.zipIdx ∧ m ∈ d.members ∧ q.Listed reg levels i m

/-- What a search for one member finds is listed. -/
lemma lists_of_find (h : reg.find type q = .ok m) : reg.Lists type q m := by
  obtain ⟨levels, hc⟩ := exists_chain_of_find h
  obtain ⟨c, hfound, rfl⟩ := (h ▸ denotes_find hc q).mem
  obtain ⟨d, hd, hm, hl⟩ := Query.mem_listed.mp hfound
  exact ⟨levels, hc, d, c.level, hd, hm, hl⟩

/-- What a search for all members finds is listed. -/
lemma lists_of_findAll {ms : List Member} (h : reg.findAll type q = .ok ms) (hm : m ∈ ms) :
    reg.Lists type q m := by
  obtain ⟨levels, hc⟩ := exists_chain_of_findAll h
  rw [findAll_of_chain hc] at h
  cases h
  obtain ⟨c, hfound, rfl⟩ := List.mem_map.mp hm
  obtain ⟨d, hd, hm, hl⟩ := Query.mem_listed.mp hfound
  exact ⟨levels, hc, d, c.level, hd, hm, hl⟩

/-- What a search finds is declared by a known type. -/
lemma Valid.declares_of_find (hv : reg.Valid next) (h : reg.find type q = .ok m) :
    reg.Declares m := by
  obtain ⟨levels, hc, d, i, hd, hm, -⟩ := lists_of_find h
  obtain ⟨t, ht⟩ := hc.exists_get?_of_mem (List.fst_mem_of_mem_zipIdx hd)
  exact ⟨d, hv.declaring ht hm ▸ ht, hm⟩

/-! ### Answers that stay -/

/-- Registering a type leaves every chain as it is that has been handed out. -/
lemma Registered.sameChain {spec : TypeSpec} {base d : Descriptor} (hv : reg.Valid next)
    (h : reg.Registered spec next base d reg') (ht : type.code < next.code) :
    reg.SameChain reg' type :=
  ⟨h.get?_of_lt ht, fun he a ha => h.get?_of_lt (hv.ancestors he a ha)⟩

/-- Registering a type leaves every answer as it is. -/
lemma Registered.find_eq {spec : TypeSpec} {base d : Descriptor} (hv : reg.Valid next)
    (h : reg.Registered spec next base d reg') (hq : q.signature.OfRequest)
    (hfind : reg.find type q = .ok m) : reg'.find type q = .ok m := by
  obtain ⟨levels, e, he, -⟩ := exists_chain_of_find hfind
  rw [← hfind]
  exact find_congr ((hv.sameBuiltins (h.valid hv)).sameAdmitted hq)
    (h.sameChain hv (hv.allocated he))

/-- Unloading a type leaves the chains of all types that do not derive from it. -/
lemma Unloaded.sameChain {gone : TypeId} (hv : reg.Valid next) (h : reg.Unloaded gone reg')
    (hkept : type ∉ reg'.descendants gone ++ [gone]) : reg.SameChain reg' type := by
  rw [List.mem_append, List.mem_singleton, not_or] at hkept
  refine ⟨h.get?_of_ne hkept.2, fun {e} he t ht => h.get?_of_ne ?_⟩
  -- the unloaded type is not on the chain, or else the type is its descendant
  rintro rfl
  exact hkept.1 ((h.valid hv).mem_descendants ((h.get?_of_ne hkept.2).trans he) hkept.2 ht)

/-- Unloading a type leaves the answers for all types that do not derive from it. -/
lemma Unloaded.find_eq {gone : TypeId} (hv : reg.Valid next) (h : reg.Unloaded gone reg')
    (hq : q.signature.OfRequest) (hkept : type ∉ reg'.descendants gone ++ [gone])
    (hfind : reg.find type q = .ok m) : reg'.find type q = .ok m := by
  rw [← hfind]
  exact find_congr ((hv.sameBuiltins (h.valid hv)).sameAdmitted hq) (h.sameChain hv hkept)

end Registry

end LateBinding
