import LateBinding.Proofs.Lookup.Filtered
import LateBinding.Proofs.Lookup.Frame
import LateBinding.Proofs.Lookup.Nearest
import LateBinding.Proofs.Lookup.Overload

/-!
# Members asked for exactly

Whoever has seen a member in a listing may ask for it by its own kind, name and parameter list. Of
the listed members this leaves those of one level that share all three, since a nearer one would
have hidden the member and a farther one is hidden by it. So the answer is the member, unless its
own type shows another one that is like it.

Main statement: `Registry.find_exactly_eq`.
-/

namespace LateBinding

/-! ### What the flags ask for -/

namespace Flags

/-- Names are compared as they are and in full. -/
structure Literal (f : Flags) : Prop where
  full : f.partialName = false
  cased : f.ignoreCase = false
  untrimmed : f.trimExplicit = false

lemma Literal.nameMatches_iff {f : Flags} (h : f.Literal) {member name : String} :
    f.nameMatches member name = true ↔ member = name := by
  simp [nameMatches, fold, trim, h.full, h.cased, h.untrimmed]

/-- The flags let the member through, whatever its name is. -/
structure Shows (f : Flags) (m : Member) : Prop where
  scope : f.acceptsScope m.isStatic = true
  visibility : f.acceptsVisibility m.isPublic = true
  backing : f.excludeBacking = true → m.isSynthesized = false

instance (f : Flags) (m : Member) : Decidable (f.Shows m) :=
  decidable_of_iff (f.acceptsScope m.isStatic = true ∧ f.acceptsVisibility m.isPublic = true ∧
    (f.excludeBacking = true → m.isSynthesized = false))
    ⟨fun h => ⟨h.1, h.2.1, h.2.2⟩, fun h => ⟨h.scope, h.visibility, h.backing⟩⟩

end Flags

/-! ### Parameter lists without the wildcard -/

lemma Param.accepts_iff {wanted declared : Param} (h : wanted.type ≠ TypeId.any) :
    wanted.accepts declared = true ↔ wanted = declared := by
  simp [accepts, h]

/-- Parameters that name their types are accepted by a member that has just these. -/
lemma Member.acceptsParams_iff {m : Member} {wanted : List Param}
    (h : ∀ p ∈ wanted, p.type ≠ TypeId.any) :
    m.acceptsParams wanted = true ↔ m.params = wanted := by
  rw [acceptsParams, agree_iff_forall₂,
    forall₂_congr_of_mem fun p hp _ => Param.accepts_iff (h p hp), List.forall₂_eq_eq_eq, eq_comm]

/-! ### The narrow query and the broad one -/

/-- The members of a type that the flags let through and that share kind, name and parameter list
with a given one. -/
def Descriptor.namesakes (d : Descriptor) (f : Flags) (m : Member) : List Member :=
  d.members.filter fun n => n.SameSignature m ∧ f.Shows n

namespace Query

variable {kinds : KindSet} {flags : Flags} {reg : Registry} {nearer farther : List Descriptor}
  {i : Nat} {m n : Member} {d : Descriptor}

/-- What asks for a member by its own kind, name and parameter list. -/
def exactly (m : Member) (flags : Flags) : Query where
  kinds := .single m.kind
  name := some m.name
  flags := flags
  signature := .exact m.params

/-- The narrow query asks for the signature of the member beside what the broad one asks for. -/
lemma narrows_exactly (hflags : flags.Literal) (hparams : ∀ p ∈ m.params, p.type ≠ TypeId.any)
    (hkind : kinds.has m.kind = true) :
    (exactly m flags).Narrows { kinds, flags } reg (·.SameSignature m) where
  signature := by
    intro n l hs
    rw [decide_eq_decide]
    exact ⟨hs.symm.trans, hs.trans⟩
  wants := by
    intro i n
    rw [decide_eq_true_eq]
    constructor
    · -- the name is literal and no parameter type a wildcard, so nothing else fits
      intro h
      have hk : m.kind = n.kind := by simpa [exactly] using h.kind
      refine ⟨⟨h.own_of_declaredOnly, h.own_of_constructor, hk ▸ hkind, h.scope, h.visibility,
        fun _ hname => (by cases hname), h.backing, rfl⟩, hk.symm, ?_, ?_⟩
      · exact hflags.nameMatches_iff.mp (h.name m.name rfl)
      · exact (Member.acceptsParams_iff hparams).mp h.params
    · rintro ⟨h, hk, hname, hps⟩
      refine ⟨h.own_of_declaredOnly, h.own_of_constructor, by simp [exactly, hk], h.scope,
        h.visibility, ?_, h.backing, (Member.acceptsParams_iff hparams).mpr hps⟩
      rintro _ ⟨⟩
      exact hflags.nameMatches_iff.mpr hname

/-- Beside a wanted member the broad query wants its namesakes. -/
lemma wants_iff_shows (hm : Wants { kinds, flags } reg i m) (hs : n.SameSignature m) :
    Wants { kinds, flags } reg i n ↔ flags.Shows n := by
  constructor
  · exact fun h => ⟨h.scope, h.visibility, h.backing⟩
  · intro h
    exact ⟨hm.own_of_declaredOnly, hs.1 ▸ hm.own_of_constructor, hs.1 ▸ hm.kind, h.scope,
      h.visibility, fun _ hname => (by cases hname), h.backing, rfl⟩

/-- The nearest of what the narrow query lists are the namesakes of the member. -/
lemma nearest_exactly (hflags : flags.Literal) (hparams : ∀ p ∈ m.params, p.type ≠ TypeId.any)
    (hm : m ∈ d.namesakes flags m)
    (hl : Listed { kinds, flags } reg (nearer ++ d :: farther) nearer.length m) :
    nearest ((exactly m flags).listed reg (nearer ++ d :: farther)) =
      (d.namesakes flags m).map (Found.mk nearer.length) := by
  have hnarrow : (exactly m flags).Narrows { kinds, flags } reg (·.SameSignature m) :=
    narrows_exactly hflags hparams hl.1.kind
  have hhere : d.members.filter ((exactly m flags).Wants reg nearer.length ·) =
      d.namesakes flags m := by
    refine List.filter_congr fun n _ => ?_
    rw [decide_eq_decide, hnarrow.wants, decide_eq_true_eq, and_comm]
    exact and_congr_right fun hs => wants_iff_shows hl.1 hs
  rw [nearest_listed, hhere]
  · -- what is wanted at a nearer level would hide the member
    intro level hlevel n hn hw
    obtain ⟨hw, hs⟩ := hnarrow.wants.mp hw
    exact hl.2 level (by rwa [List.take_left]) n hn hw (of_decide_eq_true hs)
  · rw [hhere]
    exact List.ne_nil_of_mem hm

end Query

namespace Registry

open Query

variable {reg : Registry} {next type : TypeId} {kinds : KindSet} {flags : Flags}
  {found : List Member} {m : Member}

/-- A listed member that is asked for exactly is found, unless its type shows another one that is
like it; then the answer is that there are several. -/
lemma find_exactly_eq (hv : reg.Valid next) (hflags : flags.Literal)
    (hfound : reg.findAll type { kinds, flags } = .ok found) (hm : m ∈ found)
    (hparams : ∀ p ∈ m.params, p.type ≠ TypeId.any) :
    ∃ d, reg.get? m.declaring = some d ∧ m ∈ d.namesakes flags m ∧
      reg.find type (.exactly m flags) =
        if (d.namesakes flags m).length = 1 then .ok m
        else .error (.ambiguous (.single m.kind) m.name (reg.nameOf type)
          (d.namesakes flags m).length) := by
  obtain ⟨levels, hchain, d, i, hd, hmem, hl⟩ := lists_of_findAll hfound hm
  obtain ⟨t, ht⟩ := hchain.exists_get?_of_mem (List.fst_mem_of_mem_zipIdx hd)
  have hself : m ∈ d.namesakes flags m := by
    refine List.mem_filter.mpr ⟨hmem, decide_eq_true ⟨⟨rfl, rfl, rfl⟩, ?_⟩⟩
    exact ⟨hl.1.scope, hl.1.visibility, hl.1.backing⟩
  refine ⟨d, hv.declaring ht hmem ▸ ht, hself, ?_⟩
  obtain ⟨nearer, farther, rfl, rfl⟩ := exists_split_of_mem_zipIdx hd
  have hnearest := nearest_exactly hflags hparams hself hl
  refine (denotes_find hchain (exactly m flags)).unique ?_
  split
  · -- no other member of the type passes for it
    rename_i hlen
    obtain ⟨n, hn⟩ := List.length_eq_one_iff.mp hlen
    rw [hn, List.mem_singleton] at hself
    rw [hn, ← hself, List.map_singleton] at hnearest
    exact .only (c := ⟨nearer.length, m⟩) hflags.full hnearest
  · -- several do, and there are no arguments that could tell them apart
    rename_i hlen
    have hpos : 0 < (d.namesakes flags m).length := List.length_pos_of_mem hself
    rw [← List.length_map (Found.mk nearer.length), ← hnearest] at hlen hpos ⊢
    exact .ambiguous hflags.full (by omega) fun arguments e hs => by cases hs

end Registry

end LateBinding
