import LateBinding.Proofs.Lookup.Reference

/-!
# Demands before and after hiding

A member is hidden only by a member of the same kind, name and parameter list. What a query demands
of these three may therefore as well be demanded of the members that are listed without the demand.
-/

namespace LateBinding.Query

variable {q q' : Query} {reg : Registry} {p : Member → Bool} {levels : List Descriptor} {i : Nat}
  {m : Member}

/-- The first query asks for what the second one asks for, and demands something more of kind, name
and parameter list. -/
structure Narrows (q q' : Query) (reg : Registry) (p : Member → Bool) : Prop where
  signature : ∀ {m n : Member}, n.SameSignature m → p n = p m
  wants : ∀ {i m}, q.Wants reg i m ↔ q'.Wants reg i m ∧ p m = true

namespace Narrows

variable (h : q.Narrows q' reg p)
include h

/-- What hides a member passes the same demand as the member. -/
lemma listed_iff : q.Listed reg levels i m ↔ q'.Listed reg levels i m ∧ p m = true := by
  rw [Listed, Listed, h.wants]
  constructor
  · rintro ⟨⟨hw, hm⟩, hhidden⟩
    refine ⟨⟨hw, fun nearer hnearer n hn hwn hs => ?_⟩, hm⟩
    exact hhidden nearer hnearer n hn (h.wants.mpr ⟨hwn, (h.signature hs).trans hm⟩) hs
  · rintro ⟨⟨hw, hhidden⟩, hm⟩
    exact ⟨⟨hw, hm⟩, fun nearer hnearer n hn hwn =>
      hhidden nearer hnearer n hn (h.wants.mp hwn).1⟩

/-- What is listed with the demand is what the demand leaves of the list without it. -/
lemma listed_eq_filter (levels : List Descriptor) :
    q.listed reg levels = (q'.listed reg levels).filter (p ·.member) := by
  rw [listed, listed, List.filter_flatMap]
  refine List.flatMap_congr fun level _ => ?_
  rw [List.filter_map, List.filter_filter]
  congr 1
  refine List.filter_congr fun m _ => ?_
  rw [Bool.eq_iff_iff, decide_eq_true_eq, h.listed_iff, Bool.and_eq_true, decide_eq_true_eq,
    and_comm]
  rfl

end Narrows

end LateBinding.Query
