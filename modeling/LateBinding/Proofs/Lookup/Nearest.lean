import LateBinding.Proofs.Lookup.Reference

/-!
# The nearest level

A search for one member looks at the nearest of the levels at which something was found. This is the
first level that declares a wanted member, and there nothing is hidden.
-/

namespace LateBinding.Query

variable {q : Query} {reg : Registry} {nearer farther levels : List Descriptor} {d : Descriptor}

/-- The position of a level says how many levels are nearer. -/
lemma exists_split_of_mem_zipIdx {i : Nat} (hd : (d, i) ∈ levels.zipIdx) :
    ∃ nearer farther, levels = nearer ++ d :: farther ∧ nearer.length = i := by
  obtain ⟨hlt, rfl⟩ := List.getElem?_eq_some_iff.mp (List.mk_mem_zipIdx_iff_getElem?.mp hd)
  refine ⟨levels.take i, levels.drop (i + 1), ?_, List.length_take_of_le (Nat.le_of_lt hlt)⟩
  rw [List.getElem_cons_drop, List.take_append_drop]

lemma listed_eq_nil
    (h : ∀ level ∈ levels.zipIdx, ∀ m ∈ level.1.members, ¬ q.Wants reg level.2 m) :
    q.listed reg levels = [] := by
  refine List.eq_nil_iff_forall_not_mem.mpr fun c hc => ?_
  obtain ⟨e, he, hm, hl⟩ := mem_listed.mp hc
  exact h _ he _ hm hl.1

/-- At the first level that declares a wanted member nothing is hidden, and all else is listed at
levels after it. -/
lemma exists_listed_eq
    (hnearer : ∀ level ∈ nearer.zipIdx, ∀ m ∈ level.1.members, ¬ q.Wants reg level.2 m) :
    ∃ rest, q.listed reg (nearer ++ d :: farther) =
        (d.members.filter (q.Wants reg nearer.length ·)).map (⟨nearer.length, ·⟩) ++ rest ∧
      ∀ c ∈ rest, nearer.length < c.level := by
  -- nothing nearer is wanted, so nothing hides a member of this level
  have hown : ∀ m, q.Listed reg (nearer ++ d :: farther) nearer.length m ↔
      q.Wants reg nearer.length m := by
    intro m
    rw [Listed, List.take_left]
    exact and_iff_left fun level hlevel n hn hw => absurd hw (hnearer level hlevel n hn)
  have hnone : nearer.zipIdx.flatMap (fun level =>
      (level.1.members.filter (q.Listed reg (nearer ++ d :: farther) level.2 ·)).map
        (Found.mk level.2)) = [] := by
    refine List.flatMap_eq_nil_iff.mpr fun level hlevel => ?_
    rw [List.map_eq_nil_iff, List.filter_eq_nil_iff]
    intro m hm hl
    exact hnearer level hlevel m hm (decide_eq_true_eq.mp hl).1
  refine ⟨(farther.zipIdx (nearer.length + 1)).flatMap fun level =>
    (level.1.members.filter (q.Listed reg (nearer ++ d :: farther) level.2 ·)).map
      (⟨level.2, ·⟩), ?_, fun c hc => ?_⟩
  · rw [listed, List.zipIdx_append, List.flatMap_append, List.zipIdx_cons, List.flatMap_cons,
      hnone, List.nil_append, Nat.zero_add]
    simp only [hown]
  · -- what else is listed is farther away
    obtain ⟨level, hlevel, hc⟩ := List.mem_flatMap.mp hc
    obtain ⟨m, -, rfl⟩ := List.mem_map.mp hc
    exact List.le_snd_of_mem_zipIdx hlevel

lemma nearest_append {found rest : List Found} {k : Nat} (hk : ∀ c ∈ found, c.level = k)
    (hfound : found ≠ []) (hrest : ∀ c ∈ rest, k < c.level) : nearest (found ++ rest) = found := by
  have hle : ∀ e ∈ found ++ rest, k ≤ e.level := by
    intro e he
    rcases List.mem_append.mp he with he | he
    · exact Nat.le_of_eq (hk e he).symm
    · exact Nat.le_of_lt (hrest e he)
  obtain ⟨c, hc⟩ := List.exists_mem_of_ne_nil found hfound
  rw [nearest, List.filter_append, List.filter_eq_self.mpr, List.filter_eq_nil_iff.mpr,
    List.append_nil]
  · -- what is farther is not among the nearest
    intro e he hall
    have hec := of_decide_eq_true (List.all_eq_true.mp hall c (List.mem_append_left rest hc))
    rw [hk c hc] at hec
    exact absurd (hrest e he) (Nat.not_lt.mpr hec)
  · intro e he
    refine List.all_eq_true.mpr fun e' he' => decide_eq_true ?_
    rw [hk e he]
    exact hle e' he'

/-- The nearest of all that is listed is what is wanted at the first level that declares some. -/
lemma nearest_listed
    (hnearer : ∀ level ∈ nearer.zipIdx, ∀ m ∈ level.1.members, ¬ q.Wants reg level.2 m)
    (hd : d.members.filter (q.Wants reg nearer.length ·) ≠ []) :
    nearest (q.listed reg (nearer ++ d :: farther)) =
      (d.members.filter (q.Wants reg nearer.length ·)).map (⟨nearer.length, ·⟩) := by
  obtain ⟨rest, hlisted, hrest⟩ : ∃ rest, q.listed reg (nearer ++ d :: farther) = _ ∧ _ :=
    exists_listed_eq hnearer
  rw [hlisted]
  refine nearest_append (fun c hc => ?_) (fun h => hd (List.map_eq_nil_iff.mp h)) hrest
  obtain ⟨m, -, rfl⟩ := List.mem_map.mp hc
  rfl

end LateBinding.Query
