import Mathlib.Data.List.Forall2

/-!
# Computations that may fail

What is known of the parts of a computation that has given a result.
-/

namespace LateBinding

variable {ε α β : Type} {x : Except ε α} {f g : α → Except ε β} {b : β} {xs : List α} {ys : List β}

lemma exists_of_bind_eq_ok (h : x >>= f = .ok b) : ∃ a, x = .ok a ∧ f a = .ok b := by
  cases x with
  | error e => cases h
  | ok a => exact ⟨a, rfl, h⟩

lemma exists_of_map_eq_ok {g : α → β} (h : g <$> x = .ok b) : ∃ a, x = .ok a ∧ g a = b := by
  cases x with
  | error e => cases h
  | ok a => exact ⟨a, rfl, Except.ok.inj h⟩

lemma eq_error_of_map_eq_error {g : α → β} {e : ε} (h : x.map g = .error e) : x = .error e := by
  cases x with
  | error e' => exact congrArg Except.error (Except.error.inj h)
  | ok a => cases h

lemma eq_ok_of_toOption_eq_some {a : α} (h : x.toOption = some a) : x = .ok a := by
  cases x with
  | error e => cases h
  | ok b => exact congrArg Except.ok (Option.some.inj h)

lemma exists_of_isOk (h : x.isOk = true) : ∃ a, x = .ok a := by
  cases x with
  | error e => cases h
  | ok a => exact ⟨a, rfl⟩

lemma exists_of_mapM_cons {a : α} (h : (a :: xs).mapM f = .ok ys) :
    ∃ b bs, f a = .ok b ∧ xs.mapM f = .ok bs ∧ ys = b :: bs := by
  rw [List.mapM_cons] at h
  obtain ⟨b, hb, h⟩ := exists_of_bind_eq_ok h
  obtain ⟨bs, hbs, h⟩ := exists_of_bind_eq_ok h
  exact ⟨b, bs, hb, hbs, (Except.ok.inj h).symm⟩

lemma mapM_cons_of_ok {a : α} (ha : f a = .ok b) (hxs : xs.mapM f = .ok ys) :
    (a :: xs).mapM f = .ok (b :: ys) := by
  rw [List.mapM_cons, ha, hxs]
  rfl

lemma exists_of_mem_mapM (h : xs.mapM f = .ok ys) (hb : b ∈ ys) : ∃ a ∈ xs, f a = .ok b := by
  induction xs generalizing ys with
  | nil =>
    cases h
    cases hb
  | cons a xs ih =>
    obtain ⟨c, cs, hc, hcs, rfl⟩ := exists_of_mapM_cons h
    rcases List.mem_cons.mp hb with rfl | hb
    · exact ⟨a, List.mem_cons_self, hc⟩
    · obtain ⟨a', ha', hf⟩ := ih hcs hb
      exact ⟨a', List.mem_cons_of_mem a ha', hf⟩

lemma mapM_congr (h : ∀ a ∈ xs, f a = g a) : xs.mapM f = xs.mapM g := by
  induction xs with
  | nil => rfl
  | cons a xs ih =>
    rw [List.mapM_cons, List.mapM_cons, h a List.mem_cons_self,
      ih fun a' ha' => h a' (List.mem_cons_of_mem a ha')]

/-- Either there is a result for each element, or the first one without a result fails. -/
lemma mapM_cases (f : α → Except ε β) (xs : List α) :
    (∃ ys, List.Forall₂ (f · = .ok ·) xs ys ∧ xs.mapM f = .ok ys) ∨
    ∃ before a after ys e, xs = before ++ a :: after ∧ List.Forall₂ (f · = .ok ·) before ys ∧
      f a = .error e ∧ xs.mapM f = .error e := by
  induction xs with
  | nil => exact .inl ⟨[], .nil, rfl⟩
  | cons a xs ih =>
    cases ha : f a with
    | error e =>
      refine .inr ⟨[], a, xs, [], e, rfl, .nil, ha, ?_⟩
      rw [List.mapM_cons, ha]
      rfl
    | ok b =>
      rcases ih with ⟨ys, hys, hmap⟩ | ⟨before, a', after, ys, e, rfl, hbefore, ha', hmap⟩
      · exact .inl ⟨b :: ys, .cons ha hys, mapM_cons_of_ok ha hmap⟩
      · refine .inr ⟨a :: before, a', after, b :: ys, e, rfl, .cons ha hbefore, ha', ?_⟩
        rw [List.mapM_cons, ha, hmap]
        rfl

/-- If there is a result for each element, there is a list of results. -/
lemma exists_mapM_eq_ok (h : ∀ a ∈ xs, ∃ b, f a = .ok b) : ∃ ys, xs.mapM f = .ok ys := by
  rcases mapM_cases f xs with ⟨ys, -, hys⟩ | ⟨before, a, after, _, e, rfl, -, ha, -⟩
  · exact ⟨ys, hys⟩
  · obtain ⟨b, hb⟩ := h a (by simp)
    cases ha.symm.trans hb

/-- Where the results of `f` are also those of `g`, so are the lists of results. -/
lemma mapM_of_forall (h : xs.mapM f = .ok ys) (hfg : ∀ a ∈ xs, ∀ b, f a = .ok b → g a = .ok b) :
    xs.mapM g = .ok ys := by
  induction xs generalizing ys with
  | nil => exact h
  | cons a xs ih =>
    obtain ⟨b, bs, hb, hbs, rfl⟩ := exists_of_mapM_cons h
    exact mapM_cons_of_ok (hfg a List.mem_cons_self b hb)
      (ih hbs fun a' ha' => hfg a' (List.mem_cons_of_mem a ha'))

end LateBinding
