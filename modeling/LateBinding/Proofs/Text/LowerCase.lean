import Mathlib.Data.List.Infix
import LateBinding.Text.LowerCase

/-!
# Lower case in context

A capital sigma is the one character whose lower-case form depends on the text around it. What a
larger text does to a text that occurs in it is therefore said by its sigmas: one is settled if its
form is decided within the text. If all are settled, the lower-case form of the text occurs in that
of every larger one; otherwise a letter before or after the text spoils it.

Main statements: `lower_infix_of_settled`, `exists_larger_of_not_settled`.
-/

namespace LateBinding.Text

variable {before after before' after' cs xs ys : List Char} {c : Char}

lemma toList_lower (s : String) : (lower s).toList = lowerFrom [] s.toList :=
  String.toList_ofList

/-! ### Pieces of a text -/

/-- The lower-case form of a text that stands between two others, the first of which is given
backwards. -/
def lowerBetween (before : List Char) : List Char → List Char → List Char
  | [], _ => []
  | c :: cs, after => lowerAt before c (cs ++ after) ++ lowerBetween (c :: before) cs after

@[simp] lemma lowerBetween_nil_right : lowerBetween before cs [] = lowerFrom before cs := by
  induction cs generalizing before with
  | nil => rfl
  | cons c cs ih => rw [lowerBetween, lowerFrom, List.append_nil, ih]

lemma lowerBetween_append : lowerBetween before (xs ++ ys) after =
    lowerBetween before xs (ys ++ after) ++ lowerBetween (xs.reverse ++ before) ys after := by
  induction xs generalizing before with
  | nil => rfl
  | cons x xs ih =>
    rw [List.cons_append, lowerBetween, lowerBetween, ih, List.append_assoc, List.append_assoc,
      List.reverse_cons, List.append_assoc, List.singleton_append]

lemma lowerFrom_append : lowerFrom before (xs ++ ys) =
    lowerBetween before xs ys ++ lowerFrom (xs.reverse ++ before) ys := by
  rw [← lowerBetween_nil_right, lowerBetween_append, List.append_nil, lowerBetween_nil_right]

/-- A character takes as much room whatever stands around it. -/
lemma length_lowerAt :
    (lowerAt before c after).length = (lowerAt before' c after').length := by
  rw [lowerAt, lowerAt]
  split
  · rfl
  · split <;> rfl

lemma length_lowerBetween :
    (lowerBetween before cs after).length = (lowerBetween before' cs after').length := by
  induction cs generalizing before before' with
  | nil => rfl
  | cons c cs ih =>
    rw [lowerBetween, lowerBetween, List.length_append, List.length_append, length_lowerAt, ih]

lemma length_lowerFrom :
    (lowerFrom before cs).length = (lowerFrom before' cs).length := by
  rw [← lowerBetween_nil_right, ← lowerBetween_nil_right, length_lowerBetween]

lemma lowerBetween_sigma : lowerBetween before (xs ++ 'Σ' :: ys) after =
    lowerBetween before xs ('Σ' :: ys ++ after) ++
      lowerSigma (xs.reverse ++ before) (ys ++ after) ::
        lowerBetween ('Σ' :: (xs.reverse ++ before)) ys after := by
  rw [lowerBetween_append, lowerBetween]
  rfl

/-- Texts that are equal in lower case have equal sigmas in equal places. -/
lemma lowerSigma_eq_of_lowerBetween_eq
    (h : lowerBetween before (xs ++ 'Σ' :: ys) after =
      lowerBetween before' (xs ++ 'Σ' :: ys) after') :
    lowerSigma (xs.reverse ++ before) (ys ++ after) =
      lowerSigma (xs.reverse ++ before') (ys ++ after') := by
  rw [lowerBetween_sigma, lowerBetween_sigma] at h
  exact (List.cons.inj (List.append_inj h length_lowerBetween).2).1

/-! ### Settled sigmas -/

lemma meetsCased_cons :
    meetsCased (c :: cs) = if isCaseIgnorable c then meetsCased cs else isCased c := by
  rw [meetsCased, List.dropWhile_cons]
  cases isCaseIgnorable c <;> rfl

/-- The first of two pieces decides, unless there is nothing in it that could. -/
lemma meetsCased_append : meetsCased (xs ++ ys) =
    if xs.all isCaseIgnorable then meetsCased ys else meetsCased xs := by
  induction xs with
  | nil => rfl
  | cons x xs ih =>
    rw [List.cons_append, meetsCased_cons, meetsCased_cons, ih, List.all_cons]
    cases isCaseIgnorable x <;> rfl

lemma meetsCased_of_all (h : xs.all isCaseIgnorable = true) : meetsCased xs = false := by
  rw [← List.append_nil xs, meetsCased_append, if_pos h]
  rfl

/-- The form of the sigma between two pieces of text stays whatever stands farther away: a letter
follows in the second piece, or else something in the first piece decides, either for the other form
or, if it is a letter, together with something in the second piece that ends the word. -/
def settledBetween (before after : List Char) : Bool :=
  meetsCased after ||
    !before.all isCaseIgnorable && (!meetsCased before || !after.all isCaseIgnorable)

/-- Every capital sigma of a text that follows `before`, which is given backwards, is settled. -/
def settledFrom (before : List Char) : List Char → Bool
  | [] => true
  | c :: cs => (c != 'Σ' || settledBetween before cs) && settledFrom (c :: before) cs

lemma settledBetween_iff : settledBetween before after = true ↔ meetsCased after = true ∨
    before.all isCaseIgnorable = false ∧
      (meetsCased before = false ∨ after.all isCaseIgnorable = false) := by
  simp only [settledBetween, Bool.or_eq_true, Bool.and_eq_true, Bool.not_eq_true']

lemma meetsCased_append_of_meets (h : meetsCased xs = true) : meetsCased (xs ++ ys) = true := by
  rw [meetsCased_append, if_neg, h]
  intro hall
  rw [meetsCased_of_all hall] at h
  cases h

lemma meetsCased_append_of_not_all (h : xs.all isCaseIgnorable = false) :
    meetsCased (xs ++ ys) = meetsCased xs := by
  rw [meetsCased_append, h, if_neg Bool.false_ne_true]

/-- What stands farther away does not matter to a settled sigma. -/
lemma lowerSigma_append (h : settledBetween before after = true) :
    lowerSigma (before ++ xs) (after ++ ys) = lowerSigma before after := by
  rw [lowerSigma, lowerSigma]
  rcases settledBetween_iff.mp h with hafter | ⟨hbefore, hnone | hafter⟩
  · rw [meetsCased_append_of_meets hafter, hafter, Bool.not_true, Bool.and_false, Bool.and_false]
  · rw [meetsCased_append_of_not_all hbefore, hnone, Bool.false_and, Bool.false_and]
  · rw [meetsCased_append_of_not_all hbefore, meetsCased_append_of_not_all hafter]

/-! ### Texts with settled sigmas -/

/-- What stands around a text with settled sigmas does not matter to its lower-case form. -/
lemma lowerBetween_of_settled (h : settledFrom before cs = true) :
    lowerBetween (before ++ xs) cs ys = lowerFrom before cs := by
  induction cs generalizing before with
  | nil => rfl
  | cons c cs ih =>
    rw [settledFrom, Bool.and_eq_true, Bool.or_eq_true] at h
    have hat : lowerAt (before ++ xs) c (cs ++ ys) = lowerAt before c cs := by
      rw [lowerAt, lowerAt]
      split
      · rename_i hsigma
        have hsettled := h.1.resolve_left fun hne => bne_iff_ne.mp hne (beq_iff_eq.mp hsigma)
        rw [lowerSigma_append hsettled]
      · rfl
    rw [lowerBetween, lowerFrom, hat, ← List.cons_append, ih h.2]

/-- The lower-case form of a text with settled sigmas occurs in that of every larger text. -/
lemma lower_infix_of_settled (h : settledFrom [] cs = true) (hoccurs : cs <:+: xs) :
    lowerFrom [] cs <:+: lowerFrom [] xs := by
  obtain ⟨before, after, rfl⟩ := hoccurs
  have hpiece : lowerBetween ([] ++ before.reverse) cs after = lowerFrom [] cs :=
    lowerBetween_of_settled h
  refine ⟨lowerBetween [] before (cs ++ after),
    lowerFrom (cs.reverse ++ before.reverse) after, ?_⟩
  rw [List.append_assoc, List.append_assoc, lowerFrom_append, lowerFrom_append, List.append_nil,
    ← hpiece, List.nil_append]

/-! ### Texts with sigmas that are not settled -/

lemma exists_not_settledBetween (h : settledFrom before cs = false) :
    ∃ xs ys, cs = xs ++ 'Σ' :: ys ∧ settledBetween (xs.reverse ++ before) ys = false := by
  induction cs generalizing before with
  | nil => cases h
  | cons c cs ih =>
    rw [settledFrom, Bool.and_eq_false_iff] at h
    rcases h with h | h
    · rw [Bool.or_eq_false_iff] at h
      obtain ⟨hsigma, hnot⟩ := h
      obtain rfl : c = 'Σ' := by simpa using hsigma
      exact ⟨[], cs, rfl, hnot⟩
    · obtain ⟨xs, ys, rfl, hnot⟩ := ih h
      refine ⟨c :: xs, ys, rfl, ?_⟩
      rwa [List.reverse_cons, List.append_assoc, List.singleton_append]

/-- The letters a and b, each of which is its own lower-case form. -/
def IsLetter (c : Char) : Prop := c = 'a' ∨ c = 'b'

lemma IsLetter.meetsCased (h : IsLetter c) : meetsCased [c] = true := by
  rcases h with rfl | rfl <;> decide +kernel

lemma IsLetter.lowerAt (h : IsLetter c) (before after : List Char) :
    lowerAt before c after = [c] := by
  rcases h with rfl | rfl <;> rfl

lemma IsLetter.ne_point (h : IsLetter c) : '.' ≠ c := by
  rcases h with rfl | rfl <;> decide

lemma exists_letter_ne (x : Option Char) : ∃ c, IsLetter c ∧ x ≠ some c := by
  by_cases h : x = some 'a'
  · exact ⟨'b', Or.inr rfl, by rw [h]; decide⟩
  · exact ⟨'a', Or.inl rfl, h⟩

/-- A letter before the text or one after it changes the form of a sigma that is not settled. -/
lemma lowerSigma_ne (h : settledBetween before after = false) :
    (∀ c, IsLetter c → lowerSigma (before ++ [c]) after ≠ lowerSigma before after) ∨
      ∀ c, IsLetter c → lowerSigma before (after ++ [c]) ≠ lowerSigma before after := by
  simp only [settledBetween, Bool.or_eq_false_iff, Bool.and_eq_false_iff, Bool.not_eq_false'] at h
  obtain ⟨hafter, hall | ⟨hbefore, hall⟩⟩ := h
  · left
    intro c hc
    rw [lowerSigma, lowerSigma, meetsCased_append, if_pos hall, hc.meetsCased, hafter,
      meetsCased_of_all hall]
    decide
  · right
    intro c hc
    rw [lowerSigma, lowerSigma, meetsCased_append, if_pos hall, hc.meetsCased, hafter, hbefore]
    decide

section Lists

variable {α : Type} {l m : List α} {a : α}

/-- What occurs in a list that is longer by its first element, and does not begin with it. -/
lemma eq_of_infix_cons (h : l <:+: a :: m) (hlength : l.length = m.length)
    (hhead : l.head? ≠ some a) : l = m := by
  rcases List.infix_cons_iff.mp h with h | h
  · cases l with
    | nil => exact (List.length_eq_zero_iff.mp hlength.symm).symm
    | cons b l => exact absurd (congrArg some (List.cons_prefix_cons.mp h).1) hhead
  · exact h.eq_of_length hlength

/-- What occurs in a list that is longer by its last element, and does not end with it. -/
lemma eq_of_infix_concat (h : l <:+: m ++ [a]) (hlength : l.length = m.length)
    (hlast : l.getLast? ≠ some a) : l = m := by
  rcases List.infix_concat_iff.mp h with h | h
  · rcases List.suffix_concat_iff.mp h with rfl | ⟨b, rfl, -⟩
    · exact (List.length_eq_zero_iff.mp hlength.symm).symm
    · exact absurd List.getLast?_concat hlast
  · exact h.eq_of_length hlength

end Lists

/-- If some sigma of a text is not settled, a letter before or after the text gives a larger text
whose lower-case form does not hold that of the text. -/
lemma exists_larger_of_not_settled (h : settledFrom [] cs = false) :
    ∃ larger, cs <:+: larger ∧ ('.' ∈ larger ↔ '.' ∈ cs) ∧
      ¬ lowerFrom [] cs <:+: lowerFrom [] larger := by
  obtain ⟨xs, ys, hsplit, hnot⟩ := exists_not_settledBetween h
  rw [List.append_nil] at hnot
  rcases lowerSigma_ne hnot with hne | hne
  · -- a letter before the text spoils the sigma
    obtain ⟨c, hc, hhead⟩ := exists_letter_ne (lowerFrom [] cs).head?
    refine ⟨c :: cs, ⟨[c], [], by simp⟩, by simp [hc.ne_point], fun hoccurs => hne c hc ?_⟩
    rw [lowerFrom, hc.lowerAt, List.singleton_append] at hoccurs
    have heq : lowerBetween [] cs [] = lowerBetween [c] cs [] := by
      rw [lowerBetween_nil_right, lowerBetween_nil_right]
      exact eq_of_infix_cons hoccurs length_lowerFrom hhead
    rw [hsplit] at heq
    simpa using (lowerSigma_eq_of_lowerBetween_eq heq).symm
  · -- a letter behind the text does
    obtain ⟨c, hc, hlast⟩ := exists_letter_ne (lowerFrom [] cs).getLast?
    refine ⟨cs ++ [c], ⟨[], [c], rfl⟩, by simp [hc.ne_point], fun hoccurs => hne c hc ?_⟩
    rw [lowerFrom_append, lowerFrom, hc.lowerAt] at hoccurs
    have heq : lowerBetween [] cs [] = lowerBetween [] cs [c] := by
      rw [lowerBetween_nil_right]
      refine eq_of_infix_concat hoccurs ?_ hlast
      rw [← lowerBetween_nil_right, length_lowerBetween]
    rw [hsplit] at heq
    simpa using (lowerSigma_eq_of_lowerBetween_eq heq).symm

end LateBinding.Text
