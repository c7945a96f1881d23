import Mathlib.Data.List.Nodup
import LateBinding.Table

/-!
# What tables hold

Each operation changes what a table holds for the keys it is about, and for no others. As long as a
table is filled by insertions and thinned by tests, no key has two entries; then the entries of the
table are exactly what it holds.
-/

namespace LateBinding.Table

variable {κ α : Type} {t : Table κ α} {k : κ} {a : α}

/-! ### The view -/

section

variable [DecidableEq κ]

lemma lookup_filter (p : κ → Bool) (k : κ) (es : List (κ × α)) :
    (es.filter fun e => p e.1).lookup k = if p k then es.lookup k else none := by
  induction es with
  | nil => simp
  | cons e es ih =>
    obtain ⟨k', a⟩ := e
    by_cases hk : k = k'
    · subst hk
      by_cases hp : p k <;> simp [hp, ih]
    · have hb : (k == k') = false := by simpa using hk
      by_cases hp : p k' <;> simp [List.lookup_cons, hp, ih, hb]

lemma mem_entries_of_get? (h : t.get? k = some a) : (k, a) ∈ t.entries := by
  obtain ⟨before, after, heq, -⟩ := List.lookup_eq_some_iff.mp h
  rw [heq]
  exact List.mem_append_right _ List.mem_cons_self

lemma mem_values_of_get? (h : t.get? k = some a) : a ∈ t.values :=
  List.mem_map.mpr ⟨(k, a), mem_entries_of_get? h, rfl⟩

@[simp] lemma get?_keep (t : Table κ α) (p : κ → Bool) (k : κ) :
    (t.keep p).get? k = if p k then t.get? k else none :=
  lookup_filter p k t.entries

@[simp] lemma get?_erase (t : Table κ α) (k k' : κ) :
    (t.erase k).get? k' = if k' = k then none else t.get? k' := by
  simp only [get?, erase]
  rw [lookup_filter (fun x => decide (x ≠ k))]
  by_cases h : k' = k <;> simp [h]

@[simp] lemma get?_insert_self (t : Table κ α) (k : κ) (a : α) :
    (t.insert k a).get? k = some a := by
  have h : (t.erase k).entries.lookup k = none := (get?_erase t k k).trans (if_pos rfl)
  simp [get?, insert, List.lookup_append, h]

lemma get?_insert_of_ne (t : Table κ α) {k k' : κ} (h : k' ≠ k) (a : α) :
    (t.insert k a).get? k' = t.get? k' := by
  have he : (t.erase k).entries.lookup k' = t.get? k' := (get?_erase t k k').trans (if_neg h)
  have hb : (k' == k) = false := beq_false_of_ne h
  have hn : ([(k, a)] : List (κ × α)).lookup k' = none := by simp [List.lookup_cons, hb]
  rw [get?, insert, List.lookup_append, hn, he, Option.or_none]

lemma get?_insert (t : Table κ α) (k k' : κ) (a : α) :
    (t.insert k a).get? k' = if k' = k then some a else t.get? k' := by
  by_cases h : k' = k
  · rw [if_pos h, h, get?_insert_self]
  · rw [if_neg h, get?_insert_of_ne t h]

end

/-! ### One entry for each key -/

lemma keys_keep (t : Table κ α) (p : κ → Bool) : (t.keep p).keys = t.keys.filter p := by
  rw [keys, keep, keys, List.filter_map]
  rfl

lemma nodup_keys_keep (h : t.keys.Nodup) (p : κ → Bool) : (t.keep p).keys.Nodup := by
  rw [keys_keep]
  exact h.filter p

variable [DecidableEq κ]

lemma keys_erase (t : Table κ α) (k : κ) : (t.erase k).keys = t.keys.filter (· ≠ k) := by
  rw [keys, erase, keys, List.filter_map]
  rfl

lemma keys_insert (t : Table κ α) (k : κ) (a : α) :
    (t.insert k a).keys = t.keys.filter (· ≠ k) ++ [k] := by
  rw [← keys_erase]
  exact List.map_append

lemma nodup_keys_erase (h : t.keys.Nodup) (k : κ) : (t.erase k).keys.Nodup := by
  rw [keys_erase]
  exact h.filter _

lemma nodup_keys_insert (h : t.keys.Nodup) (k : κ) (a : α) : (t.insert k a).keys.Nodup := by
  rw [keys_insert]
  refine (h.filter _).append (List.nodup_singleton k) fun l hl hk => ?_
  rw [List.mem_singleton] at hk
  exact of_decide_eq_true (List.mem_filter.mp hl).2 hk

lemma get?_eq_none_iff : t.get? k = none ↔ k ∉ t.keys := by
  rw [get?, List.lookup_eq_none_iff, keys, List.mem_map]
  constructor
  · rintro h ⟨e, he, rfl⟩
    simpa using h e he
  · intro h e he
    simpa using fun hk : k = e.1 => h ⟨e, he, hk.symm⟩

/-- What stands in the table is what it holds, if no key has two entries. -/
lemma get?_eq_some_iff (h : t.keys.Nodup) : t.get? k = some a ↔ (k, a) ∈ t.entries := by
  refine ⟨mem_entries_of_get?, fun hmem => ?_⟩
  obtain ⟨b, hb⟩ : ∃ b, t.get? k = some b := by
    refine Option.ne_none_iff_exists'.mp fun hnone => get?_eq_none_iff.mp hnone ?_
    exact List.mem_map.mpr ⟨(k, a), hmem, rfl⟩
  have heq := List.inj_on_of_nodup_map h hmem (mem_entries_of_get? hb) rfl
  rw [hb, (Prod.mk.inj heq).2]

end LateBinding.Table
