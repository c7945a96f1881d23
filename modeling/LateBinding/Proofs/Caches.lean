import LateBinding.Proofs.Table
import LateBinding.Run

/-!
# What is remembered

The view of a memo is what it holds for each key. A question leaves the view as it is or adds what
it has made, and a purge takes away what is doomed; nothing else ever changes it.
-/

namespace LateBinding

/-! ### Questions to a memo -/

namespace Memo

variable {ε κ α : Type} [DecidableEq κ] {m : Memo κ α} {key : κ}

lemma fetch_of_get?_eq_some {held : Stamped α} (h : m.get? key = some held)
    (make : EStateM ε (Memo κ α) α) :
    fetch key make m = .ok held { m with hits := m.hits + 1 } := by
  simp [fetch, h]

lemma store_of_some {held : Stamped α} (h : m.get? key = some held) (a : α) :
    m.store key a = (held, m) := by
  rw [store, h]

lemma store_of_none (h : m.get? key = none) (a : α) :
    m.store key a = (⟨a, m.stores⟩,
      { m with table := m.table.insert key ⟨a, m.stores⟩, stores := m.stores + 1 }) := by
  rw [store, h]

lemma get?_store (m : Memo κ α) (key : κ) (a : α) :
    (m.store key a).2.get? key = some (m.store key a).1 := by
  cases h : m.get? key with
  | some held => rw [store_of_some h, h]
  | none =>
    rw [store_of_none h]
    exact Table.get?_insert_self _ _ _

/-- How a question to a memo ends: what is held is given, or what has been made is given and held
from now on, or nothing could be made and nothing is held. -/
inductive Asked (m : Memo κ α) (key : κ) (made : Except ε α) :
    EStateM.Result ε (Memo κ α) (Stamped α) → Prop where
  | hit {held : Stamped α} {m' : Memo κ α} (h : m.get? key = some held)
      (hview : ∀ k, m'.get? k = m.get? k) : Asked m key made (.ok held m')
  | stored {held : Stamped α} {m' : Memo κ α} (h : m.get? key = none)
      (hmade : made = .ok held.value) (hself : m'.get? key = some held)
      (hother : ∀ k, k ≠ key → m'.get? k = m.get? k) : Asked m key made (.ok held m')
  | failed {e : ε} {m' : Memo κ α} (h : m.get? key = none) (hmade : made = .error e)
      (hview : ∀ k, m'.get? k = m.get? k) : Asked m key made (.error e m')

lemma asked_fetch (m : Memo κ α) (key : κ) (make : Unit → Except ε α) :
    m.Asked key (make ()) (fetch key (lift make) m) := by
  rw [fetch]
  cases h : m.get? key with
  | some held => exact .hit h fun _ => rfl
  | none =>
    rw [lift]
    cases hmade : make () with
    | error e => exact .failed h rfl fun _ => rfl
    | ok a =>
      have hmissed : get? { m with misses := m.misses + 1 } key = none := h
      simp only [store_of_none hmissed]
      refine .stored h rfl ?_ fun k hk => ?_
      · exact Table.get?_insert_self _ _ _
      · exact Table.get?_insert_of_ne _ hk _

lemma get?_purge (m : Memo κ α) (doomed : κ → Bool) (k : κ) :
    (m.purge doomed).2.get? k = if doomed k then none else m.get? k := by
  change (m.table.keep fun k => !doomed k).get? k = _
  rw [Table.get?_keep]
  cases doomed k <;> rfl

end Memo

/-! ### Questions to the caches -/

lemma Category.mem_all (c : Category) : c ∈ all := by
  cases c <;> simp [all]

@[simp] lemma Caches.memo_setMemo_self (cs : Caches) (c : Category) (m : Memo c.Key c.Item) :
    (cs.setMemo c m).memo c = m := by
  cases c <;> rfl

lemma Caches.memo_setMemo_of_ne (cs : Caches) {c d : Category} (h : d ≠ c)
    (m : Memo c.Key c.Item) : (cs.setMemo c m).memo d = cs.memo d := by
  cases c <;> cases d <;> simp_all [memo, setMemo]

namespace Run

/-- How a question to the caches ends: as the question to the one memo, and all other memos and the
store are as before. -/
lemma fetch_cases (c : Category) (key : c.Key) (make : Unit → Except Fault c.Item) (s : State) :
    ∃ r, (s.caches.memo c).Asked key (make ()) r ∧ Run.fetch c key make s = match r with
      | .ok held m => .ok held { s with caches := s.caches.setMemo c m }
      | .error e m => .error e { s with caches := s.caches.setMemo c m } := by
  refine ⟨_, Memo.asked_fetch _ key make, ?_⟩
  unfold Run.fetch
  cases Memo.fetch key (Memo.lift make) (s.caches.memo c) <;> rfl

/-- The state in which a run ends. -/
def after {α : Type} : EStateM.Result Fault State α → State
  | .ok _ s => s
  | .error _ s => s

/-- The result or the fault of a run. -/
def answer {α : Type} : EStateM.Result Fault State α → Except Fault α
  | .ok a _ => .ok a
  | .error e _ => .error e

lemma answer_eq_ok {α : Type} {r : EStateM.Result Fault State α} {a : α} (h : answer r = .ok a) :
    r = .ok a (after r) := by
  cases r with
  | ok b s => rw [Except.ok.inj h, after]
  | error e s => cases h

/-- From the first state to the second one nothing has happened but to one memo, which still holds
what it held and beside it at most what was made for the key. -/
structure Grown (c : Category) (key : c.Key) (made : Except Fault c.Item) (s s' : State) :
    Prop where
  store : s'.store = s.store
  memo : ∀ {d}, d ≠ c → s'.caches.memo d = s.caches.memo d
  old : ∀ {k held}, (s.caches.memo c).get? k = some held → (s'.caches.memo c).get? k = some held
  new : ∀ {k held}, (s'.caches.memo c).get? k = some held →
    (s.caches.memo c).get? k = some held ∨ k = key ∧ made = .ok held.value

lemma grown_fetch (c : Category) (key : c.Key) (make : Unit → Except Fault c.Item) (s : State) :
    Grown c key (make ()) s (after (Run.fetch c key make s)) := by
  obtain ⟨r, hr, heq⟩ := fetch_cases c key make s
  rw [heq]
  cases hr with
  | hit h hview =>
    refine ⟨rfl, fun hd => Caches.memo_setMemo_of_ne _ hd _, fun {k _} hk => ?_,
      fun {k _} hk => Or.inl ?_⟩ <;> simpa only [after, Caches.memo_setMemo_self, hview k] using hk
  | failed h hmade hview =>
    refine ⟨rfl, fun hd => Caches.memo_setMemo_of_ne _ hd _, fun {k _} hk => ?_,
      fun {k _} hk => Or.inl ?_⟩ <;> simpa only [after, Caches.memo_setMemo_self, hview k] using hk
  | stored h hmade hself hother =>
    refine ⟨rfl, fun hd => Caches.memo_setMemo_of_ne _ hd _, fun {k held'} hk => ?_,
      fun {k held'} hk => ?_⟩ <;> simp only [after, Caches.memo_setMemo_self] at hk ⊢
    · -- what was held before is held under another key
      have hne : k ≠ key := fun hkey => by
        rw [hkey, h] at hk
        cases hk
      rw [hother k hne, hk]
    · -- what is held now is what has been made, or it was held before
      by_cases hkey : k = key
      · rw [hkey, hself, Option.some.injEq] at hk
        exact Or.inr ⟨hkey, hk ▸ hmade⟩
      · rw [hother k hkey] at hk
        exact Or.inl hk

lemma answer_fetch_of_held {c : Category} {key : c.Key} {s : State} {held : Stamped c.Item}
    (h : (s.caches.memo c).get? key = some held) (make : Unit → Except Fault c.Item) :
    answer (Run.fetch c key make s) = .ok held := by
  rw [Run.fetch, Memo.fetch_of_get?_eq_some h]
  rfl

lemma exists_of_answer_fetch {c : Category} {key : c.Key} {make : Unit → Except Fault c.Item}
    {s : State} {held : Stamped c.Item} (h : answer (Run.fetch c key make s) = .ok held) :
    ∃ t, Run.fetch c key make s = .ok held t ∧ t.store = s.store :=
  ⟨_, answer_eq_ok h, (grown_fetch c key make s).store⟩

end Run

/-! ### Whatever is remembered -/

namespace Caches

/-- Something holds of everything that is remembered beside lookups. -/
def All (Q : (c : Category) → c.Key → c.Item → Prop) (cs : Caches) : Prop :=
  ∀ (c : Category) (k : c.Key) (held : Stamped c.Item), c ≠ .lookups →
    (cs.memo c).get? k = some held → Q c k held.value

namespace All

variable {Q : (c : Category) → c.Key → c.Item → Prop} {cs cs' : Caches}

lemma empty : All Q {} := fun c _ _ _ h => by cases c <;> cases h

lemma congr (h : cs.All Q) (hmemo : ∀ {c}, c ≠ .lookups → cs'.memo c = cs.memo c) :
    cs'.All Q := by
  intro c k held hc hk
  rw [hmemo hc] at hk
  exact h c k held hc hk

/-- After a question it is enough to look at what may have been made. -/
lemma fetch {c : Category} {key : c.Key} {made : Except Fault c.Item} {s s' : State}
    (h : s.caches.All Q) (hg : Run.Grown c key made s s')
    (hmade : ∀ x, made = .ok x → Q c key x) : s'.caches.All Q := by
  intro d k held hd hk
  by_cases hdc : d = c
  · subst hdc
    rcases hg.new hk with hold | ⟨rfl, hx⟩
    · exact h d k held hd hold
    · exact hmade held.value hx
  · rw [hg.memo hdc] at hk
    exact h d k held hd hk

end All

end Caches

/-! ### Purges -/

namespace Caches

variable {cs : Caches} {c d : Category} {types : List TypeId}

/-- The memo of a category after what involves one of the types has been taken away. -/
abbrev purged (cs : Caches) (types : List TypeId) (c : Category) : Memo c.Key c.Item :=
  ((cs.memo c).purge fun k => types.any (c.involves · k)).2

lemma memo_purgeIn_self (cs : Caches) (types : List TypeId) (c : Category) :
    (cs.purgeIn types c).2.memo c = cs.purged types c :=
  memo_setMemo_self cs c _

lemma memo_purgeIn_of_ne (cs : Caches) (types : List TypeId) (h : d ≠ c) :
    (cs.purgeIn types c).2.memo d = cs.memo d :=
  memo_setMemo_of_ne cs h _

/-- Categories are purged one after the other; those to come still have their old memo. -/
lemma memo_foldl_purgeIn {f : Nat × Caches → Category → Nat × Caches}
    (hf : ∀ p c, (f p c).2 = (p.2.purgeIn types c).2) {l : List Category} (hl : l.Nodup)
    (p : Nat × Caches) (c : Category) :
    (l.foldl f p).2.memo c = if c ∈ l then p.2.purged types c else p.2.memo c := by
  induction l generalizing p with
  | nil => simp
  | cons d l ih =>
    obtain ⟨hd, hl⟩ := List.nodup_cons.mp hl
    rw [List.foldl_cons, ih hl, purged, purged, hf]
    by_cases hc : c = d
    · -- the category is purged now and does not come again
      subst hc
      rw [if_neg hd, if_pos List.mem_cons_self, memo_purgeIn_self, purged]
    · rw [memo_purgeIn_of_ne p.2 types hc]
      by_cases hcl : c ∈ l
      · rw [if_pos hcl, if_pos (List.mem_cons_of_mem d hcl)]
      · rw [if_neg hcl, if_neg (by simp [hc, hcl])]

/-- A purge takes away what involves one of the types, in each category for itself. -/
lemma memo_purge (cs : Caches) (types : List TypeId) (c : Category) :
    (cs.purge types).2.memo c = cs.purged types c := by
  refine (memo_foldl_purgeIn ?_ ?_ (0, cs) c).trans (if_pos (Category.mem_all c))
  · exact fun _ _ => rfl
  · decide

lemma get?_purge (cs : Caches) (types : List TypeId) (c : Category) (k : c.Key) :
    ((cs.purge types).2.memo c).get? k =
      if types.any (c.involves · k) then none else (cs.memo c).get? k := by
  rw [memo_purge, purged, Memo.get?_purge]

lemma get?_of_get?_purge {k : c.Key} {held : Stamped c.Item}
    (h : ((cs.purge types).2.memo c).get? k = some held) :
    (cs.memo c).get? k = some held ∧ ∀ t ∈ types, c.involves t k = false := by
  rw [get?_purge] at h
  split at h
  · cases h
  · rename_i hk
    exact ⟨h, by simpa using hk⟩

lemma All.purge {Q : (c : Category) → c.Key → c.Item → Prop} (h : cs.All Q)
    (types : List TypeId) : (cs.purge types).2.All Q :=
  fun c k held hc hk => h c k held hc (get?_of_get?_purge hk).1

end Caches

end LateBinding
