import Mathlib.Data.List.DropRight
import LateBinding.Proofs.Caches
import LateBinding.Proofs.Memo.Noting
import LateBinding.Proofs.Table

/-!
# The history of a memo

At each moment a memo holds for a key what was made first since the key was last removed, and its
counters tell the calls since it was last cleared. This is so in the middle of calls as well, when
results are still being made that may have been made and stored by calls from within.

Main statement: `Memo.obeys_history`.
-/

namespace LateBinding.Memo

variable {ε κ α : Type}

/-! ### What the notes tell -/

namespace Note

/-- Whether what is held for the key is removed. -/
def removes (key : κ) (n : Note ε κ α) : Bool :=
  match n.event with
  | .purged doomed => doomed key
  | .cleared => true
  | _ => false

/-- Whether the memo is cleared. -/
def clears (n : Note ε κ α) : Bool :=
  match n.event with
  | .cleared => true
  | _ => false

/-- Whether a call begins. -/
def calls (n : Note ε κ α) : Bool :=
  match n.event with
  | .called _ => true
  | _ => false

end Note

/-- The number of calls since the memo was last cleared. -/
def callsSince (log : List (Note ε κ α)) : Nat :=
  (log.rtakeWhile (!·.clears)).countP (·.calls)

lemma callsSince_snoc (log : List (Note ε κ α)) (n : Note ε κ α) :
    callsSince (log ++ [n]) = if n.clears then 0 else callsSince log + n.calls.toNat := by
  rw [callsSince, List.rtakeWhile_concat]
  cases n.clears with
  | true => rfl
  | false =>
    simp only [Bool.not_false, if_true, List.countP_append, List.countP_singleton]
    cases n.calls <;> rfl

variable [DecidableEq κ]

/-- What has been made for the key. -/
def Note.madeFor? (key : κ) (n : Note ε κ α) : Option α :=
  match n.event with
  | .made k (.ok a) => if k = key then some a else none
  | _ => none

/-- What was made first for the key since the key was last removed. -/
def firstMade? (key : κ) (log : List (Note ε κ α)) : Option α :=
  (log.rtakeWhile (!·.removes key)).findSome? (·.madeFor? key)

lemma firstMade?_snoc (key : κ) (log : List (Note ε κ α)) (n : Note ε κ α) :
    firstMade? key (log ++ [n]) =
      if n.removes key then none else (firstMade? key log).or (n.madeFor? key) := by
  rw [firstMade?, List.rtakeWhile_concat]
  cases n.removes key with
  | true => rfl
  | false =>
    simp only [Bool.not_false, if_true, List.findSome?_append, List.findSome?_singleton]
    rfl

/-- The memo is as the notes tell, while some results are still being made: for each key it holds
what was made first since the key was last removed, and in one entry; hits and misses are the calls
since it was last cleared; and each entry has had a miss of its own since then, as has each result
that is being made. -/
structure AsNoted (pending : Nat) (m : Memo κ α) (log : List (Note ε κ α)) : Prop where
  first : ∀ key, (m.get? key).map (·.value) = firstMade? key log
  nodup : m.table.keys.Nodup
  counted : m.hits + m.misses = callsSince log
  size : m.size + pending ≤ m.misses

namespace AsNoted

variable {p : Nat} {m : Memo κ α} {log : List (Note ε κ α)}

lemma start : AsNoted 0 ({} : Memo κ α) ([] : List (Note ε κ α)) :=
  ⟨fun _ => rfl, List.nodup_nil, rfl, Nat.le_refl 0⟩

lemma mono {p' : Nat} (h : AsNoted p m log) (hp : p' ≤ p) : AsNoted p' m log :=
  ⟨h.first, h.nodup, h.counted, Nat.le_trans (Nat.add_le_add_left hp _) h.size⟩

/-- A note of what changes neither entries nor counters. -/
lemma quiet (h : AsNoted p m log) {n : Note ε κ α} (hremoves : ∀ key, n.removes key = false)
    (hmade : ∀ key, n.madeFor? key = none) (hclears : n.clears = false) (hcalls : n.calls = false) :
    AsNoted p m (log ++ [n]) := by
  refine ⟨fun key => ?_, h.nodup, ?_, h.size⟩
  · rw [firstMade?_snoc, hremoves, hmade, Option.or_none, h.first]
    rfl
  · rw [callsSince_snoc, hclears, hcalls, h.counted]
    rfl

lemma called_hit (h : AsNoted p m log) (key : κ) :
    AsNoted p { m with hits := m.hits + 1 } (log ++ [⟨.called key, m⟩]) := by
  refine ⟨fun k => ?_, h.nodup, ?_, h.size⟩
  · rw [firstMade?_snoc, ← h.first, Note.madeFor?, Option.or_none]
    rfl
  · rw [callsSince_snoc, ← h.counted]
    exact Nat.add_right_comm m.hits 1 m.misses

lemma called_miss (h : AsNoted p m log) (key : κ) :
    AsNoted (p + 1) { m with misses := m.misses + 1 } (log ++ [⟨.called key, m⟩]) := by
  refine ⟨fun k => ?_, h.nodup, ?_, Nat.succ_le_succ h.size⟩
  · rw [firstMade?_snoc, ← h.first, Note.madeFor?, Option.or_none]
    rfl
  · rw [callsSince_snoc, ← h.counted]
    rfl

/-- What has been made is stored, unless something is held already. -/
lemma stored (h : AsNoted (p + 1) m log) (key : κ) (a : α) :
    AsNoted p (m.store key a).2 (log ++ [⟨.made key (.ok a), m⟩]) := by
  have hsnoc : ∀ k, firstMade? k (log ++ [⟨.made key (.ok a), m⟩]) =
      ((m.get? k).map (·.value)).or (if key = k then some a else none) :=
    fun k => (firstMade?_snoc k log _).trans (by rw [← h.first]; rfl)
  have hcalls : callsSince (log ++ [⟨.made key (.ok a), m⟩]) = callsSince log :=
    callsSince_snoc log _
  cases hheld : m.get? key with
  | some held =>
    rw [store_of_some hheld]
    refine ⟨fun k => ?_, h.nodup, hcalls ▸ h.counted, Nat.le_of_succ_le h.size⟩
    rw [hsnoc]
    by_cases hk : key = k
    · -- the key keeps what it holds, so what has been made is not the first
      rw [← hk, hheld]
      rfl
    · rw [if_neg hk, Option.or_none]
  | none =>
    rw [store_of_none hheld]
    refine ⟨fun k => ?_, Table.nodup_keys_insert h.nodup _ _, hcalls ▸ h.counted, ?_⟩
    · rw [hsnoc]
      change ((m.table.insert key ⟨a, m.stores⟩).get? k).map _ = _
      rw [Table.get?_insert]
      by_cases hk : k = key
      · -- what has been made is the first for its key
        rw [if_pos hk, hk, if_pos rfl, hheld]
        rfl
      · rw [if_neg hk, if_neg (Ne.symm hk), Option.or_none]
        rfl
    · -- there was a miss before every insertion
      have hinsert : (m.table.insert key ⟨a, m.stores⟩).size ≤ m.table.size + 1 := by
        rw [Table.size, Table.insert, List.length_append]
        exact Nat.add_le_add_right (List.length_filter_le _ _) 1
      have hsize : m.table.size + (p + 1) ≤ m.misses := h.size
      change (m.table.insert key ⟨a, m.stores⟩).size + p ≤ m.misses
      omega

lemma purged (h : AsNoted p m log) (doomed : κ → Bool) :
    AsNoted p (m.purge doomed).2 (log ++ [⟨.purged doomed, m⟩]) := by
  refine ⟨fun k => ?_, Table.nodup_keys_keep h.nodup _, ?_, ?_⟩
  · rw [firstMade?_snoc, ← h.first]
    change ((m.table.keep fun k => !doomed k).get? k).map _ = if doomed k = true then none else _
    rw [Table.get?_keep, Note.madeFor?, Option.or_none]
    cases doomed k <;> rfl
  · rw [callsSince_snoc, ← h.counted]
    rfl
  · exact Nat.le_trans (Nat.add_le_add_right (List.length_filter_le _ _) p) h.size

lemma cleared (m : Memo κ α) (log : List (Note ε κ α)) :
    AsNoted 0 m.clear (log ++ [⟨.cleared, m⟩]) := by
  refine ⟨fun k => ?_, List.nodup_nil, ?_, Nat.le_refl 0⟩
  · rw [firstMade?_snoc]
    rfl
  · rw [callsSince_snoc]
    rfl

end AsNoted

/-! ### What the notes say of calls -/

/-- What a note says together with those before and after it. A call is answered at once with what
is held; if nothing is held, and only then, a result is made for it. What could not be made is
answered as it is, and leaves nothing behind; every other answer is what is held then, and what was
made first since the key was last removed. -/
def Note.Fits (n : Note ε κ α) (before after : List (Note ε κ α)) : Prop :=
  match n.event with
  | .called key => after.head? = some (match n.memo.get? key with
    | some held => ⟨.answered key (.ok held), { n.memo with hits := n.memo.hits + 1 }⟩
    | none => ⟨.making key, { n.memo with misses := n.memo.misses + 1 }⟩)
  | .making key => ∃ m, before.getLast? = some ⟨.called key, m⟩ ∧ m.get? key = none
  | .made key (.ok _) => ∃ held m, after.head? = some ⟨.answered key (.ok held), m⟩
  | .made key (.error e) => after.head? = some ⟨.answered key (.error e), n.memo⟩
  | .answered key (.ok held) =>
    n.memo.get? key = some held ∧ firstMade? key before = some held.value
  | .answered key (.error e) => ∃ m, before.getLast? = some ⟨.made key (.error e), m⟩
  | .purged _ => True
  | .cleared => True

/-- Notes after others are in order. -/
inductive Sound : List (Note ε κ α) → List (Note ε κ α) → Prop where
  | nil {log : List (Note ε κ α)} : Sound log []
  | cons {log more : List (Note ε κ α)} {n : Note ε κ α} (hmemo : AsNoted 0 n.memo log)
      (hfits : n.Fits log more) (hmore : Sound (log ++ [n]) more) : Sound log (n :: more)

lemma Note.Fits.append {n : Note ε κ α} {before after : List (Note ε κ α)}
    (h : n.Fits before after) (more : List (Note ε κ α)) : n.Fits before (after ++ more) := by
  have hhead : ∀ {x}, after.head? = some x → (after ++ more).head? = some x := fun hx => by
    rw [List.head?_append, hx, Option.some_or]
  obtain ⟨event, m⟩ := n
  match event with
  | .called key => exact hhead h
  | .made key (.ok a) =>
    obtain ⟨held, m', h⟩ := h
    exact ⟨held, m', hhead h⟩
  | .made key (.error e) => exact hhead h
  | .making key | .answered key (.ok held) | .answered key (.error e) => exact h
  | .purged doomed | .cleared => trivial

lemma Sound.append {log xs ys : List (Note ε κ α)} (hx : Sound log xs)
    (hy : Sound (log ++ xs) ys) : Sound log (xs ++ ys) := by
  induction hx with
  | nil => rwa [List.append_nil] at hy
  | cons hmemo hfits _ ih =>
    refine .cons hmemo (hfits.append ys) (ih ?_)
    rwa [List.append_assoc]

/-- Each note is in order at its place. -/
lemma Sound.split {log more before after : List (Note ε κ α)} {n : Note ε κ α}
    (h : Sound log more) (hmore : more = before ++ n :: after) :
    AsNoted 0 n.memo (log ++ before) ∧ n.Fits (log ++ before) after := by
  induction h generalizing before with
  | nil => exact absurd hmore (by simp)
  | @cons log more n' hmemo hfits _ ih =>
    cases before with
    | nil =>
      obtain ⟨rfl, rfl⟩ := List.cons.inj hmore
      rw [List.append_nil]
      exact ⟨hmemo, hfits⟩
    | cons b before =>
      obtain ⟨rfl, htail⟩ := List.cons.inj hmore
      have := ih htail
      rwa [List.append_assoc] at this

/-- From the notes taken so far a run goes on with notes that are in order. -/
def Continues (pending : Nat) (log : List (Note ε κ α)) (w : Watched ε κ α) : Prop :=
  AsNoted pending w.1 w.2 ∧ ∃ more, w.2 = log ++ more ∧ Sound log more

/-- What a run leaves, whether it has failed or not. -/
def ended {w : Type} : EStateM.Result ε w β → w
  | .ok _ w => w
  | .error _ w => w

section Calls

variable {p : Nat} {m : Memo κ α} {log : List (Note ε κ α)}

lemma Continues.trans {w : Watched ε κ α} {log' : List (Note ε κ α)}
    (h : ∃ more, log' = log ++ more ∧ Sound log more) (h' : Continues p log' w) :
    Continues p log w := by
  obtain ⟨xs, rfl, hxs⟩ := h
  obtain ⟨hw, ys, heq, hys⟩ := h'
  exact ⟨hw, xs ++ ys, by rw [heq, List.append_assoc], hxs.append hys⟩

lemma fetchNoting_of_some {key : κ} {held : Stamped α} (h : m.get? key = some held)
    (make : EStateM ε (Watched ε κ α) α) :
    fetchNoting key make (m, log) = .ok held
      (note (.answered key (.ok held))
        ({ m with hits := m.hits + 1 }, log ++ [⟨.called key, m⟩])) := by
  rw [fetchNoting, note_mk, fetchBeside]
  simp only [h]

lemma fetchNoting_of_none {key : κ} (h : m.get? key = none) (make : EStateM ε (Watched ε κ α) α) :
    fetchNoting key make (m, log) =
      match make (note (.making key)
        ({ m with misses := m.misses + 1 }, log ++ [⟨.called key, m⟩])) with
      | .ok a w => .ok (w.1.store key a).1 (note (.answered key (.ok (w.1.store key a).1))
        ((w.1.store key a).2, (note (.made key (.ok a)) w).2))
      | .error e w =>
        .error e (note (.answered key (.error e)) (note (.made key (.error e)) w)) := by
  rw [fetchNoting, note_mk, fetchBeside]
  simp only [h, makeNoting]
  cases make (note (.making key)
    ({ m with misses := m.misses + 1 }, log ++ [⟨.called key, m⟩])) <;> rfl

/-- A call that hits. -/
lemma AsNoted.answered_held (h : AsNoted p m log) {key : κ} {held : Stamped α}
    (hheld : m.get? key = some held) : Continues p log (note (.answered key (.ok held))
      ({ m with hits := m.hits + 1 }, log ++ [⟨.called key, m⟩])) := by
  have hhit : AsNoted p { m with hits := m.hits + 1 } (log ++ [⟨.called key, m⟩]) :=
    h.called_hit key
  refine ⟨hhit.quiet (fun _ => rfl) (fun _ => rfl) rfl rfl, [⟨.called key, m⟩,
    ⟨.answered key (.ok held), { m with hits := m.hits + 1 }⟩], List.append_assoc _ _ _, ?_⟩
  refine .cons (h.mono (Nat.zero_le p)) ?_ (.cons (hhit.mono (Nat.zero_le p)) ⟨hheld, ?_⟩ .nil)
  · simp only [Note.Fits, hheld]
    rfl
  · rw [← hhit.first]
    exact congrArg (Option.map (·.value)) hheld

/-- A call that misses begins. -/
lemma AsNoted.begun (h : AsNoted p m log) {key : κ} (hnone : m.get? key = none) :
    Continues (p + 1) log (note (.making key)
      ({ m with misses := m.misses + 1 }, log ++ [⟨.called key, m⟩])) := by
  have hmiss : AsNoted (p + 1) { m with misses := m.misses + 1 } (log ++ [⟨.called key, m⟩]) :=
    h.called_miss key
  refine ⟨hmiss.quiet (fun _ => rfl) (fun _ => rfl) rfl rfl, [⟨.called key, m⟩,
    ⟨.making key, { m with misses := m.misses + 1 }⟩], List.append_assoc _ _ _, ?_⟩
  refine .cons (h.mono (Nat.zero_le p)) ?_ (.cons (hmiss.mono (Nat.zero_le _)) ?_ .nil)
  · simp only [Note.Fits, hnone]
    rfl
  · exact ⟨m, List.getLast?_concat, hnone⟩

/-- A call that misses ends with what could not be made. -/
lemma AsNoted.failed (h : AsNoted (p + 1) m log) (key : κ) (e : ε) :
    Continues p log (note (.answered key (.error e)) (note (.made key (.error e)) (m, log))) := by
  have hmade : AsNoted p m (log ++ [⟨.made key (.error e), m⟩]) :=
    (h.mono (Nat.le_succ p)).quiet (fun _ => rfl) (fun _ => rfl) rfl rfl
  refine ⟨hmade.quiet (fun _ => rfl) (fun _ => rfl) rfl rfl, [⟨.made key (.error e), m⟩,
    ⟨.answered key (.error e), m⟩], List.append_assoc _ _ _, ?_⟩
  exact .cons (h.mono (Nat.zero_le _)) rfl
    (.cons (hmade.mono (Nat.zero_le p)) ⟨m, List.getLast?_concat⟩ .nil)

/-- A call that misses ends with what has been made, or with what was made in the meantime. -/
lemma AsNoted.answered_stored (h : AsNoted (p + 1) m log) (key : κ) (a : α) :
    Continues p log (note (.answered key (.ok (m.store key a).1))
      ((m.store key a).2, log ++ [⟨.made key (.ok a), m⟩])) := by
  have hstored := h.stored key a
  have hheld := get?_store m key a
  refine ⟨hstored.quiet (fun _ => rfl) (fun _ => rfl) rfl rfl, [⟨.made key (.ok a), m⟩,
    ⟨.answered key (.ok (m.store key a).1), (m.store key a).2⟩], List.append_assoc _ _ _, ?_⟩
  refine .cons (h.mono (Nat.zero_le _)) ⟨_, _, rfl⟩
    (.cons (hstored.mono (Nat.zero_le p)) ⟨hheld, ?_⟩ .nil)
  rw [← hstored.first, hheld]
  rfl

/-- A call goes on if what makes its result does. -/
lemma fetchNoting_continues (key : κ) {make : EStateM ε (Watched ε κ α) α}
    (hmake : ∀ p m log, AsNoted p m log → Continues p log (ended (make (m, log))))
    (h : AsNoted p m log) : Continues p log (ended (fetchNoting key make (m, log))) := by
  cases hheld : m.get? key with
  | some held =>
    rw [fetchNoting_of_some hheld]
    exact h.answered_held hheld
  | none =>
    rw [fetchNoting_of_none hheld]
    have hbegun := h.begun hheld
    have hmade := hmake _ _ _ hbegun.1
    refine .trans hbegun.2 ?_
    cases hresult : make (note (.making key)
        ({ m with misses := m.misses + 1 }, log ++ [⟨.called key, m⟩])) with
    | ok a w =>
      rw [hresult] at hmade
      exact .trans hmade.2 (hmade.1.answered_stored key a)
    | error e w =>
      rw [hresult] at hmade
      exact .trans hmade.2 (hmade.1.failed key e)

end Calls

/-- Whatever calls a computation makes, its run goes on with notes that are in order. -/
lemma watch_continues (t : Making ε κ α) (p : Nat) (m : Memo κ α) (log : List (Note ε κ α))
    (h : AsNoted p m log) : Continues p log (ended (t.watch (m, log))) := by
  induction t generalizing p m log with
  | done result =>
    cases result <;> exact ⟨h, [], (List.append_nil log).symm, .nil⟩
  | ask key make next ihmake ihnext =>
    have hcall := fetchNoting_continues key ihmake h
    rw [watch_ask]
    cases hresult : fetchNoting key make.watch (m, log) with
    | ok held w =>
      rw [hresult] at hcall
      exact .trans hcall.2 (ihnext (.ok held) p w.1 w.2 hcall.1)
    | error e w =>
      rw [hresult] at hcall
      exact .trans hcall.2 (ihnext (.error e) p w.1 w.2 hcall.1)

lemma obey_continues {w : Watched ε κ α} (h : AsNoted 0 w.1 w.2) (c : Command ε κ α) :
    Continues 0 w.2 (watchedObey w c).2 := by
  cases c with
  | call key make =>
    have hcall := fetchNoting_continues key (watch_continues make) h
    rw [watchedObey]
    cases hresult : fetchNoting key make.watch w <;> rwa [hresult] at hcall
  | purge doomed => exact ⟨h.purged doomed, _, rfl, .cons h trivial .nil⟩
  | clear => exact ⟨.cleared w.1 w.2, _, rfl, .cons h trivial .nil⟩

lemma obeyAll_continues {w : Watched ε κ α} (h : AsNoted 0 w.1 w.2) (cs : List (Command ε κ α)) :
    Continues 0 w.2 (watchedObeyAll w cs).2 := by
  induction cs generalizing w with
  | nil => exact ⟨h, [], (List.append_nil w.2).symm, .nil⟩
  | cons c cs ih =>
    have hc := obey_continues h c
    exact .trans hc.2 (ih hc.1)

/-- Any commands, given to a memo that is empty at first, are obeyed as they are where notes are
taken. Then at the time of each note, and in the end, the memo is as the notes before tell; and each
note is in order: results are made exactly where nothing is held, what could not be made is answered
and not stored, and what is answered otherwise was made first. -/
theorem obeys_history (cs : List (Command ε κ α)) :
    ∃ log : List (Note ε κ α),
      watchedObeyAll ({}, []) cs =
        ((({} : Memo κ α).obeyAll cs).1, (({} : Memo κ α).obeyAll cs).2, log) ∧
      AsNoted 0 (({} : Memo κ α).obeyAll cs).2 log ∧
      ∀ before n after, log = before ++ n :: after →
        AsNoted 0 n.memo before ∧ n.Fits before after := by
  obtain ⟨hreplies, hmemo⟩ := obeyAll_forgets (({}, []) : Watched ε κ α) cs
  obtain ⟨hend, more, hlog, hmore⟩ := obeyAll_continues (w := ({}, [])) AsNoted.start cs
  rw [List.nil_append] at hlog
  refine ⟨more, ?_, ?_, fun before n after hsplit => hmore.split hsplit⟩
  · rw [← hreplies, ← hmemo, ← hlog]
  · rw [← hmemo, ← hlog]
    exact hend

/-! ### A call within a call for the same key -/

/-- While a result is made for a key, the memo is called for the same key; a result that cannot be
made, a purge and a further call come after it. -/
def reentrant : List (Command String Nat Nat) :=
  [.call 1 (.ask 1 (.done (.ok 10)) fun _ => .done (.ok 20)),
    .call 2 (.done (.error "none")),
    .purge (· == 1),
    .call 1 (.done (.ok 30))]

/-- The outer call is answered with what the inner one has stored. -/
theorem obeys_history_reentrant : ∃ log before n after,
    watchedObeyAll ({}, []) reentrant =
      ((({} : Memo Nat Nat).obeyAll reentrant).1, (({} : Memo Nat Nat).obeyAll reentrant).2, log) ∧
    log = before ++ n :: after ∧
    before.map (·.event) = [.called 1, .making 1, .called 1, .making 1, .made 1 (.ok 10),
      .answered 1 (.ok ⟨10, 0⟩), .made 1 (.ok 20)] ∧
    n.event = .answered 1 (.ok ⟨10, 0⟩) ∧ AsNoted 0 n.memo before ∧ n.Fits before after := by
  obtain ⟨log, hlog, -, hnotes⟩ := obeys_history reentrant
  have heq : log = (watchedObeyAll ({}, []) reentrant).2.2 := by rw [hlog]
  have hsplit : log = log.take 7 ++ ⟨.answered 1 (.ok ⟨10, 0⟩),
      ⟨⟨[(1, ⟨10, 0⟩)]⟩, 0, 2, 1⟩⟩ :: log.drop 8 := by
    simp only [heq, reentrant, watchedObeyAll, watchedObey, Making.watch]
    rfl
  have hbefore : (log.take 7).map (·.event) = [.called 1, .making 1, .called 1, .making 1,
      .made 1 (.ok 10), .answered 1 (.ok ⟨10, 0⟩), .made 1 (.ok 20)] := by
    simp only [heq, reentrant, watchedObeyAll, watchedObey, Making.watch]
    rfl
  exact ⟨log, _, _, _, hlog, hsplit, hbefore, rfl, hnotes _ _ _ hsplit⟩

end LateBinding.Memo
