import Mathlib.Logic.Basic
import LateBinding.Memo

/-!
# Watching a memo

A memo is called, purged and cleared, and while a call makes its result it may call the memo itself,
even for the same key. To see how the memo is used, the same runs are made once more with somebody
who takes notes: whoever calls notes the call and the answer, and whoever makes a result notes the
beginning and the end. The memo itself takes no notes, and the notes change nothing.
-/

namespace LateBinding

/-! ### The use of a memo -/

/-- A computation that may call the memo for which it is run, any number of times and for any
key. -/
inductive Making (ε κ α : Type) where
  | done (result : Except ε α)
  /-- Calls for a key, with what is to be run if nothing is held, and goes on with the answer. -/
  | ask (key : κ) (make : Making ε κ α) (next : Except ε (Stamped α) → Making ε κ α)

/-- Runs the computation on a memo. -/
def Making.run {ε κ α : Type} [DecidableEq κ] : Making ε κ α → EStateM ε (Memo κ α) α
  | done result => fun m => match result with
    | .ok a => .ok a m
    | .error e => .error e m
  | ask key make next => fun m => match Memo.fetch key make.run m with
    | .ok held m => (next (.ok held)).run m
    | .error e m => (next (.error e)).run m

namespace Memo

/-- What may be asked of a memo. -/
inductive Command (ε κ α : Type) where
  | call (key : κ) (make : Making ε κ α)
  | purge (doomed : κ → Bool)
  | clear

/-- What a memo replies. -/
inductive Reply (ε α : Type) where
  | answered (answer : Except ε (Stamped α))
  | purged (removed : Nat)
  | cleared

variable {ε κ α β σ : Type}

section
variable [DecidableEq κ]

/-- Obeys a command. -/
def obey (m : Memo κ α) : Command ε κ α → Reply ε α × Memo κ α
  | .call key make => match fetch key make.run m with
    | .ok held m => (.answered (.ok held), m)
    | .error e m => (.answered (.error e), m)
  | .purge doomed => ((.purged (m.purge doomed).1), (m.purge doomed).2)
  | .clear => (.cleared, m.clear)

/-- Obeys commands one after the other. -/
def obeyAll (m : Memo κ α) : List (Command ε κ α) → List (Reply ε α) × Memo κ α
  | [] => ([], m)
  | c :: cs =>
    let (reply, m) := m.obey c
    let (replies, m) := m.obeyAll cs
    (reply :: replies, m)

end

/-! ### Taking notes -/

/-- What can be noticed of the use of a memo. -/
inductive Event (ε κ α : Type) where
  | called (key : κ)
  /-- The result of a call begins to be made. -/
  | making (key : κ)
  | made (key : κ) (result : Except ε α)
  | answered (key : κ) (answer : Except ε (Stamped α))
  | purged (doomed : κ → Bool)
  | cleared

/-- An event and the memo that it meets. -/
structure Note (ε κ α : Type) where
  event : Event ε κ α
  memo : Memo κ α

/-- A memo beside the notes that have been taken. -/
abbrev Watched (ε κ α : Type) : Type := Memo κ α × List (Note ε κ α)

/-- Takes a note. -/
def note (event : Event ε κ α) (w : Watched ε κ α) : Watched ε κ α := (w.1, w.2 ++ [⟨event, w.1⟩])

lemma note_mk (event : Event ε κ α) (m : Memo κ α) (log : List (Note ε κ α)) :
    note event (m, log) = (m, log ++ [⟨event, m⟩]) := rfl

/-- Makes a result for a key and notes the beginning and the end. -/
def makeNoting (key : κ) (make : EStateM ε (Watched ε κ α) α) : EStateM ε (Watched ε κ α) α :=
  fun w => match make (note (.making key) w) with
    | .ok a w => .ok a (note (.made key (.ok a)) w)
    | .error e w => .error e (note (.made key (.error e)) w)

/-- The first computation does to the memo what the second one does. -/
def Forgets (x : EStateM ε (Memo κ α × σ) β) (y : EStateM ε (Memo κ α) β) : Prop :=
  ∀ m other, ∃ other', x (m, other) = match y m with
    | .ok b m => .ok b (m, other')
    | .error e m => .error e (m, other')

lemma forgets_makeNoting (key : κ) {make : EStateM ε (Watched ε κ α) α}
    {make' : EStateM ε (Memo κ α) α} (h : Forgets make make') :
    Forgets (makeNoting key make) make' := by
  intro m log
  obtain ⟨log', hmake⟩ := h m (log ++ [⟨.making key, m⟩])
  rw [makeNoting, note_mk, hmake]
  cases make' m <;> exact ⟨_, rfl⟩

variable [DecidableEq κ]

/-- A call of a memo that stands beside something else, which only `make` may change. -/
def fetchBeside (key : κ) (make : EStateM ε (Memo κ α × σ) α) :
    EStateM ε (Memo κ α × σ) (Stamped α) := fun (m, other) =>
  match m.get? key with
  | some held => .ok held ({ m with hits := m.hits + 1 }, other)
  | none =>
    match make ({ m with misses := m.misses + 1 }, other) with
    | .error e s => .error e s
    | .ok a (m, other) => let (held, m) := m.store key a; .ok held (m, other)

/-- Calls the memo and notes the call and the answer. -/
def fetchNoting (key : κ) (make : EStateM ε (Watched ε κ α) α) :
    EStateM ε (Watched ε κ α) (Stamped α) :=
  fun w => match fetchBeside key (makeNoting key make) (note (.called key) w) with
    | .ok held w => .ok held (note (.answered key (.ok held)) w)
    | .error e w => .error e (note (.answered key (.error e)) w)

end Memo

/-- Runs the computation and takes notes. -/
def Making.watch {ε κ α : Type} [DecidableEq κ] :
    Making ε κ α → EStateM ε (Memo.Watched ε κ α) α
  | done result => fun w => match result with
    | .ok a => .ok a w
    | .error e => .error e w
  | ask key make next => fun w => match Memo.fetchNoting key make.watch w with
    | .ok held w => (next (.ok held)).watch w
    | .error e w => (next (.error e)).watch w

namespace Memo

variable {ε κ α β σ : Type} [DecidableEq κ]

/-- Obeys a command and takes notes. -/
def watchedObey (w : Watched ε κ α) : Command ε κ α → Reply ε α × Watched ε κ α
  | .call key make => match fetchNoting key make.watch w with
    | .ok held w => (.answered (.ok held), w)
    | .error e w => (.answered (.error e), w)
  | .purge doomed => (.purged (w.1.purge doomed).1,
      ((w.1.purge doomed).2, (note (.purged doomed) w).2))
  | .clear => (.cleared, (w.1.clear, (note .cleared w).2))

/-- Obeys commands one after the other and takes notes. -/
def watchedObeyAll (w : Watched ε κ α) : List (Command ε κ α) → List (Reply ε α) × Watched ε κ α
  | [] => ([], w)
  | c :: cs =>
    let (reply, w) := watchedObey w c
    let (replies, w) := watchedObeyAll w cs
    (reply :: replies, w)

/-! ### Notes change nothing -/

lemma run_ask (key : κ) (make : Making ε κ α) (next : Except ε (Stamped α) → Making ε κ α)
    (m : Memo κ α) : (Making.ask key make next).run m = match fetch key make.run m with
      | .ok held m => (next (.ok held)).run m
      | .error e m => (next (.error e)).run m := by
  rw [Making.run]

lemma watch_ask (key : κ) (make : Making ε κ α) (next : Except ε (Stamped α) → Making ε κ α)
    (w : Watched ε κ α) :
    (Making.ask key make next).watch w = match fetchNoting key make.watch w with
      | .ok held w => (next (.ok held)).watch w
      | .error e w => (next (.error e)).watch w := by
  rw [Making.watch]

lemma forgets_fetchBeside (key : κ) {make : EStateM ε (Memo κ α × σ) α}
    {make' : EStateM ε (Memo κ α) α} (h : Forgets make make') :
    Forgets (fetchBeside key make) (fetch key make') := by
  intro m other
  rw [fetch, fetchBeside]
  cases m.get? key with
  | some held => exact ⟨other, rfl⟩
  | none =>
    obtain ⟨other', hmake⟩ := h { m with misses := m.misses + 1 } other
    refine ⟨other', ?_⟩
    simp only [hmake]
    cases make' { m with misses := m.misses + 1 } <;> rfl

lemma forgets_fetchNoting (key : κ) {make : EStateM ε (Watched ε κ α) α}
    {make' : EStateM ε (Memo κ α) α} (h : Forgets make make') :
    Forgets (fetchNoting key make) (fetch key make') := by
  intro m log
  obtain ⟨log', hfetch⟩ :=
    forgets_fetchBeside key (forgets_makeNoting key h) m (log ++ [⟨.called key, m⟩])
  rw [fetchNoting, note_mk, hfetch]
  cases fetch key make' m <;> exact ⟨_, rfl⟩

lemma forgets_watch (t : Making ε κ α) : Forgets t.watch t.run := by
  induction t with
  | done result =>
    intro m log
    cases result <;> exact ⟨log, rfl⟩
  | ask key make next ihmake ihnext =>
    intro m log
    obtain ⟨log', hfetch⟩ := forgets_fetchNoting key ihmake m log
    rw [watch_ask, run_ask, hfetch]
    cases fetch key make.run m with
    | ok held m' => exact ihnext (.ok held) m' log'
    | error e m' => exact ihnext (.error e) m' log'

lemma obey_forgets (w : Watched ε κ α) (c : Command ε κ α) :
    (watchedObey w c).1 = (w.1.obey c).1 ∧ (watchedObey w c).2.1 = (w.1.obey c).2 := by
  cases c with
  | call key make =>
    obtain ⟨log', hfetch⟩ := forgets_fetchNoting key (forgets_watch make) w.1 w.2
    rw [watchedObey, obey, hfetch]
    cases fetch key make.run w.1 <;> exact ⟨rfl, rfl⟩
  | purge doomed => exact ⟨rfl, rfl⟩
  | clear => exact ⟨rfl, rfl⟩

lemma obeyAll_forgets (w : Watched ε κ α) (cs : List (Command ε κ α)) :
    (watchedObeyAll w cs).1 = (w.1.obeyAll cs).1 ∧
      (watchedObeyAll w cs).2.1 = (w.1.obeyAll cs).2 := by
  induction cs generalizing w with
  | nil => exact ⟨rfl, rfl⟩
  | cons c cs ih =>
    obtain ⟨hreply, hmemo⟩ := obey_forgets w c
    obtain ⟨hreplies, hmemos⟩ := ih (watchedObey w c).2
    rw [hmemo] at hreplies hmemos
    exact ⟨congrArg₂ List.cons hreply hreplies, hmemos⟩

end Memo

end LateBinding
