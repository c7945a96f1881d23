import LateBinding.Proofs.Lookup.Copying
import LateBinding.Proofs.Run.InPlace
import LateBinding.Proofs.Run.StandsFor
import LateBinding.Proofs.Session.Asked

/-!
# Inquiries

An inquiry is what the binder does to get an invoker: it finds the members that the request names,
one lookup after the other, and asks for the invoker under a key that is made from them. When it has
succeeded once, everything that it asked for is remembered, and from then on every inquiry of this
kind is answered from what is remembered: it gets the same invoker and counts a hit for each of its
questions, and nothing else changes.

Main statements: `Inquiry.held_of_inquire` and `Inquiry.inquire_of_held`.
-/

namespace LateBinding

open Run

variable {reg reg' : Registry} {config : Config} {native : Native} {s t : State} {cs cs' : Caches}
  {c : Category} {k : c.Key} {held : Stamped c.Item} {type : TypeId} {q : Query} {m : Member}

/-! ### Caches that have grown -/

/-- Whatever was remembered still is. -/
def Caches.Extends (cs' cs : Caches) : Prop :=
  ∀ (c : Category) (k : c.Key) (held : Stamped c.Item),
    (cs.memo c).get? k = some held → (cs'.memo c).get? k = some held

namespace Caches.Extends

lemma refl (cs : Caches) : cs.Extends cs := fun _ _ _ h => h

lemma trans {cs'' : Caches} (h' : cs''.Extends cs') (h : cs'.Extends cs) : cs''.Extends cs :=
  fun c k held hk => h' c k held (h c k held hk)

end Caches.Extends

lemma Run.extends_fetch (c : Category) (k : c.Key) (make : Unit → Except Fault c.Item)
    (s : State) : (after (Run.fetch c k make s)).caches.Extends s.caches := by
  intro d k' held hk
  have hg := grown_fetch c k make s
  by_cases hd : d = c
  · subst hd
    exact hg.old hk
  · rw [hg.memo hd]
    exact hk

/-- What has been given out is remembered. -/
lemma Run.held_of_fetch {make : Unit → Except Fault c.Item}
    (h : Run.fetch c k make s = .ok held t) : (t.caches.memo c).get? k = some held := by
  obtain ⟨r, hr, hfetch⟩ := fetch_cases c k make s
  rw [hfetch] at h
  cases hr with
  | hit hheld hview =>
    cases h
    rw [Caches.memo_setMemo_self, hview, hheld]
  | stored _ _ hself =>
    cases h
    rw [Caches.memo_setMemo_self, hself]
  | failed => cases h

/-! ### Counted hits -/

/-- The memo after a number of further hits. -/
def Memo.withHits {κ α : Type} (m : Memo κ α) (n : Nat) : Memo κ α := { m with hits := m.hits + n }

namespace Caches

/-- Counts a hit in a category. -/
def hit (cs : Caches) (c : Category) : Caches := cs.setMemo c ((cs.memo c).withHits 1)

/-- Counts a hit for each of several questions. -/
def hits (cs : Caches) (asked : List Category) : Caches := asked.foldl hit cs

lemma memo_hits (cs : Caches) (asked : List Category) (d : Category) :
    (cs.hits asked).memo d = (cs.memo d).withHits (asked.count d) := by
  induction asked generalizing cs with
  | nil => rfl
  | cons c asked ih =>
    change ((cs.hit c).hits asked).memo d = _
    rw [ih, hit]
    by_cases hd : d = c
    · subst hd
      rw [memo_setMemo_self, List.count_cons_self, Nat.add_comm, Memo.withHits, Memo.withHits,
        Memo.withHits, Nat.add_assoc]
    · rw [memo_setMemo_of_ne _ hd, List.count_cons_of_ne (Ne.symm hd)]

lemma get?_hits (cs : Caches) (asked : List Category) (c : Category) (k : c.Key) :
    ((cs.hits asked).memo c).get? k = (cs.memo c).get? k := by
  rw [memo_hits]
  rfl

end Caches

/-- The state after several questions that were answered from what is remembered. -/
def State.hits (s : State) (asked : List Category) : State :=
  { s with caches := s.caches.hits asked }

lemma State.hits_append (s : State) (asked more : List Category) :
    s.hits (asked ++ more) = (s.hits asked).hits more := by
  rw [hits, hits, hits, Caches.hits, Caches.hits, Caches.hits, List.foldl_append]

lemma LookupsSound.hits (h : LookupsSound reg s.caches) (asked : List Category) :
    LookupsSound reg (s.hits asked).caches :=
  fun k held hk => h k held (s.caches.get?_hits asked .lookups k ▸ hk)

/-- Asking for an invoker leaves the lookups alone. -/
lemma LookupsSound.of_fetch_ok {make : Unit → Except Fault c.Item}
    (h : LookupsSound reg s.caches) (hc : c ≠ .lookups) (hf : Run.fetch c k make s = .ok held t) :
    LookupsSound reg t.caches := by
  have hg := grown_fetch c k make s
  rw [hf] at hg
  exact h.congr (hg.memo hc.symm)

lemma Run.fetch_of_held (h : (s.caches.memo c).get? k = some held)
    (make : Unit → Except Fault c.Item) : Run.fetch c k make s = .ok held (s.hits [c]) := by
  rw [Run.fetch, Memo.fetch_of_get?_eq_some h]
  rfl

/-! ### Lookups -/

/-- The lookup is remembered, if lookups are. -/
def Caches.Recalls (cs : Caches) (config : Config) (k : QueryKey) : Prop :=
  config.remembersLookups = true → ∃ found, (cs.memo .lookups).get? k = some found

lemma Caches.Extends.recalls {k : QueryKey} (h : cs'.Extends cs) (hk : cs.Recalls config k) :
    cs'.Recalls config k := by
  intro hr
  obtain ⟨found, hfound⟩ := hk hr
  exact ⟨found, h .lookups k found hfound⟩

/-- The questions of a number of lookups. -/
def Config.lookups (config : Config) (n : Nat) : List Category :=
  if config.remembersLookups then List.replicate n .lookups else []

lemma Config.lookups_zero (config : Config) : config.lookups 0 = [] := by
  rw [lookups]
  split <;> rfl

lemma Config.lookups_succ (config : Config) (n : Nat) :
    config.lookups (n + 1) = config.lookups 1 ++ config.lookups n := by
  rw [lookups, lookups, lookups]
  split <;> rfl

namespace Binder

/-- However a member is looked for, nothing that was remembered is lost. -/
lemma extends_member (b : Binder) (type : TypeId) (q : Query) (s : State) :
    (after (b.member type q s)).caches.Extends s.caches := by
  rw [member]
  split
  · have hfetch := extends_fetch .lookups ⟨type, q⟩ (fun _ => b.registry.find type q) s
    cases hf : Run.fetch .lookups ⟨type, q⟩ (fun _ => b.registry.find type q) s with
    | ok held s' =>
      rw [hf] at hfetch
      rw [bind_eq_of_ok hf]
      exact hfetch
    | error e s' =>
      rw [hf] at hfetch
      rw [bind_eq_of_error hf]
      exact hfetch
  · cases b.registry.find type q <;> exact .refl _

/-- What has been found is what a search finds, and it is remembered. -/
lemma of_member_ok (hs : LookupsSound reg s.caches) (hq : q.signature.OfRequest)
    (h : (Binder.of reg config native).member type q s = .ok m t) :
    reg.find type q = .ok m ∧ LookupsSound reg t.caches ∧ t.caches.Extends s.caches ∧
      t.caches.Recalls config ⟨type, q⟩ := by
  obtain ⟨s', -, hsound, heq⟩ := member_eq hs hq config native type
  have hextends := extends_member (Binder.of reg config native) type q s
  rw [h] at hextends
  rw [h] at heq
  cases hfind : reg.find type q with
  | error e =>
    rw [hfind] at heq
    cases heq
  | ok m' =>
    rw [hfind] at heq
    cases heq
    refine ⟨rfl, hsound, hextends, fun hr => ?_⟩
    rw [member, if_pos hr] at h
    obtain ⟨held, u, hfetch, hpure⟩ := exists_of_ok h
    cases hpure
    exact ⟨held, held_of_fetch hfetch⟩

/-- A lookup that is remembered gives what a search finds. -/
lemma member_of_recalls (native : Native) (hs : LookupsSound reg s.caches)
    (hfind : reg.find type q = .ok m) (hk : s.caches.Recalls config ⟨type, q⟩) :
    (Binder.of reg config native).member type q s = .ok m (s.hits (config.lookups 1)) := by
  rw [member, Config.lookups]
  split
  · rename_i hr
    obtain ⟨found, hfound⟩ := hk hr
    have hvalue := (hs _ found hfound).2
    rw [hfind] at hvalue
    rw [bind_eq_of_ok (fetch_of_held hfound _), ← Except.ok.inj hvalue]
    rfl
  · rename_i hr
    rw [hfind]
    rfl

end Binder

/-- The query for a field or property of a name. -/
def Query.ofName (flags : Flags) (name : String) : Query :=
  { kinds := .fieldsAndProperties, name, flags }

namespace Binder

variable {flags : Flags} {names : List String} {ms : List Member}

lemma of_membersNamed_ok (hs : LookupsSound reg s.caches)
    (h : (Binder.of reg config native).membersNamed type flags names s = .ok ms t) :
    reg.findEach type flags names = .ok ms ∧ LookupsSound reg t.caches ∧
      t.caches.Extends s.caches ∧
      ∀ name ∈ names, t.caches.Recalls config ⟨type, .ofName flags name⟩ := by
  induction names generalizing s ms with
  | nil =>
    cases h
    exact ⟨rfl, hs, .refl _, List.forall_mem_nil _⟩
  | cons name names ih =>
    obtain ⟨m, u, hm, h⟩ := exists_of_ok h
    obtain ⟨rest, v, hrest, hpure⟩ := exists_of_ok h
    cases hpure
    obtain ⟨hfind, hsound, hextends, hrecalls⟩ := of_member_ok hs (by trivial) hm
    obtain ⟨heach, hsound', hextends', hrest⟩ := ih hsound hrest
    exact ⟨mapM_cons_of_ok hfind heach, hsound', hextends'.trans hextends,
      List.forall_mem_cons.mpr ⟨hextends'.recalls hrecalls, hrest⟩⟩

lemma membersNamed_of_recalls (native : Native) (hs : LookupsSound reg s.caches)
    (heach : reg.findEach type flags names = .ok ms)
    (hk : ∀ name ∈ names, s.caches.Recalls config ⟨type, .ofName flags name⟩) :
    (Binder.of reg config native).membersNamed type flags names s =
      .ok ms (s.hits (config.lookups names.length)) := by
  induction names generalizing s ms with
  | nil =>
    cases heach
    rw [List.length_nil, Config.lookups_zero]
    rfl
  | cons name names ih =>
    rw [Registry.findEach, List.mapM_cons] at heach
    obtain ⟨m, hfind, heach⟩ := exists_of_bind_eq_ok heach
    obtain ⟨rest, hrest, heach⟩ := exists_of_bind_eq_ok heach
    cases heach
    obtain ⟨hname, hnames⟩ := List.forall_mem_cons.mp hk
    have hfirst := member_of_recalls native hs hfind hname
    have hothers := ih (hs.hits (config.lookups 1)) hrest fun n hn hr => by
      obtain ⟨found, hfound⟩ := hnames n hn hr
      exact ⟨found, (s.caches.get?_hits _ .lookups _).trans hfound⟩
    rw [List.length_cons, Config.lookups_succ, State.hits_append]
    exact (bind_eq_of_ok hfirst).trans (bind_eq_of_ok hothers)

end Binder

/-! ### Inquiries -/

/-- What the binder can be made to ask the caches for. -/
inductive Inquiry : Category → Type where
  | invoker (sort : InvokerSort) (type : TypeId) (q : Query) (hq : q.signature.OfRequest) :
      Inquiry sort.category
  | elementReader (rank : Nat) : Inquiry .indexReaders
  | elementWriter (rank : Nat) : Inquiry .indexWriters
  | batchSetter (type : TypeId) (flags : Flags) (names : List String) : Inquiry .batchSetters
  | copier (source target : TypeId) (o : CopyOptions) : Inquiry .copiers

/-- Gets the invoker that an inquiry is for. -/
def Binder.inquire (b : Binder) : {c : Category} → Inquiry c → Run (Stamped c.Item)
  | _, .invoker sort type q _ => b.obtain sort type q
  | _, .elementReader rank =>
    Run.fetch .indexReaders (.ofRank rank) fun _ => pure (.element rank)
  | _, .elementWriter rank =>
    Run.fetch .indexWriters (.ofRank rank) fun _ => pure (.element rank)
  | _, .batchSetter type flags names => b.batchSetter type flags names
  | _, .copier source target o => b.copier source target o

namespace Inquiry

/-- The lookups that come first. -/
def queries : {c : Category} → Inquiry c → List QueryKey
  | _, invoker _ type q _ => [⟨type, q⟩]
  | _, batchSetter type flags names => names.map fun name => ⟨type, .ofName flags name⟩
  | _, _ => []

/-- The key under which the invoker is asked for, if all members are found. -/
def key (reg : Registry) : {c : Category} → Inquiry c → Except Fault c.Key
  | _, invoker sort type q _ => (fun m => sort.key (.ofMember type m)) <$> reg.find type q
  | _, elementReader rank => .ok (.ofRank rank)
  | _, elementWriter rank => .ok (.ofRank rank)
  | _, batchSetter type flags names => .ofMembers type <$> reg.findEach type flags names
  | _, copier source target o => .ofPairs source target o <$> reg.copyPairs source target o

/-- The categories that are asked, once for each question. -/
def questions (config : Config) (i : Inquiry c) : List Category :=
  config.lookups i.queries.length ++ [c]

/-- No member has a body that the key can stand for under which the invoker is asked for. -/
def WithoutBodies (reg : Registry) (i : Inquiry c) : Prop :=
  ∀ key, i.key reg = .ok key → reg.WithoutBodies c key

/-- All that the inquiry asks for is remembered, and it will be given this invoker. -/
structure Held (reg : Registry) (config : Config) (cs : Caches) (i : Inquiry c)
    (held : Stamped c.Item) : Prop where
  key : ∃ key, i.key reg = .ok key ∧ (cs.memo c).get? key = some held
  queries : ∀ k ∈ i.queries, cs.Recalls config k

variable {i : Inquiry c}

lemma ne_lookups (i : Inquiry c) : c ≠ .lookups := by
  cases i with
  | invoker sort type q hq => exact sort.category_ne_lookups
  | _ => simp

lemma questions_of_nil (config : Config) (h : i.queries = []) : i.questions config = [c] := by
  rw [questions, h, List.length_nil, Config.lookups_zero]
  rfl

/-- What is remembered stays so. -/
lemma Held.extend (h : i.Held reg config cs held) (hcs : cs'.Extends cs) :
    i.Held reg config cs' held := by
  obtain ⟨key, hkey, hheld⟩ := h.key
  exact ⟨⟨key, hkey, hcs c key held hheld⟩, fun k hk => hcs.recalls (h.queries k hk)⟩

/-- Registering a type changes no key. -/
lemma Held.registered {spec : TypeSpec} {next : TypeId} {base d : Descriptor}
    (h : i.Held reg config cs held) (hv : reg.Valid next)
    (hr : reg.Registered spec next base d reg') : i.Held reg' config cs held := by
  obtain ⟨key, hkey, hheld⟩ := h.key
  refine ⟨⟨key, ?_, hheld⟩, h.queries⟩
  cases i with
  | invoker sort type q hq =>
    obtain ⟨m, hm, rfl⟩ := exists_of_map_eq_ok hkey
    rw [Inquiry.key, hr.find_eq hv hq hm]
    rfl
  | elementReader rank => exact hkey
  | elementWriter rank => exact hkey
  | batchSetter type flags names =>
    obtain ⟨ms, hms, rfl⟩ := exists_of_map_eq_ok hkey
    have hms' : reg'.findEach type flags names = .ok ms :=
      mapM_of_forall hms fun name _ m hm => hr.find_eq hv (by trivial) hm
    rw [Inquiry.key, hms']
    rfl
  | copier source target o =>
    obtain ⟨pairs, hpairs, rfl⟩ := exists_of_map_eq_ok hkey
    rw [Inquiry.key, hr.copyPairs_eq hv hpairs]
    rfl

/-- When an inquiry has succeeded, all that it has asked for is remembered. -/
lemma held_of_inquire (hs : LookupsSound reg s.caches)
    (h : (Binder.of reg config native).inquire i s = .ok held t) :
    LookupsSound reg t.caches ∧ i.Held reg config t.caches held := by
  cases i with
  | invoker sort type q hq =>
    obtain ⟨m, u, hm, hfetch⟩ := exists_of_ok h
    obtain ⟨hfind, hsound, -, hrecalls⟩ := Binder.of_member_ok hs hq hm
    have hextends := extends_fetch sort.category (sort.key (.ofMember type m))
      (fun _ => sort.compile reg type m) u
    rw [hfetch] at hextends
    refine ⟨hsound.of_fetch_ok sort.category_ne_lookups hfetch, ⟨_, ?_, held_of_fetch hfetch⟩,
      List.forall_mem_singleton.mpr (hextends.recalls hrecalls)⟩
    rw [Inquiry.key, hfind]
    rfl
  | elementReader rank =>
    exact ⟨hs.of_fetch_ok (by simp) h, ⟨_, rfl, held_of_fetch h⟩, List.forall_mem_nil _⟩
  | elementWriter rank =>
    exact ⟨hs.of_fetch_ok (by simp) h, ⟨_, rfl, held_of_fetch h⟩, List.forall_mem_nil _⟩
  | batchSetter type flags names =>
    obtain ⟨ms, u, hms, hfetch⟩ := exists_of_ok h
    obtain ⟨heach, hsound, -, hrecalls⟩ := Binder.of_membersNamed_ok hs hms
    have hextends := extends_fetch .batchSetters (.ofMembers type ms)
      (fun _ => BatchSetter.ofMembers reg type ms) u
    rw [hfetch] at hextends
    refine ⟨hsound.of_fetch_ok (by simp) hfetch, ⟨_, ?_, held_of_fetch hfetch⟩, fun k hk => ?_⟩
    · rw [Inquiry.key, heach]
      rfl
    · obtain ⟨name, hname, rfl⟩ := List.mem_map.mp hk
      exact hextends.recalls (hrecalls name hname)
  | copier source target o =>
    obtain ⟨pairs, u, hpairs, hfetch⟩ := exists_of_ok h
    obtain ⟨hfound, rfl⟩ := ofExcept_eq_ok hpairs
    refine ⟨hs.of_fetch_ok (by simp) hfetch, ⟨_, ?_, held_of_fetch hfetch⟩, List.forall_mem_nil _⟩
    rw [Inquiry.key, show reg.copyPairs source target o = .ok pairs from hfound]
    rfl

/-- When all that an inquiry asks for is remembered, it counts a hit for each of its questions and
does nothing else. -/
lemma inquire_of_held (hs : LookupsSound reg s.caches) (h : i.Held reg config s.caches held) :
    (Binder.of reg config native).inquire i s = .ok held (s.hits (i.questions config)) := by
  obtain ⟨key, hkey, hheld⟩ := h.key
  have hheld' : ∀ asked, ((s.hits asked).caches.memo c).get? key = some held :=
    fun asked => (s.caches.get?_hits asked c key).trans hheld
  cases i with
  | invoker sort type q hq =>
    obtain ⟨m, hm, rfl⟩ := exists_of_map_eq_ok hkey
    have hk := h.queries _ List.mem_cons_self
    have hmember := Binder.member_of_recalls native hs hm hk
    rw [questions, State.hits_append]
    exact (bind_eq_of_ok hmember).trans (fetch_of_held (hheld' _) _)
  | elementReader rank =>
    cases hkey
    rw [questions_of_nil config rfl]
    exact fetch_of_held hheld _
  | elementWriter rank =>
    cases hkey
    rw [questions_of_nil config rfl]
    exact fetch_of_held hheld _
  | batchSetter type flags names =>
    obtain ⟨ms, hms, rfl⟩ := exists_of_map_eq_ok hkey
    have hk : ∀ name ∈ names, s.caches.Recalls config ⟨type, .ofName flags name⟩ :=
      fun name hname => h.queries _ (List.mem_map_of_mem hname)
    have hmembers := Binder.membersNamed_of_recalls native hs hms hk
    rw [questions, queries, List.length_map, State.hits_append]
    exact (bind_eq_of_ok hmembers).trans (fetch_of_held (hheld' _) _)
  | copier source target o =>
    obtain ⟨pairs, hpairs, rfl⟩ := exists_of_map_eq_ok hkey
    rw [questions_of_nil config rfl, Binder.inquire, Binder.copier_eq config native hpairs]
    exact fetch_of_held hheld _

end Inquiry

/-! ### Whatever else is asked -/

/-- Lookups are sound, and whatever was remembered still is. -/
structure Remembering (reg : Registry) (cs : Caches) (s : State) : Prop where
  lookups : LookupsSound reg s.caches
  old : s.caches.Extends cs

/-- Whatever the binder does, nothing that was remembered is lost. -/
lemma accord_remembering (reg : Registry) (config : Config) (r : Bool) (cs : Caches) :
    Accord reg config r r fun s t => s = t ∧ Remembering reg cs s where
  store_eq := fun h => congrArg State.store h.1
  change := by
    rintro s _ st ⟨rfl, hs⟩ hst
    exact ⟨rfl, hs.lookups, hs.old⟩
  member := by
    rintro n₁ n₂ type q hq s _ ⟨rfl, hs⟩
    obtain ⟨s', -, hsound, heq⟩ := Binder.member_eq hs.lookups hq (config.remembering r) n₁ type
    have hmore := Binder.extends_member (Binder.of reg (config.remembering r) n₁) type q s
    have hsame : (Binder.of reg (config.remembering r) n₂).member type q s =
        (Binder.of reg (config.remembering r) n₁).member type q s := rfl
    rw [hsame]
    rw [heq] at hmore ⊢
    cases hfind : reg.find type q with
    | ok m =>
      rw [hfind] at hmore
      exact .ok rfl ⟨rfl, hsound, hmore.trans hs.old⟩
    | error e =>
      rw [hfind] at hmore
      exact .error ⟨rfl, hsound, hmore.trans hs.old⟩
  fetch := by
    rintro c k make hf s _ ⟨rfl, hs⟩
    have hmore := (extends_fetch c k make s).trans hs.old
    have hsound := hs.lookups.congr ((grown_fetch c k make s).memo hf.ne_lookups.symm)
    generalize Run.fetch c k make s = r at hmore hsound
    cases r with
    | ok held s' => exact .ok trivial ⟨rfl, hsound, hmore⟩
    | error e s' => exact .error ⟨rfl, hsound, hmore⟩

end LateBinding
