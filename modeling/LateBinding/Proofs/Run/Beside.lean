import LateBinding.Proofs.Invoker.Topics
import LateBinding.Proofs.Run.Lookups

/-!
# Runs beside others

The same is asked twice: where the caches are shared with others, and where they are not. The two
runs go in step as long as the shared caches hold the same as the own ones about the topics that are
owned, and nothing that is asked for about a type of somebody else. The latter can go wrong with
lookups alone, since whatever else is asked for has been found in the own registry before.
-/

namespace LateBinding

open Run

variable {α : Type} {reg : Registry} {config : Config} {next : TypeId}

/-! ### What is remembered about a topic -/

namespace Caches

/-- What is remembered about a topic. -/
def about (cs : Caches) (x : Topic) : Option x.1.Item :=
  ((cs.memo x.1).get? x.2).map Stamped.value

/-- What is answered about a topic: what is remembered, or what is made if nothing is. -/
def answer (cs : Caches) (x : Topic) (make : Unit → Except Fault x.1.Item) :
    Except Fault x.1.Item :=
  match cs.about x with
  | some i => .ok i
  | none => make ()

/-- Nothing has changed but what is remembered about one topic. -/
structure Updated (cs : Caches) (x : Topic) (new : Option x.1.Item) (cs' : Caches) : Prop where
  self : cs'.about x = new
  other : ∀ y, y ≠ x → cs'.about y = cs.about y

variable {cs cs' : Caches} {x y : Topic} {new : Option x.1.Item}

lemma answer_of_some {i : x.1.Item} (h : cs.about x = some i)
    (make : Unit → Except Fault x.1.Item) : cs.answer x make = .ok i := by
  rw [answer, h]

lemma answer_of_none (h : cs.about x = none) (make : Unit → Except Fault x.1.Item) :
    cs.answer x make = make () := by
  rw [answer, h]

lemma answer_congr (h : cs'.about x = cs.about x) (make : Unit → Except Fault x.1.Item) :
    cs'.answer x make = cs.answer x make := by
  rw [answer, answer, h]

lemma Updated.eq_or (h : cs.Updated x new cs') (y : Topic) :
    (∃ heq : y = x, cs'.about y = heq ▸ new) ∨ cs'.about y = cs.about y := by
  by_cases hy : y = x
  · subst hy
    exact Or.inl ⟨rfl, h.self⟩
  · exact Or.inr (h.other y hy)

lemma Updated.about_eq (h : cs.Updated x new cs') (hx : cs.about x = new) (y : Topic) :
    cs'.about y = cs.about y := by
  by_cases hy : y = x
  · subst hy
    rw [h.self, hx]
  · exact h.other y hy

lemma about_setMemo_self (cs : Caches) (c : Category) (m : Memo c.Key c.Item) (key : c.Key) :
    (cs.setMemo c m).about ⟨c, key⟩ = (m.get? key).map Stamped.value := by
  rw [about, memo_setMemo_self]

/-- Only one memo has changed, and in this one only what is held for one key. -/
lemma updated_setMemo {c : Category} {m : Memo c.Key c.Item} {key : c.Key}
    (h : ∀ k, k ≠ key → m.get? k = (cs.memo c).get? k) :
    cs.Updated ⟨c, key⟩ ((m.get? key).map Stamped.value) (cs.setMemo c m) := by
  refine ⟨about_setMemo_self cs c m key, fun ⟨d, k⟩ hne => ?_⟩
  by_cases hd : d = c
  · subst hd
    rw [about_setMemo_self, h k fun hk => hne (hk ▸ rfl), about]
  · rw [about, about, memo_setMemo_of_ne cs hd]

lemma about_purge (cs : Caches) (types : List TypeId) (x : Topic) :
    (cs.purge types).2.about x = if types.any x.involves then none else cs.about x := by
  rw [about, get?_purge]
  change Option.map _ (if types.any x.involves then none else _) = _
  split <;> rfl

lemma about_of_about_purge {types : List TypeId} {i : x.1.Item}
    (h : (cs.purge types).2.about x = some i) : cs.about x = some i ∧ x.type ∉ types := by
  rw [about_purge] at h
  split at h
  · cases h
  · rename_i hany
    exact ⟨h, fun hmem => hany (List.any_eq_true.mpr ⟨x.type, hmem, x.involves_type⟩)⟩

end Caches

/-- Who asks the caches goes on with the answer, which is remembered from now on. -/
lemma Run.fetch_bind (c : Category) (key : c.Key) (make : Unit → Except Fault c.Item)
    (s : State) :
    ∃ s' : State, s'.store = s.store ∧
      s.caches.Updated ⟨c, key⟩ (s.caches.answer ⟨c, key⟩ make).toOption s'.caches ∧
      ∀ {α : Type} (f : c.Item → Run α), (Run.fetch c key make >>= fun held => f held.value) s =
        (Run.ofExcept (s.caches.answer ⟨c, key⟩ make) >>= f) s' := by
  obtain ⟨r, hr, hfetch⟩ := fetch_cases c key make s
  have habout : s.caches.about ⟨c, key⟩ = ((s.caches.memo c).get? key).map Stamped.value := rfl
  have hupdated : ∀ {m : Memo c.Key c.Item} {held : Option (Stamped c.Item)},
      m.get? key = held → (∀ k, k ≠ key → m.get? k = (s.caches.memo c).get? k) →
        s.caches.Updated ⟨c, key⟩ (held.map Stamped.value) (s.caches.setMemo c m) :=
    fun hself hother => hself ▸ Caches.updated_setMemo hother
  cases hr with
  | @hit held m h hview =>
    have hanswer : s.caches.answer ⟨c, key⟩ make = .ok held.value :=
      Caches.answer_of_some (by rw [habout, h]; rfl) make
    have hself : m.get? key = some held := (hview key).trans h
    rw [hanswer]
    refine ⟨{ s with caches := s.caches.setMemo c m }, rfl, ?_, fun f => bind_eq_of_ok hfetch⟩
    exact hupdated hself fun k _ => hview k
  | @stored held m h hmade hself hother =>
    have hanswer : s.caches.answer ⟨c, key⟩ make = .ok held.value :=
      (Caches.answer_of_none (by rw [habout, h]; rfl) make).trans hmade
    rw [hanswer]
    refine ⟨{ s with caches := s.caches.setMemo c m }, rfl, ?_, fun f => bind_eq_of_ok hfetch⟩
    exact hupdated hself hother
  | @failed e m h hmade hview =>
    have hanswer : s.caches.answer ⟨c, key⟩ make = .error e :=
      (Caches.answer_of_none (by rw [habout, h]; rfl) make).trans hmade
    have hself : m.get? key = none := (hview key).trans h
    rw [hanswer]
    refine ⟨{ s with caches := s.caches.setMemo c m }, rfl, ?_, fun f => bind_eq_of_error hfetch⟩
    exact hupdated hself fun k _ => hview k

/-! ### Ends of runs -/

/-- Two runs that end in step have parted, or they answer the same in related states. -/
lemma Agree.parts_or {R : Bond} {Q : α → Prop} {r r' : EStateM.Result Fault State α}
    (h : Agree R Q r r') : (∃ e, answer r' = .error e ∧ R.parts e) ∨
      answer r = answer r' ∧ R (after r) (after r') := by
  cases h with
  | ok _ hr => exact Or.inr ⟨rfl, hr⟩
  | error hr => exact Or.inr ⟨rfl, hr⟩
  | parted h => exact Or.inl ⟨_, rfl, h⟩

lemma Run.answer_map {β : Type} (f : α → β) (x : Run α) (s : State) :
    answer ((f <$> x) s) = (answer (x s)).map f := by
  change answer (EStateM.map f x s) = _
  rw [EStateM.map]
  cases x s <;> rfl

lemma Run.after_map {β : Type} (f : α → β) (x : Run α) (s : State) :
    after ((f <$> x) s) = after (x s) := by
  change after (EStateM.map f x s) = _
  rw [EStateM.map]
  cases x s <;> rfl

/-! ### Own and shared caches -/

/-- What somebody remembers about a topic in caches of its own: what everybody would, or something
about a topic that is owned, whose key names types of a kind. -/
structure Topic.Keeps (reg : Registry) (config : Config) (P : TypeId → Prop) (x : Topic)
    (i : x.1.Item) : Prop where
  common : ∀ {j}, x.common? = some j → i = j
  owns : x.common? = none → reg.Owns x.type
  involves : x.common? = none → ∀ t, x.involves t = true → P t
  remembers : x.1 = .lookups → config.remembersLookups = true

/-- All that is remembered is what somebody may remember in caches of its own. -/
def Caches.Own (reg : Registry) (config : Config) (P : TypeId → Prop) (cs : Caches) : Prop :=
  ∀ x i, cs.about x = some i → x.Keeps reg config P i

lemma Topic.Keeps.mono {reg' : Registry} {P P' : TypeId → Prop} {x : Topic} {i : x.1.Item}
    (h : x.Keeps reg config P i) (howns : ∀ t, reg.Owns t → reg'.Owns t) (hP : ∀ t, P t → P' t) :
    x.Keeps reg' config P' i :=
  ⟨h.common, fun hx => howns _ (h.owns hx), fun hx t ht => hP t (h.involves hx t ht), h.remembers⟩

/-- Two states with the same store, of which the left one has caches that are shared with others and
were `base` at the start, and the right one has caches of its own. -/
structure Beside (reg : Registry) (config : Config) (P : TypeId → Prop) (base : Caches)
    (s t : State) : Prop where
  store : s.store = t.store
  own : t.caches.Own reg config P
  lookups : ∀ k m, t.caches.about ⟨.lookups, k⟩ = some m → reg.find k.target k.query = .ok m
  common : ∀ {x : Topic} {i j}, x.common? = some i → s.caches.about x = some j → j = i
  same : ∀ {x : Topic}, x.common? = none → reg.Owns x.type → s.caches.about x = t.caches.about x
  others : ∀ {x : Topic}, x.common? = none → ¬ reg.Owns x.type →
    s.caches.about x = base.about x

/-- The two runs may part where lookups are remembered and the type is somebody else's. -/
def bondBeside (reg : Registry) (config : Config) (P Lent : TypeId → Prop) (base : Caches) :
    Bond where
  rel := Beside reg config P base
  parts e := config.remembersLookups = true ∧ ∃ t, e = .unknownType t ∧ Lent t

namespace Beside

variable {P Lent : TypeId → Prop} {base : Caches} {s t s' t' : State}

/-- Nothing happens to the caches that can be seen. -/
lemma congr (h : Beside reg config P base s t) (hstore : s'.store = t'.store)
    (hs : ∀ x, s'.caches.about x = s.caches.about x)
    (ht : ∀ x, t'.caches.about x = t.caches.about x) : Beside reg config P base s' t' where
  store := hstore
  own := fun x i hi => h.own x i (ht x ▸ hi)
  lookups := fun k m hm => h.lookups k m (ht _ ▸ hm)
  common := fun hx hj => h.common hx (hs _ ▸ hj)
  same := fun hx howns => by rw [hs, ht, h.same hx howns]
  others := fun hx howns => by rw [hs, h.others hx howns]

/-- The same is remembered from now on in both caches about a topic that is common or owned. -/
lemma updated (h : Beside reg config P base s t) (hstore : s'.store = t'.store) {x : Topic}
    {new : Option x.1.Item} (hs : s.caches.Updated x new s'.caches)
    (ht : t.caches.Updated x new t'.caches) (howns : x.common? = none → reg.Owns x.type)
    (hkeeps : ∀ i, new = some i → x.Keeps reg config P i)
    (hlookups : ∀ k m, t'.caches.about ⟨.lookups, k⟩ = some m →
      reg.find k.target k.query = .ok m) : Beside reg config P base s' t' where
  store := hstore
  own := by
    intro y i hi
    by_cases hy : y = x
    · subst hy
      exact hkeeps i (ht.self ▸ hi)
    · exact h.own y i (ht.other y hy ▸ hi)
  lookups := hlookups
  common := by
    intro y i j hcommon hj
    by_cases hy : y = x
    · subst hy
      exact (hkeeps j (hs.self ▸ hj)).common hcommon
    · exact h.common hcommon (hs.other y hy ▸ hj)
  same := by
    intro y hcommon hy
    by_cases hyx : y = x
    · subst hyx
      rw [hs.self, ht.self]
    · rw [hs.other y hyx, ht.other y hyx, h.same hcommon hy]
  others := by
    intro y hcommon hy
    -- the topic is common or owned, and these are neither
    have hyx : y ≠ x := by
      rintro rfl
      exact hy (howns hcommon)
    rw [hs.other y hyx, h.others hcommon hy]

/-- A question that may be asked is answered alike. -/
lemma answer_eq (h : Beside reg config P base s t) {x : Topic}
    {make : Unit → Except Fault x.1.Item} (hx : x.Asked reg make) :
    s.caches.answer x make = t.caches.answer x make := by
  cases hx with
  | @common i hcommon hmake =>
    have hi : ∀ {cs : Caches}, (∀ j, cs.about x = some j → j = i) →
        cs.answer x make = .ok i := by
      intro cs hcs
      cases hj : cs.about x with
      | none => exact (Caches.answer_of_none hj make).trans hmake
      | some j =>
        obtain rfl := hcs j hj
        exact Caches.answer_of_some hj make
    rw [hi fun j hj => h.common hcommon hj, hi fun j hj => (h.own x j hj).common hcommon]
  | owned hx => exact Caches.answer_congr (h.same hx.uncommon hx.owns) make

/-- What is answered to such a question may be remembered. -/
lemma keeps_answer (h : Beside reg config P base s t) {x : Topic}
    {make : Unit → Except Fault x.1.Item} (hx : x.Asked reg make)
    (hP : ∀ u, reg.Mentions u → P u) (hremembers : x.1 = .lookups → config.remembersLookups = true)
    {i : x.1.Item} (hi : t.caches.answer x make = .ok i) : x.Keeps reg config P i := by
  cases hj : t.caches.about x with
  | some j =>
    rw [Caches.answer_of_some hj, Except.ok.injEq] at hi
    exact hi ▸ h.own x j hj
  | none =>
    rw [Caches.answer_of_none hj] at hi
    refine ⟨fun {j} hj => ?_, hx.owns, fun hnone t ht => ?_, hremembers⟩
    · cases hx with
      | common hcommon hmake =>
        rw [hmake, Except.ok.injEq] at hi
        exact hi.symm.trans (Option.some.inj (hcommon.symm.trans hj))
      | owned hx => exact absurd (hx.uncommon.symm.trans hj) nofun
    · cases hx with
      | common hcommon => exact absurd (hcommon.symm.trans hnone) nofun
      | owned hx => exact hP t (hx.mentions t ht)

/-- Who goes on with the answer to such a question goes on with the same one. -/
lemma fetch_inStep {c : Category} {key : c.Key} {make : Unit → Except Fault c.Item}
    (hx : Topic.Asked reg ⟨c, key⟩ make) (hP : ∀ u, reg.Mentions u → P u)
    (hremembers : c = .lookups → config.remembersLookups = true)
    (h : Beside reg config P base s t)
    (hlookups : ∀ {t' : State},
      t.caches.Updated ⟨c, key⟩ (t.caches.answer ⟨c, key⟩ make).toOption t'.caches →
        ∀ k m, t'.caches.about ⟨.lookups, k⟩ = some m → reg.find k.target k.query = .ok m)
    {Q : α → Prop} {f g : c.Item → Run α}
    (hfg : ∀ i, t.caches.answer ⟨c, key⟩ make = .ok i →
      InStep (bondBeside reg config P Lent base) Q (f i) (g i)) :
    Agree (bondBeside reg config P Lent base) Q
      ((Run.fetch c key make >>= fun held => f held.value) s)
      ((Run.fetch c key make >>= fun held => g held.value) t) := by
  obtain ⟨s', hs, hsupdated, hseq⟩ := fetch_bind c key make s
  obtain ⟨t', ht, htupdated, hteq⟩ := fetch_bind c key make t
  rw [h.answer_eq hx] at hsupdated hseq
  rw [hseq, hteq]
  refine (InStep.ofExcept _).bind hfg s' t' ?_
  refine h.updated (by rw [hs, ht, h.store]) hsupdated htupdated hx.owns (fun i hi => ?_)
    (hlookups htupdated)
  exact h.keeps_answer hx hP hremembers (eq_ok_of_toOption_eq_some hi)

end Beside

/-! ### Harmony -/

section Harmony

variable {P Lent : TypeId → Prop} {base : Caches} (hv : reg.Valid next)
  (hP : ∀ u, reg.Mentions u → P u) (hlent : ∀ {t}, Lent t → reg.get? t = none)
  (hbase : ∀ {k m}, base.about ⟨.lookups, k⟩ = some m → ¬ reg.Owns k.target → Lent k.target)

include hP in
/-- A search through a type that is owned goes in step. -/
lemma find_inStep_of_owns {s t : State} (h : Beside reg config P base s t)
    (hr : config.remembersLookups = true) {type : TypeId} (howns : reg.Owns type) (q : Query) :
    Agree (bondBeside reg config P Lent base) (fun m => reg.find type q = .ok m)
      ((Run.fetch .lookups ⟨type, q⟩ (fun _ => reg.find type q) >>= fun held => pure held.value) s)
      ((Run.fetch .lookups ⟨type, q⟩ (fun _ => reg.find type q) >>= fun held => pure held.value)
        t) := by
  -- what is remembered of the type is what its own registry says
  have hanswer : t.caches.answer ⟨.lookups, ⟨type, q⟩⟩ (fun _ => reg.find type q) =
      reg.find type q := by
    cases hm : t.caches.about ⟨.lookups, ⟨type, q⟩⟩ with
    | none => exact Caches.answer_of_none hm _
    | some m => exact (Caches.answer_of_some hm _).trans (h.lookups _ m hm).symm
  refine h.fetch_inStep (.owned (Topic.owned_lookup howns)) hP (fun _ => hr) ?_ ?_
  · intro t' ht k m hm
    rcases ht.eq_or ⟨.lookups, k⟩ with ⟨heq, hself⟩ | hother
    · cases heq
      rw [hself, hanswer] at hm
      exact eq_ok_of_toOption_eq_some hm
    · exact h.lookups k m (hother ▸ hm)
  · intro m hm
    exact .pure (hanswer ▸ hm)

include hv hlent hbase in
/-- A search through any other type fails, and may be answered only if the type is somebody
else's. -/
lemma find_inStep_of_not_owns {s t : State} (h : Beside reg config P base s t)
    (hr : config.remembersLookups = true) {type : TypeId} (howns : ¬ reg.Owns type) (q : Query) :
    Agree (bondBeside reg config P Lent base) (fun m => reg.find type q = .ok m)
      ((Run.fetch .lookups ⟨type, q⟩ (fun _ => reg.find type q) >>= fun held => pure held.value) s)
      ((Run.fetch .lookups ⟨type, q⟩ (fun _ => reg.find type q) >>= fun held => pure held.value)
        t) := by
  obtain ⟨e, hfind⟩ : ∃ e, reg.find type q = .error e := by
    cases hfind : reg.find type q with
    | ok m => exact absurd (hv.owns_of_find hfind) howns
    | error e => exact ⟨e, rfl⟩
  obtain ⟨s', hs, hsupdated, hseq⟩ := fetch_bind .lookups ⟨type, q⟩ (fun _ => reg.find type q) s
  obtain ⟨t', ht, htupdated, hteq⟩ := fetch_bind .lookups ⟨type, q⟩ (fun _ => reg.find type q) t
  have htnone : t.caches.about ⟨.lookups, ⟨type, q⟩⟩ = none := by
    cases hm : t.caches.about ⟨.lookups, ⟨type, q⟩⟩ with
    | none => rfl
    | some m => exact absurd ((h.own _ m hm).owns rfl) howns
  rw [hseq, hteq]
  rw [(Caches.answer_of_none htnone _).trans hfind] at htupdated ⊢
  cases hsm : s.caches.about ⟨.lookups, ⟨type, q⟩⟩ with
  | none =>
    rw [(Caches.answer_of_none hsm _).trans hfind] at hsupdated ⊢
    exact .error (h.congr (by rw [hs, ht, h.store]) (hsupdated.about_eq hsm)
      (htupdated.about_eq htnone))
  | some m =>
    have hm := (h.others (x := ⟨.lookups, ⟨type, q⟩⟩) rfl howns).symm.trans hsm
    have htype : Lent type := hbase hm howns
    have hunknown := Registry.find_of_firstUnknown (Or.inl ⟨hlent htype, rfl⟩) q
    exact .parted ⟨hr, type, Except.error.inj (hfind.symm.trans hunknown), htype⟩

include hv hP hlent hbase in
/-- Beside others everything goes in step, unless a lookup is remembered for a type that somebody
else owns. -/
lemma harmony_beside : Harmony reg config config.remembersLookups config.remembersLookups
    (bondBeside reg config P Lent base) where
  store_eq := fun h => h.store
  change := fun h _ => h.congr rfl (fun _ => rfl) fun _ => rfl
  member := by
    intro n₁ n₂ type q hq s t h
    cases hr : config.remembersLookups with
    | false => exact InStep.ofExcept _ s t h
    | true =>
      by_cases howns : reg.Owns type
      · exact find_inStep_of_owns hP h hr howns q
      · exact find_inStep_of_not_owns hv hlent hbase h hr howns q
  serve := by
    intro c key make hf α Q f g hfg s t h
    refine h.fetch_inStep (hf.asked hv) hP (fun hc => absurd hc hf.ne_lookups) ?_
      fun i _ => hfg i
    intro t' ht k m hm
    have hne : (⟨.lookups, k⟩ : Topic) ≠ ⟨c, key⟩ := fun heq =>
      hf.ne_lookups (congrArg Sigma.fst heq).symm
    exact h.lookups k m (ht.other _ hne ▸ hm)

end Harmony

end LateBinding
