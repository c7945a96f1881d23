import LateBinding.Proofs.Caches
import LateBinding.Proofs.Run.Scripts

/-!
# Remembered lookups

Everything that is remembered is what a search would find now: registering a type changes nothing
along a chain that is known, and unloading a type forgets the lookups in all types that derive from
it. Whether lookups are remembered therefore makes no difference to what the binder finds.
-/

namespace LateBinding

open Run

variable {reg reg' : Registry} {config : Config} {next type : TypeId} {q : Query}

/-- Every remembered lookup gives what a search finds now. -/
def LookupsSound (reg : Registry) (cs : Caches) : Prop :=
  ∀ (k : QueryKey) (held : Stamped Member), (cs.memo .lookups).get? k = some held →
    k.query.signature.OfRequest ∧ reg.find k.target k.query = .ok held.value

/-- Only what is remembered of the lookups matters. -/
lemma LookupsSound.congr {cs cs' : Caches} (h : LookupsSound reg cs)
    (hmemo : cs'.memo .lookups = cs.memo .lookups) : LookupsSound reg cs' := by
  intro k held hk
  rw [hmemo] at hk
  exact h k held hk

/-- Whatever is remembered of the invokers, the lookups are as before. -/
lemma LookupsSound.setMemo {cs : Caches} (h : LookupsSound reg cs) {c : Category}
    (hc : c ≠ .lookups) (m : Memo c.Key c.Item) : LookupsSound reg (cs.setMemo c m) :=
  h.congr (Caches.memo_setMemo_of_ne _ hc.symm m)

/-! ### Finding with and without a memory -/

/-- From the first state to the second one nothing has happened but to the lookups. -/
structure State.OnlyLookups (s s' : State) : Prop where
  store : s'.store = s.store
  memo : ∀ {c}, c ≠ .lookups → s'.caches.memo c = s.caches.memo c

lemma State.OnlyLookups.refl (s : State) : s.OnlyLookups s := ⟨rfl, fun _ => rfl⟩

lemma State.onlyLookups_setMemo (s : State) (m : Memo QueryKey Member) :
    s.OnlyLookups { s with caches := s.caches.setMemo .lookups m } :=
  ⟨rfl, fun hc => Caches.memo_setMemo_of_ne s.caches hc m⟩

/-- A remembered search gives what the search finds, and what is remembered stays sound. -/
lemma fetch_lookups {s : State} (hs : LookupsSound reg s.caches) (hq : q.signature.OfRequest)
    (type : TypeId) :
    ∃ s', s.OnlyLookups s' ∧ LookupsSound reg s'.caches ∧
      match Run.fetch .lookups ⟨type, q⟩ (fun _ => reg.find type q) s with
      | .ok held s₁ => s₁ = s' ∧ reg.find type q = .ok held.value
      | .error e s₁ => s₁ = s' ∧ reg.find type q = .error e := by
  obtain ⟨r, hr, heq⟩ := Run.fetch_cases .lookups ⟨type, q⟩ (fun _ => reg.find type q) s
  rw [heq]
  -- a memo with the same view is as sound
  have hview : ∀ m : Memo QueryKey Member,
      (∀ k, m.get? k = (s.caches.memo .lookups).get? k) →
        LookupsSound reg (s.caches.setMemo .lookups m) := by
    intro m hm k held hk
    rw [Caches.memo_setMemo_self, hm] at hk
    exact hs k held hk
  cases hr with
  | hit h hm => exact ⟨_, s.onlyLookups_setMemo _, hview _ hm, rfl, (hs _ _ h).2⟩
  | stored h hmade hself hother =>
    refine ⟨_, s.onlyLookups_setMemo _, fun k held hk => ?_, rfl, hmade⟩
    rw [Caches.memo_setMemo_self] at hk
    by_cases hkey : k = ⟨type, q⟩
    · subst hkey
      rw [hself, Option.some.injEq] at hk
      exact ⟨hq, hk ▸ hmade⟩
    · rw [hother k hkey] at hk
      exact hs k held hk
  | failed h hmade hm => exact ⟨_, s.onlyLookups_setMemo _, hview _ hm, rfl, hmade⟩

/-- However a binder is configured, it finds what the search finds. -/
lemma Binder.member_eq {s : State} (hs : LookupsSound reg s.caches) (hq : q.signature.OfRequest)
    (config : Config) (native : Native) (type : TypeId) :
    ∃ s', s.OnlyLookups s' ∧ LookupsSound reg s'.caches ∧
      (Binder.of reg config native).member type q s = Run.ofExcept (reg.find type q) s' := by
  rw [Binder.member]
  split
  · obtain ⟨s', hs', hsound, hr⟩ := fetch_lookups hs hq type
    refine ⟨s', hs', hsound, ?_⟩
    cases hf : Run.fetch .lookups ⟨type, q⟩ (fun _ => reg.find type q) s with
    | ok held s₁ =>
      rw [hf] at hr
      obtain ⟨rfl, hr⟩ := hr
      exact (bind_eq_of_ok hf).trans (by rw [hr]; rfl)
    | error e s₁ =>
      rw [hf] at hr
      obtain ⟨rfl, hr⟩ := hr
      exact (bind_eq_of_error hf).trans (by rw [hr]; rfl)
  · exact ⟨s, .refl s, hs, rfl⟩

/-! ### Changes of the registry -/

/-- Registering a type leaves every answer as it is. -/
lemma LookupsSound.registered {spec : TypeSpec} {base d : Descriptor} {cs : Caches}
    (hs : LookupsSound reg cs) (hv : reg.Valid next)
    (h : reg.Registered spec next base d reg') : LookupsSound reg' cs := by
  intro k held hk
  obtain ⟨hq, hfind⟩ := hs k held hk
  exact ⟨hq, h.find_eq hv hq hfind⟩

/-- Unloading a type forgets all lookups whose answers may have changed. -/
lemma LookupsSound.unloaded {cs : Caches} (hs : LookupsSound reg cs) (hv : reg.Valid next)
    (h : reg.Unloaded type reg') :
    LookupsSound reg' (cs.purge (reg'.descendants type ++ [type])).2 := by
  intro k held hk
  obtain ⟨hk, hkept⟩ := Caches.get?_of_get?_purge hk
  obtain ⟨hq, hfind⟩ := hs k held hk
  refine ⟨hq, h.find_eq hv hq (fun hmem => ?_) hfind⟩
  simpa [Category.involves, QueryKey.involves] using hkept k.target hmem

/-! ### Requests -/

/-- Two states that differ in the lookups alone, where those of the first one are sound. -/
structure ButLookups (reg : Registry) (next : TypeId) (s t : State) : Prop where
  store : s.store = t.store
  next : s.store.nextType = next
  memo : ∀ {c}, c ≠ .lookups → s.caches.memo c = t.caches.memo c
  sound : LookupsSound reg s.caches

lemma Fetches.ne_lookups {c : Category} {key : c.Key} {make : Unit → Except Fault c.Item}
    (h : Fetches reg config c key make) : c ≠ .lookups := by
  cases h with
  | invoker sort h => exact sort.category_ne_lookups
  | _ => simp

lemma Caches.memo_setMemo_congr {cs cs' : Caches} {c d : Category} (h : cs.memo d = cs'.memo d)
    (m : Memo c.Key c.Item) : (cs.setMemo c m).memo d = (cs'.setMemo c m).memo d := by
  by_cases hd : d = c
  · subst hd
    rw [memo_setMemo_self, memo_setMemo_self]
  · rw [memo_setMemo_of_ne _ hd, memo_setMemo_of_ne _ hd, h]

/-- Where the same is remembered in a category, its questions end alike. -/
lemma Run.fetch_agree {R : Bond} {s t : State} {c : Category} {key : c.Key}
    {make : Unit → Except Fault c.Item} (h : s.caches.memo c = t.caches.memo c)
    (hR : ∀ m : Memo c.Key c.Item, R { s with caches := s.caches.setMemo c m }
      { t with caches := t.caches.setMemo c m }) :
    Agree R (fun _ => True) (Run.fetch c key make s) (Run.fetch c key make t) := by
  rw [fetch, fetch, h]
  cases Memo.fetch key (Memo.lift make) (t.caches.memo c) with
  | ok held m => exact .ok trivial (hR m)
  | error e m => exact .error (hR m)

/-- Whether lookups are remembered makes no difference to what the binder asks the caches. -/
lemma accord_butLookups (reg : Registry) (config : Config) (next : TypeId) :
    Accord reg config true false (ButLookups reg next) where
  store_eq := fun h => h.store
  change := fun h hst => ⟨rfl, hst.trans h.next, h.memo, h.sound⟩
  member := by
    intro n₁ n₂ type q hq s t hst
    obtain ⟨s', hs', hsound, heq⟩ :=
      Binder.member_eq hst.sound hq (config.remembering true) n₁ type
    have hst' : ButLookups reg next s' t :=
      ⟨hs'.store.trans hst.store, hs'.store ▸ hst.next,
        fun hc => (hs'.memo hc).trans (hst.memo hc), hsound⟩
    rw [heq]
    exact InStep.ofExcept (reg.find type q) s' t hst'
  fetch := by
    intro c key make hf s t hst
    have hc := hf.ne_lookups
    exact fetch_agree (hst.memo hc) fun m => ⟨hst.store, hst.next,
      fun hd => Caches.memo_setMemo_congr (hst.memo hd) m, hst.sound.setMemo hc m⟩

end LateBinding
