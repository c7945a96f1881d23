import LateBinding.Proofs.Invoker.Frame
import LateBinding.Proofs.Registry.Twins
import LateBinding.Proofs.Run.Kept

/-!
# Remembered invokers

Every remembered invoker was made for a member that is still declared, and its key is the key of
this member. It is what would be made now, up to what it knows of the type of the value that it
writes; that can be out of date only if this type is gone.
-/

namespace LateBinding

variable {reg reg' : Registry} {config : Config} {next type : TypeId} {gone : List TypeId}
  {cs : Caches} {sort : InvokerSort}

/-- What a sort of invokers remembers under a key. -/
def InvokerSort.held? (sort : InvokerSort) (cs : Caches) (k : CallKey) :
    Option (Stamped sort.Item) :=
  (cs.memo sort.category).get? (sort.key k)

/-- The invoker serves the member whose key this is, where the listed types are gone. -/
structure InvokerSort.Serves (reg : Registry) (config : Config) (gone : List TypeId)
    (sort : InvokerSort) (k : CallKey) (x : sort.Item) (m : Member) : Prop where
  found : reg.Finds config sort k.target m
  key : k = .ofMember k.target m
  writes : sort.Writes m.valueType x
  made : sort.compile reg k.target m = .ok (sort.refresh reg m.valueType x)
  current : m.valueType ∉ gone → sort.refresh reg m.valueType x = x

/-- All remembered invokers serve members, but for those of array elements. -/
def InvokersSound (reg : Registry) (config : Config) (gone : List TypeId) (cs : Caches) : Prop :=
  ∀ (sort : InvokerSort) (k : CallKey) (held : Stamped sort.Item), sort.held? cs k = some held →
    (∃ rank, k = .ofRank rank) ∨ ∃ m, sort.Serves reg config gone k held.value m

/-! ### Changes of the registry -/

namespace InvokerSort

/-- Registering a type changes nothing of what an invoker can know of the types in its key. -/
lemma sameForKey_registered {target : TypeId} {m : Member} {spec : TypeSpec} {base d : Descriptor}
    (hv : reg.Valid next) (hc : reg.Closed next) (hr : reg.Registered spec next base d reg')
    (htarget : ∃ e, reg.get? target = some e) (hm : reg.Declares m) :
    SameForKey reg reg' target m ∧ reg'.get? m.valueType = reg.get? m.valueType := by
  obtain ⟨dt, hdt⟩ := htarget
  obtain ⟨dd, hdd, hm⟩ := hm
  have hbelow := hc.below hv hdd hm
  exact ⟨.of_below hr.sameBelow hv (hv.allocated hdt) hbelow,
    hr.get?_of_lt (hbelow _ (List.mem_cons_of_mem _ List.mem_cons_self))⟩

/-- Registering a type changes nothing of what is made for a member. -/
lemma compile_registered (sort : InvokerSort) {target : TypeId} {m : Member} {spec : TypeSpec}
    {base d : Descriptor} (hv : reg.Valid next) (hc : reg.Closed next)
    (hr : reg.Registered spec next base d reg') (htarget : ∃ e, reg.get? target = some e)
    (hm : reg.Declares m) : sort.compile reg' target m = sort.compile reg target m := by
  obtain ⟨hsame, hvalue⟩ := sameForKey_registered hv hc hr htarget hm
  exact compile_eq_of_same hsame hvalue

end InvokerSort

namespace InvokerSort.Serves

variable {k : CallKey} {x : sort.Item} {m : Member}

lemma declaring_eq (h : sort.Serves reg config gone k x m) : k.declaring = m.declaring :=
  congrArg CallKey.declaring h.key

lemma params_eq (h : sort.Serves reg config gone k x m) : k.params = m.params :=
  congrArg CallKey.params h.key

lemma exists_target (h : sort.Serves reg config gone k x m) :
    ∃ d, reg.get? k.target = some d := by
  obtain ⟨q, -, hfind⟩ := h.found
  obtain ⟨levels, d, hd, -⟩ := Registry.exists_chain_of_find hfind
  exact ⟨d, hd⟩

lemma declared (h : sort.Serves reg config gone k x m) (hv : reg.Valid next) : reg.Declares m := by
  obtain ⟨q, -, hfind⟩ := h.found
  exact hv.declares_of_find hfind

/-- What is made now is what was made, with what is known now of the type of the value. -/
lemma compile_eq (h : sort.Serves reg config gone k x m) (hsame : SameForKey reg reg' k.target m) :
    sort.compile reg' k.target m = .ok (sort.refresh reg' m.valueType x) := by
  rw [compile_congr hsame, h.made]
  exact congrArg Except.ok (refresh_refresh x)

lemma registered {spec : TypeSpec} {base d : Descriptor} (h : sort.Serves reg config gone k x m)
    (hv : reg.Valid next) (hc : reg.Closed next) (hr : reg.Registered spec next base d reg') :
    sort.Serves reg' config gone k x m := by
  obtain ⟨hsame, hvalue⟩ := sameForKey_registered hv hc hr h.exists_target (h.declared hv)
  obtain ⟨q, hq, hfind⟩ := h.found
  refine ⟨⟨q, hq, hr.find_eq hv hq.ofRequest hfind⟩, h.key, h.writes, h.compile_eq hsame,
    fun hgone => ?_⟩
  rw [refresh_congr hvalue, h.current hgone]

/-- An invoker that is kept when a type is unloaded does not name the type in its key, nor a type
that derives from it. -/
lemma sameForKey_of_kept (h : sort.Serves reg config gone k x m) (hv : reg.Valid next)
    (hu : reg.Unloaded type reg')
    (hkept : ∀ t ∈ reg'.descendants type ++ [type], k.involves t = false) :
    SameForKey reg reg' k.target m := by
  have hne : ∀ t ∈ reg'.descendants type ++ [type],
      k.target ≠ t ∧ m.declaring ≠ t ∧ ∀ p ∈ m.params, p.type ≠ t := by
    intro t ht
    have := hkept t ht
    simp only [CallKey.involves, h.declaring_eq, h.params_eq, Bool.or_eq_false_iff,
      beq_eq_false_iff_ne, List.any_eq_false, beq_iff_eq] at this
    exact ⟨this.1.1, this.1.2, this.2⟩
  obtain ⟨htarget, hdeclaring, hparams⟩ :=
    hne type (List.mem_append_right _ List.mem_cons_self)
  refine ⟨hu.get?_of_ne htarget, hu.get?_of_ne hdeclaring,
    fun p hp => hu.get?_of_ne (hparams p hp), fun d hd a ha => hu.get?_of_ne ?_⟩
  rintro rfl
  have hd' : reg'.get? m.declaring = some d := (hu.get?_of_ne hdeclaring).trans hd
  have hmem := (hu.valid hv).mem_descendants hd' hdeclaring ha
  exact (hne _ (List.mem_append_left _ hmem)).2.1 rfl

lemma unloaded (h : sort.Serves reg config gone k x m) (hv : reg.Valid next)
    (hu : reg.Unloaded type reg')
    (hkept : ∀ t ∈ reg'.descendants type ++ [type], k.involves t = false) :
    sort.Serves reg' config (type :: gone) k x m := by
  have hsame := h.sameForKey_of_kept hv hu hkept
  obtain ⟨q, hq, hfind⟩ := h.found
  have htarget : k.target ∉ reg'.descendants type ++ [type] := fun hmem => by
    simpa [CallKey.involves] using hkept k.target hmem
  refine ⟨⟨q, hq, hu.find_eq hv hq.ofRequest htarget hfind⟩, h.key, h.writes, h.compile_eq hsame,
    fun hgone => ?_⟩
  rw [List.mem_cons, not_or] at hgone
  rw [refresh_congr (hu.get?_of_ne hgone.1), h.current hgone.2]

end InvokerSort.Serves

lemma InvokersSound.registered {spec : TypeSpec} {base d : Descriptor}
    (h : InvokersSound reg config gone cs) (hv : reg.Valid next) (hc : reg.Closed next)
    (hr : reg.Registered spec next base d reg') : InvokersSound reg' config gone cs := by
  intro sort k held hk
  rcases h sort k held hk with hrank | ⟨m, hm⟩
  · exact Or.inl hrank
  · exact Or.inr ⟨m, hm.registered hv hc hr⟩

lemma InvokersSound.unloaded (h : InvokersSound reg config gone cs) (hv : reg.Valid next)
    (hu : reg.Unloaded type reg') :
    InvokersSound reg' config (type :: gone) (cs.purge (reg'.descendants type ++ [type])).2 := by
  intro sort k held hk
  obtain ⟨hk, hkept⟩ := Caches.get?_of_get?_purge hk
  rcases h sort k held hk with hrank | ⟨m, hm⟩
  · exact Or.inl hrank
  · refine Or.inr ⟨m, hm.unloaded hv hu fun t ht => ?_⟩
    rw [← hkept t ht]
    cases sort <;> rfl

/-! ### Requests -/

lemma InvokerSort.category_inj {sort' : InvokerSort} :
    sort.category = sort'.category ↔ sort = sort' := by
  cases sort <;> cases sort' <;> simp

lemma InvokerSort.held?_of_memo_eq {cs' : Caches}
    (h : cs'.memo sort.category = cs.memo sort.category) (k : CallKey) :
    sort.held? cs' k = sort.held? cs k := by
  rw [held?, held?, h]

/-- A member that a request denotes is served by what is made for it. -/
lemma Registry.Finds.serves {m : Member} {x : sort.Item} (h : reg.Finds config sort type m)
    (hx : sort.compile reg type m = .ok x) :
    sort.Serves reg config gone (.ofMember type m) x m := by
  have hrefresh : sort.refresh reg m.valueType x = x := by
    have hself : sort.compile reg type m =
        sort.refresh reg m.valueType <$> sort.compile reg type m :=
      InvokerSort.compile_congr (.refl reg type m)
    rw [hx] at hself
    exact (Except.ok.inj hself).symm
  refine ⟨h, rfl, hrefresh ▸ InvokerSort.writes_refresh reg m.valueType x, ?_, fun _ => hrefresh⟩
  rw [hrefresh]
  exact hx

lemma InvokersSound.congr {cs' : Caches} (h : InvokersSound reg config gone cs)
    (hmemo : ∀ {c}, c ≠ .lookups → cs'.memo c = cs.memo c) :
    InvokersSound reg config gone cs' := by
  intro sort k held hk
  rw [InvokerSort.held?_of_memo_eq (hmemo sort.category_ne_lookups)] at hk
  exact h sort k held hk

/-- What is remembered stays sound when an invoker is asked for. -/
lemma InvokersSound.fetch {c : Category} {key : c.Key} {make : Unit → Except Fault c.Item}
    {s s' : State} (h : InvokersSound reg config gone s.caches)
    (hf : Fetches reg config c key make) (hg : Run.Grown c key (make ()) s s') :
    InvokersSound reg config gone s'.caches := by
  intro sort k held hk
  -- nothing has changed for the other sorts of invokers
  have hother : sort.category ≠ c →
      (∃ rank, k = .ofRank rank) ∨ ∃ m, sort.Serves reg config gone k held.value m := by
    intro hne
    rw [InvokerSort.held?_of_memo_eq (hg.memo hne)] at hk
    exact h sort k held hk
  cases hf with
  | @invoker sort' t m hm =>
    by_cases hsort : sort = sort'
    · subst hsort
      rcases hg.new hk with hold | ⟨hkey, hx⟩
      · exact h sort k held hold
      · rw [InvokerSort.key_inj] at hkey
        subst hkey
        exact Or.inr ⟨m, hm.serves hx⟩
    · exact hother (fun heq => hsort (InvokerSort.category_inj.mp heq))
  | elementReader rank =>
    by_cases hsort : sort = .indexReader
    · subst hsort
      rcases hg.new hk with hold | ⟨hkey, -⟩
      · exact h _ k held hold
      · exact Or.inl ⟨rank, hkey⟩
    · exact hother fun heq => hsort (InvokerSort.category_inj.mp heq)
  | elementWriter rank =>
    by_cases hsort : sort = .indexWriter
    · subst hsort
      rcases hg.new hk with hold | ⟨hkey, -⟩
      · exact h _ k held hold
      · exact Or.inl ⟨rank, hkey⟩
    · exact hother fun heq => hsort (InvokerSort.category_inj.mp heq)
  | batchSetter => exact hother (by cases sort <;> simp)
  | copier => exact hother (by cases sort <;> simp)

/-- Who asks for the invoker of a member that has no twin gets what would be made now, if this knows
nothing of a type that is gone. -/
lemma InvokersSound.answer_fetch {m : Member} {s : State}
    (h : InvokersSound reg config gone s.caches) (sort : InvokerSort) (type : TypeId)
    (hv : reg.Valid next) (hm : reg.Declares m) (hsole : reg.Sole m)
    (hcurrent : m.valueType ∉ gone ∨ ∀ x : sort.Item, sort.refresh reg m.valueType x = x) :
    (Run.answer (Run.fetch sort.category (sort.key (.ofMember type m))
      (fun _ => sort.compile reg type m) s)).map Stamped.value = sort.compile reg type m := by
  obtain ⟨r, hr, hfetch⟩ := Run.fetch_cases sort.category (sort.key (.ofMember type m))
    (fun _ => sort.compile reg type m) s
  rw [hfetch]
  cases hr with
  | @hit held m' hheld =>
    rcases h sort _ held hheld with ⟨rank, hrank⟩ | ⟨n, hn⟩
    · exact absurd hrank (hv.ofMember_ne_ofRank hm type rank)
    · obtain rfl := hsole.eq_of_key (hn.declared hv) hn.key
      rw [show sort.compile reg type n = _ from hn.made, hcurrent.elim hn.current fun h => h _]
      rfl
  | stored _ hmade => exact hmade.symm
  | failed _ hmade => exact hmade.symm

/-- All that is remembered is sound, and no identifier has been handed out since. -/
structure CachesSound (reg : Registry) (config : Config) (gone : List TypeId) (next : TypeId)
    (s : State) : Prop where
  next : s.store.nextType = next
  lookups : LookupsSound reg s.caches
  invokers : InvokersSound reg config gone s.caches

lemma kept_cachesSound (reg : Registry) (config : Config) (gone : List TypeId) (next : TypeId) :
    Kept reg config (CachesSound reg config gone next) := by
  refine (kept_beside next (P := InvokersSound reg config gone) (fun hmemo h => h.congr hmemo)
    fun hf hg h => h.fetch hf hg).congr fun s => ?_
  exact ⟨fun h => ⟨h.next, h.lookups, h.invokers⟩, fun h => ⟨h.1, h.2.1, h.2.2⟩⟩

end LateBinding
