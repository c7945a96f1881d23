import LateBinding.Proofs.Session.Reached

/-!
# What is asked first

Where nothing has been unloaded, a session with the same registry can be reached in which nothing
has been asked. Whatever invoker can be asked for at all can be the first one there, and then it
stays.
-/

namespace LateBinding

open Run

variable {reg reg' : Registry} {config : Config} {sort : InvokerSort} {type : TypeId} {q : Query}
  {m : Member}

/-! ### Asking for an invoker -/

/-- Asks for the member that a query denotes, and for its invoker. -/
def Binder.obtain (b : Binder) (sort : InvokerSort) (type : TypeId) (q : Query) :
    Run (Stamped sort.Item) := do
  let m ← b.member type q
  Run.fetch sort.category (sort.key (.ofMember type m)) fun _ => sort.compile b.registry type m

/-- If a member is found, nothing else happens before its invoker is asked for. -/
lemma Binder.obtain_eq {s : State} (hs : LookupsSound reg s.caches) (hq : q.signature.OfRequest)
    (hfind : reg.find type q = .ok m) (config : Config) (native : Native) (sort : InvokerSort) :
    ∃ s', s.OnlyLookups s' ∧ LookupsSound reg s'.caches ∧
      (Binder.of reg config native).obtain sort type q s =
        Run.fetch sort.category (sort.key (.ofMember type m)) (fun _ => sort.compile reg type m)
          s' := by
  obtain ⟨s', hs', hsound, heq⟩ := Binder.member_eq hs hq config native type
  rw [hfind] at heq
  exact ⟨s', hs', hsound, bind_eq_of_ok heq⟩

lemma State.OnlyLookups.trans {s t u : State} (hst : s.OnlyLookups t) (htu : t.OnlyLookups u) :
    s.OnlyLookups u :=
  ⟨htu.store.trans hst.store, fun hc => (htu.memo hc).trans (hst.memo hc)⟩

/-- However a binder is configured, it finds for several names what the searches find. -/
lemma Binder.membersNamed_eq {s : State} (hs : LookupsSound reg s.caches) (config : Config)
    (native : Native) (type : TypeId) (flags : Flags) (names : List String) :
    ∃ s', s.OnlyLookups s' ∧ LookupsSound reg s'.caches ∧
      (Binder.of reg config native).membersNamed type flags names s =
        Run.ofExcept (reg.findEach type flags names) s' := by
  induction names generalizing s with
  | nil => exact ⟨s, .refl s, hs, rfl⟩
  | cons name names ih =>
    obtain ⟨s₁, hs₁, hsound₁, hmember⟩ := Binder.member_eq hs
      (q := { kinds := .fieldsAndProperties, name, flags }) trivial config native type
    cases hfind : reg.find type { kinds := .fieldsAndProperties, name, flags } with
    | error e =>
      rw [hfind] at hmember
      refine ⟨s₁, hs₁, hsound₁, (bind_eq_of_error hmember).trans ?_⟩
      rw [Registry.findEach, List.mapM_cons, hfind]
      rfl
    | ok m =>
      rw [hfind] at hmember
      obtain ⟨s₂, hs₂, hsound₂, hmembers⟩ := ih hsound₁
      refine ⟨s₂, hs₁.trans hs₂, hsound₂, (bind_eq_of_ok hmember).trans ?_⟩
      rw [Registry.findEach, List.mapM_cons, hfind]
      cases heach : reg.findEach type flags names with
      | error e =>
        rw [heach] at hmembers
        rw [Registry.findEach] at heach
        simp only [heach]
        exact bind_eq_of_error hmembers
      | ok ms =>
        rw [heach] at hmembers
        rw [Registry.findEach] at heach
        simp only [heach]
        exact bind_eq_of_ok hmembers

/-- If all members are found, nothing else happens before the batch setter is asked for. -/
lemma Binder.batchSetter_eq {s : State} (hs : LookupsSound reg s.caches) (config : Config)
    (native : Native) {flags : Flags} {names : List String} {ms : List Member}
    (hms : reg.findEach type flags names = .ok ms) :
    ∃ s', s.OnlyLookups s' ∧ LookupsSound reg s'.caches ∧
      (Binder.of reg config native).batchSetter type flags names s =
        Run.fetch .batchSetters (.ofMembers type ms) (fun _ => BatchSetter.ofMembers reg type ms)
          s' := by
  obtain ⟨s', hs', hsound, heq⟩ := membersNamed_eq hs config native type flags names
  rw [hms] at heq
  exact ⟨s', hs', hsound, bind_eq_of_ok heq⟩

/-- If the pairs are found, nothing happens before the copier is asked for. -/
lemma Binder.copier_eq (config : Config) (native : Native) {source target : TypeId}
    {o : CopyOptions} {pairs : List (Member × Member)}
    (hpairs : reg.copyPairs source target o = .ok pairs) (s : State) :
    (Binder.of reg config native).copier source target o s =
      Run.fetch .copiers (.ofPairs source target o pairs)
        (fun _ => Copier.ofPairs reg source target pairs) s := by
  rw [copier, hpairs]
  rfl

/-- The queries that ask for an invoker of a member by an exact parameter list, or by none. -/
inductive AsksExactly : InvokerSort → TypeId → Query → Prop where
  | getter (type : TypeId) (kinds : KindSet) (name : String) (flags : Flags) :
      AsksExactly .getter type { kinds, name, flags }
  | setter (type : TypeId) (kinds : KindSet) (name : String) (flags : Flags) :
      AsksExactly .setter type { kinds, name, flags }
  | method (type : TypeId) (name : String) (params : List Param) (flags : Flags) :
      AsksExactly .method type
        { kinds := .single .method, name, flags, signature := .exact params }
  | constructor (type : TypeId) (params : List Param) :
      AsksExactly .constructor type
        { kinds := .single .constructor, name := constructorName, flags := .instanceAny,
          signature := .exact params }

lemma AsksExactly.asks (h : AsksExactly sort type q) (config : Config) :
    Asks config sort type q := by
  cases h with
  | getter _ kinds name flags => exact .getter type kinds name flags
  | setter _ kinds name flags => exact .setter type kinds name flags
  | method _ name params flags => exact .method type name params flags
  | constructor _ params => exact .constructor type params

/-! ### Requests that ask for an invoker first -/

/-- Every query for such an invoker comes from a request, which ends when it has the invoker or goes
on like another request. -/
lemma Asks.exists_request {u : TypeId} {q' : Query} (h : Asks config sort type q)
    (hsort : AsksExactly sort u q') :
    ∃ r : Request, ∀ {b : Binder} {s t : State} {held : Stamped sort.Item}, b.config = config →
      b.obtain sort type q s = .ok held t →
        after (r.perform b s) = t ∨ ∃ r' : Request, r.perform b s = r'.perform b t := by
  cases h with
  | getter _ kinds name flags =>
    refine ⟨.getter type kinds name flags, fun _ h => .inl ?_⟩
    exact congrArg after (bind_eq_of_ok h)
  | setter _ kinds name flags =>
    refine ⟨.setter type kinds name flags, fun _ h => .inl ?_⟩
    exact congrArg after (bind_eq_of_ok h)
  | method _ name params flags =>
    refine ⟨.method type name params flags, fun _ h => .inl ?_⟩
    exact congrArg after (bind_eq_of_ok h)
  | constructor _ params =>
    refine ⟨.constructor type params, fun _ h => .inl ?_⟩
    exact congrArg after (bind_eq_of_ok h)
  | @call _ subject htype name arguments =>
    refine ⟨.call subject name none arguments, fun {b s t held} hb h => .inr ?_⟩
    refine ⟨.useMethod held.value subject.receiver arguments, ?_⟩
    subst hb
    have hcall : b.call subject name none arguments s =
        held.value.run b.toContext subject.receiver arguments t := by
      rw [Binder.call, htype]
      exact bind_eq_of_ok h
    exact bind_congr_left hcall
  | create _ arguments =>
    refine ⟨.create type none arguments, fun {b s t held} _ h => .inr ?_⟩
    refine ⟨.useConstructor held.value arguments, ?_⟩
    have hcreate : b.create type none arguments s =
        held.value.run b.toContext arguments t := bind_eq_of_ok h
    exact bind_congr_left hcreate
  | indexReader => cases hsort
  | indexWriter => cases hsort

/-- Where nothing is remembered under a key, what is asked for is made and remembered. -/
lemma Run.fetch_of_none {c : Category} {key : c.Key} {x : c.Item} {s : State}
    (make : Unit → Except Fault c.Item) (h : (s.caches.memo c).get? key = none)
    (hx : make () = .ok x) :
    ∃ held t, Run.fetch c key make s = .ok held t ∧ held.value = x ∧
      (t.caches.memo c).get? key = some held ∧
      ∀ {d}, d ≠ c → t.caches.memo d = s.caches.memo d := by
  obtain ⟨r, hr, hfetch⟩ := fetch_cases c key make s
  rw [hfetch]
  cases hr with
  | hit hheld =>
    rw [h] at hheld
    cases hheld
  | failed _ hmade =>
    rw [hx] at hmade
    cases hmade
  | stored _ hmade hself =>
    rw [hx] at hmade
    refine ⟨_, _, rfl, (Except.ok.inj hmade).symm, ?_, fun hd => Caches.memo_setMemo_of_ne _ hd _⟩
    rw [Caches.memo_setMemo_self, hself]

/-- Where nothing but lookups is remembered, what is asked for is made and remembered. -/
lemma State.OnlyLookups.fetch_first {store : Store} {t : State} {c : Category} {key : c.Key}
    {x : c.Item} (ht : State.OnlyLookups { store } t) (hsound : LookupsSound reg t.caches)
    (hc : c ≠ .lookups) (make : Unit → Except Fault c.Item) (hx : make () = .ok x) :
    ∃ held t', Run.fetch c key make t = .ok held t' ∧ held.value = x ∧
      LookupsSound reg t'.caches ∧ (t'.caches.memo c).get? key = some held := by
  have hnone : (t.caches.memo c).get? key = none := by
    rw [ht.memo hc]
    cases c <;> rfl
  obtain ⟨held, t', hfetch, hvalue, hheld, hmemo⟩ := fetch_of_none make hnone hx
  exact ⟨held, t', hfetch, hvalue, hsound.congr (hmemo hc.symm), hheld⟩

/-- What is remembered stays so, whatever is done. -/
lemma kept_entry (reg : Registry) (config : Config) {c : Category} (hc : c ≠ .lookups)
    (key : c.Key) (held : Stamped c.Item) :
    Kept reg config fun s =>
      LookupsSound reg s.caches ∧ (s.caches.memo c).get? key = some held where
  lookups := fun h => h.1
  change := fun h _ => h
  search := by
    rintro s s' ⟨-, hheld⟩ hs hsound
    exact ⟨hsound, (hs.memo hc).symm ▸ hheld⟩
  fetch := by
    rintro s d key' make hf ⟨hsound, hheld⟩
    have hg := Run.grown_fetch d key' make s
    refine ⟨hsound.congr (hg.memo hf.ne_lookups.symm), ?_⟩
    by_cases hd : c = d
    · subst hd
      exact hg.old hheld
    · rw [hg.memo hd]
      exact hheld

/-! ### Sessions where nothing has been asked -/

/-- A registration looks at the store for nothing but the next identifier. -/
lemma Registry.register_congr {st st' st₁ : Store} {spec : TypeSpec}
    (hnext : st'.nextType = st.nextType) (h : reg.register st spec = .ok (type, reg', st₁)) :
    ∃ st₁', reg.register st' spec = .ok (type, reg', st₁') ∧ st₁'.nextType = st₁.nextType := by
  obtain ⟨base, hb⟩ := checkSpec_of_register h
  obtain ⟨st₂, hnext₂, hr⟩ := register_of_checkSpec hb st
  obtain ⟨st₂', hnext₂', hr'⟩ := register_of_checkSpec hb st'
  rw [hr] at h
  cases h
  rw [hnext] at hr' hnext₂'
  exact ⟨st₂', hr', hnext₂'.trans hnext₂.symm⟩

namespace Session

variable {gone : List TypeId} {s : Session}

lemma Sound.nextType_run (h : Sound gone s) (r : Request) :
    (s.run fun b => r.perform b).2.state.store.nextType = s.state.store.nextType := by
  have hkept := kept_cachesSound s.registry s.config gone s.state.store.nextType
  rw [run_snd]
  exact (hkept.scripted ((hkept.accord _).perform r) h.caches).next

/-- The session with another store, in which nothing has been asked. -/
def unasked (s : Session) (store : Store) : Session := { s with state := { store } }

/-- Everything that was asked can be left out, since registrations do not depend on it. -/
lemma Reached.exists_unasked (h : Reached gone s) (hgone : gone = []) :
    ∃ store, store.nextType = s.state.store.nextType ∧ Reached [] (s.unasked store) := by
  induction h with
  | start config => exact ⟨{}, rfl, .start config⟩
  | @register gone s s' spec type _ hspec hs ih =>
    obtain ⟨store, hnext, hreached⟩ := ih hgone
    obtain ⟨reg', st', hr, rfl⟩ := register_eq_ok hs
    obtain ⟨store', hr', hnext'⟩ := Registry.register_congr hnext hr
    have hs' : (s.unasked store).register spec =
        .ok (type, { s with registry := reg', state := { store := store' } }) := by
      simp only [Session.register, unasked, hr']
      rfl
    exact ⟨store', hnext', hreached.register (hnext ▸ hspec) hs'⟩
  | unload => cases hgone
  | @request gone s h r ih =>
    obtain ⟨store, hnext, hreached⟩ := ih hgone
    refine ⟨store, hnext.trans (h.sound.nextType_run r).symm, ?_⟩
    rw [run_snd]
    exact hreached
  | @outside gone s h change hchange ih =>
    obtain ⟨store, hnext, hreached⟩ := ih hgone
    refine ⟨{ store with nextType := (change s.state.store).nextType }, rfl, ?_⟩
    exact hreached.outside (fun st => { st with nextType := (change s.state.store).nextType })
      (hnext ▸ hchange)

/-- The session can be reached with the same store and nothing asked. -/
lemma Reached.unasked (h : Reached [] s) : Reached [] (s.unasked s.state.store) := by
  obtain ⟨store, hnext, h₀⟩ := h.exists_unasked rfl
  exact h₀.outside (fun _ => s.state.store) (Nat.le_of_eq (congrArg TypeId.code hnext))

/-- What a request asks for first is remembered in some session that is reached with the same
registry, if it can be made. -/
lemma Reached.exists_entry {c : Category} {key : c.Key} {x : c.Item} {t : State}
    (h : Reached [] s) (hc : c ≠ .lookups) (make : Unit → Except Fault c.Item)
    (hx : make () = .ok x) (ht : State.OnlyLookups { store := s.state.store } t)
    (hsound : LookupsSound s.registry t.caches) (r : Request)
    (hr : ∀ held t', Run.fetch c key make t = .ok held t' → held.value = x →
      ∃ rest : Binder → Run Answer,
        (∀ {R}, Accord s.registry s.config s.config.remembersLookups s.config.remembersLookups R →
          Binder.InStep s.registry s.config s.config.remembersLookups s.config.remembersLookups R
            rest) ∧
        after (r.perform s.binder { store := s.state.store }) = after (rest s.binder t')) :
    ∃ s' held, Reached [] s' ∧ s'.registry = s.registry ∧ s'.config = s.config ∧
      (s'.state.caches.memo c).get? key = some held ∧ held.value = x := by
  obtain ⟨held, t', hfetch, hvalue, hlookups, hheld⟩ := ht.fetch_first hsound hc make hx
  obtain ⟨rest, hrest, hend⟩ := hr held t' hfetch hvalue
  refine ⟨_, held, h.unasked.request r, ?_, ?_, ?_, hvalue⟩ <;> rw [run_snd]
  · rfl
  · rfl
  · have hkept := kept_entry s.registry s.config hc key held
    have hafter := (hkept.scripted (hrest (hkept.accord _)) ⟨hlookups, hheld⟩).2
    exact (congrArg (fun t => (t.caches.memo c).get? key) hend).trans hafter

/-- Whatever invoker can be asked for and be made is remembered in some session that is reached
with the same registry. -/
lemma Reached.exists_held {u : TypeId} {q' : Query} {x : sort.Item} (h : Reached [] s)
    (hsort : AsksExactly sort u q') (hm : s.registry.Finds s.config sort type m)
    (hx : sort.compile s.registry type m = .ok x) :
    ∃ s' held, Reached [] s' ∧ s'.registry = s.registry ∧ s'.config = s.config ∧
      sort.held? s'.state.caches (.ofMember type m) = some held ∧ held.value = x := by
  obtain ⟨q, hq, hfind⟩ := hm
  obtain ⟨r, hr⟩ := hq.exists_request hsort
  obtain ⟨t, ht, hsound, hobtain⟩ := Binder.obtain_eq h.unasked.sound.caches.lookups hq.ofRequest
    hfind s.config s.binder.native sort
  refine h.exists_entry sort.category_ne_lookups (fun _ => sort.compile s.registry type m) hx ht
    hsound r fun held t' hfetch _ => ?_
  rcases hr (b := s.binder) rfl (hobtain.trans hfetch) with hend | ⟨r', hr'⟩
  · exact ⟨fun _ => pure .done, fun _ _ _ _ => .pure trivial, hend⟩
  · exact ⟨fun b => r'.perform b, fun hR => hR.perform r', congrArg after hr'⟩

end Session

end LateBinding
