import LateBinding.Proofs.Run.Answers
import LateBinding.Proofs.Session.Serving

/-!
# Answers to any question

As long as nothing is unloaded, whatever is remembered is the answer to a question that can still be
asked, and whatever can be answered may have been asked before. If one of two questions under the
same key is answered for the other one, nobody notices exactly if their answers do the same; and an
operation all of whose questions are answered in this way ends as if nothing had been asked before.
-/

namespace LateBinding

open Run

variable {reg : Registry} {config : Config} {next : TypeId} {c : Category} {key : c.Key}
  {make : Unit → Except Fault c.Item}

/-! ### One question -/

/-- Which questions there are for batch setters and for copiers. -/
lemma Fetches.cases_of_category (h : Fetches reg config c key make) :
    match c, key, make with
    | .batchSetters, key, make => ∃ type flags names ms, reg.findEach type flags names = .ok ms ∧
        key = .ofMembers type ms ∧ make () = BatchSetter.ofMembers reg type ms
    | .copiers, key, make => ∃ source target o pairs, reg.copyPairs source target o = .ok pairs ∧
        key = .ofPairs source target o pairs ∧ make () = Copier.ofPairs reg source target pairs
    | _, _, _ => True := by
  cases h with
  | invoker sort => cases sort <;> trivial
  | elementReader => trivial
  | elementWriter => trivial
  | batchSetter h => exact ⟨_, _, _, _, h, rfl, rfl⟩
  | copier h => exact ⟨_, _, _, _, h, rfl, rfl⟩

variable {Alike : c.Item → c.Item → Prop}

lemma asFresh_of_map_eq {α : Type} {got : Except Fault (Stamped α)} {fresh : Except Fault α}
    (h : got.map Stamped.value = fresh) : AsFresh Eq got fresh := by
  subst h
  cases got with
  | ok held => exact .ok rfl
  | error e => exact .error e

lemma AsFresh.exists_alike {α : Type} {Alike : α → α → Prop} {held : Stamped α}
    {fresh : Except Fault α} (h : AsFresh Alike (.ok held) fresh) :
    ∃ y, fresh = .ok y ∧ Alike held.value y := by
  cases h with
  | ok h => exact ⟨_, rfl, h⟩

/-- If the answers to all questions under a key do the same, so does what is remembered for it. -/
lemma AnswersSound.asFresh_fetch {s : State} (h : AnswersSound reg config s.caches)
    (hf : Fetches reg config c key make) (hrefl : ∀ x, Alike x x)
    (htell : ∀ make' x, Fetches reg config c key make' → make' () = .ok x →
      ∃ y, make () = .ok y ∧ Alike x y) :
    AsFresh Alike (answer (Run.fetch c key make s)) (make ()) := by
  obtain ⟨r, hr, hfetch⟩ := fetch_cases c key make s
  rw [hfetch]
  cases hr with
  | @hit held m hheld =>
    obtain ⟨make', hmake', hmade⟩ := h c key held hf.ne_lookups hheld
    obtain ⟨y, hy, halike⟩ := htell make' held.value hmake' hmade
    rw [hy]
    exact .ok halike
  | stored _ hmade =>
    rw [hmade]
    exact .ok (hrefl _)
  | failed _ hmade =>
    rw [hmade]
    exact .error _

/-! ### Two faithful states -/

/-- Two states with the same store, in both of which all that is remembered is faithful. -/
structure BothFaithful (reg : Registry) (config : Config) (next : TypeId) (s t : State) :
    Prop where
  store : s.store = t.store
  left : Faithful reg config next s
  right : Faithful reg config next t

lemma steady_bothFaithful : Steady (BothFaithful reg config next) where
  store_eq := fun h => h.store
  change := fun h hst => ⟨rfl, (kept_faithful reg config next).change h.left hst,
    (kept_faithful reg config next).change h.right (h.store ▸ hst)⟩

/-- A question is asked in both states, and something is done with what is got. -/
lemma fetch_bothFaithful {α : Type} {Q : α → Prop} {f g : c.Item → Run α}
    (hf : Fetches reg config c key make)
    (hfresh : ∀ s, Faithful reg config next s →
      AsFresh Alike (answer (Run.fetch c key make s)) (make ()))
    (hfg : ∀ x y z, Alike x z → Alike y z →
      InStep (BothFaithful reg config next) Q (f x) (g y)) :
    InStep (BothFaithful reg config next) Q
      (Run.fetch c key make >>= fun held => f held.value)
      (Run.fetch c key make >>= fun held => g held.value) := by
  intro s t hst
  have hkept := kept_faithful reg config next
  have hafter : BothFaithful reg config next (after (Run.fetch c key make s))
      (after (Run.fetch c key make t)) := by
    refine ⟨?_, hkept.fetch hf hst.left, hkept.fetch hf hst.right⟩
    rw [(grown_fetch c key make s).store, (grown_fetch c key make t).store, hst.store]
  have hs := hfresh s hst.left
  have ht := hfresh t hst.right
  change Agree _ Q (EStateM.bind _ _ s) (EStateM.bind _ _ t)
  unfold EStateM.bind
  generalize Run.fetch c key make s = r at hs hafter
  generalize Run.fetch c key make t = r' at ht hafter
  generalize make () = fresh at hs ht
  cases r with
  | ok held s' =>
    cases hs with
    | ok hx =>
      cases r' with
      | ok held' t' => exact hfg _ _ _ hx ht.alike s' t' hafter
      | error e t' => cases ht
  | error e s' =>
    cases hs with
    | error =>
      cases r' with
      | ok held' t' => cases ht
      | error e t' =>
        cases ht
        exact .error hafter

/-- Without twins, whatever is done with members and their invokers goes in step. -/
lemma concord_bothFaithful (hv : reg.Valid next) (htwins : reg.NoTwins) (r : Bool) :
    Concord reg config r r (BothFaithful reg config next) where
  toSteady := steady_bothFaithful
  member := by
    intro n₁ n₂ type q hq s t hst
    have hkept := kept_faithful reg config next
    obtain ⟨s', hs', hsound, heq⟩ :=
      Binder.member_eq hst.left.lookups hq (config.remembering r) n₁ type
    obtain ⟨t', ht', hsound', heq'⟩ :=
      Binder.member_eq hst.right.lookups hq (config.remembering r) n₂ type
    rw [heq, heq']
    refine InStep.ofExcept (reg.find type q) s' t' ⟨?_, hkept.search hst.left hs' hsound,
      hkept.search hst.right ht' hsound'⟩
    rw [hs'.store, ht'.store, hst.store]
  serve := by
    intro sort type m hm α Q f g hfg
    have hdeclares : reg.Declares m := by
      obtain ⟨q, -, hfind⟩ := hm
      exact hv.declares_of_find hfind
    have hfresh : ∀ s, Faithful reg config next s → AsFresh Eq
        (answer (Run.fetch sort.category (sort.key (.ofMember type m))
          (fun _ => sort.compile reg type m) s)) (sort.compile reg type m) := fun s hs =>
      asFresh_of_map_eq (hs.invokers.answer_fetch sort type hv hdeclares (htwins.sole hdeclares)
        (Or.inl List.not_mem_nil))
    refine fetch_bothFaithful (.invoker sort hm) hfresh ?_
    rintro x y z rfl rfl
    exact hfg _

/-! ### Sessions -/

namespace Session

variable {gone : List TypeId} {s : Session}

lemma Reached.answers (h : Reached gone s) (hgone : gone = []) :
    AnswersSound s.registry s.config s.state.caches := by
  induction h with
  | start config =>
    intro c key held _ hk
    cases c <;> cases hk
  | @register gone s s' spec type h hspec hs ih =>
    obtain ⟨reg', st', hr, rfl⟩ := register_eq_ok hs
    obtain ⟨rfl, hnext, base, d, hreg⟩ := Registry.registered_of_register hr
    exact (ih hgone).registered h.sound.valid h.sound.closed hreg
  | unload => cases hgone
  | @request gone s h r ih =>
    subst hgone
    have hkept := kept_faithful s.registry s.config s.state.store.nextType
    rw [run_snd]
    exact (hkept.scripted ((hkept.accord _).perform r) ⟨h.sound.caches, ih rfl⟩).answers
  | outside _ _ _ ih => exact ih hgone

lemma Reached.faithful (h : Reached [] s) :
    Faithful s.registry s.config s.state.store.nextType s.state :=
  ⟨h.sound.caches, h.answers rfl⟩

/-- The operation ends as it would if nothing had been asked before: with the same result or fault,
and with the same store. -/
def RunsAsUnasked {α : Type} (s : Session) (operation : Binder → Run α) : Prop :=
  (s.run operation).1 = ((s.unasked s.state.store).run operation).1 ∧
    (s.run operation).2.state.store = ((s.unasked s.state.store).run operation).2.state.store

/-- Without twins, what goes in step in faithful states ends as if nothing had been asked before. -/
lemma Reached.runsAsUnasked {α : Type} {operation : Binder → Run α} (h : Reached [] s)
    (htwins : s.registry.NoTwins)
    (hop : Binder.InStep s.registry s.config s.config.remembersLookups s.config.remembersLookups
      (BothFaithful s.registry s.config s.state.store.nextType) operation) :
    s.RunsAsUnasked operation := by
  have hagree := (concord_bothFaithful h.sound.valid htwins _).scripted hop s.state
    { store := s.state.store } ⟨rfl, h.faithful, h.unasked.faithful⟩
  change Agree _ _ (operation s.binder s.state)
    (operation (s.unasked s.state.store).binder { store := s.state.store }) at hagree
  rw [RunsAsUnasked, run_fst, run_fst, run_snd, run_snd]
  change answer (operation s.binder s.state) =
      answer (operation (s.unasked s.state.store).binder { store := s.state.store }) ∧
    (after (operation s.binder s.state)).store =
      (after (operation (s.unasked s.state.store).binder { store := s.state.store })).store
  generalize operation s.binder s.state = r at hagree
  generalize operation (s.unasked s.state.store).binder { store := s.state.store } = r' at hagree
  cases hagree with
  | ok _ hst => exact ⟨rfl, hst.store⟩
  | error hst => exact ⟨rfl, hst.store⟩
  | parted h => exact h.elim

end Session

end LateBinding
