import LateBinding.Proofs.Invoker.Plain
import LateBinding.Proofs.Run.Lookups

/-!
# Runs that keep storage well typed

In a well-typed state the store is filled, and all invokers that are remembered are those of plain
members. A run is safe if it leads from a well-typed state to a well-typed one, whether it succeeds
or fails. New instances may have been made on the way, so what is said of the result refers to a
plan that goes on where the old one ends.
-/

namespace LateBinding

variable {α β : Type} {reg : Registry} {next : TypeId} {plan plan' : Plan}

/-- The store is filled, and what is remembered are members as they are found and invokers of plain
members. -/
structure State.WellTyped (reg : Registry) (next : TypeId) (plan : Plan) (s : State) : Prop where
  filled : s.store.Filled reg plan
  next : s.store.nextType = next
  lookups : LookupsSound reg s.caches
  invokers : ∀ (c : Category) (k : c.Key) (held : Stamped c.Item),
    (s.caches.memo c).get? k = some held → c.Plain reg held.value

/-- A run has ended in a well-typed state, and with a result as it should be if it has succeeded. -/
inductive EndsWell (reg : Registry) (next : TypeId) (plan : Plan) (Q : Plan → α → Prop) :
    EStateM.Result Fault State α → Prop where
  | ok {plan' : Plan} {a : α} {s : State} (hplan : plan <+: plan')
      (hs : s.WellTyped reg next plan') (hq : Q plan' a) : EndsWell reg next plan Q (.ok a s)
  | error {plan' : Plan} {e : Fault} {s : State} (hplan : plan <+: plan')
      (hs : s.WellTyped reg next plan') : EndsWell reg next plan Q (.error e s)

/-- From every well-typed state the run ends well. -/
def Run.Safe (reg : Registry) (next : TypeId) (plan : Plan) (Q : Plan → α → Prop) (x : Run α) :
    Prop :=
  ∀ s : State, s.WellTyped reg next plan → EndsWell reg next plan Q (x s)

namespace Run.Safe

variable {P Q : Plan → α → Prop} {x : Run α}

/-! ### Composition -/

lemma mono (h : x.Safe reg next plan P) (hpq : ∀ plan' a, P plan' a → Q plan' a) :
    x.Safe reg next plan Q := by
  intro s hs
  have hend := h s hs
  generalize x s = r at hend
  cases hend with
  | ok hplan hs hp => exact .ok hplan hs (hpq _ _ hp)
  | error hplan hs => exact .error hplan hs

lemma pure {a : α} (hq : Q plan a) : Safe reg next plan Q (Pure.pure a) :=
  fun _ hs => .ok (List.prefix_refl _) hs hq

lemma throw (e : Fault) : Safe reg next plan Q (MonadExcept.throw e : Run α) :=
  fun _ hs => .error (List.prefix_refl _) hs

lemma bind {f : α → Run β} {Q : Plan → β → Prop} (hx : x.Safe reg next plan P)
    (hf : ∀ plan' a, plan <+: plan' → P plan' a → (f a).Safe reg next plan' Q) :
    (x >>= f).Safe reg next plan Q := by
  intro s hs
  change EndsWell reg next plan Q (EStateM.bind x f s)
  unfold EStateM.bind
  have hend := hx s hs
  generalize x s = r at hend
  cases hend with
  | error hplan hs => exact .error hplan hs
  | @ok plan' a s' hplan hs hp =>
    have hend' := hf _ a hplan hp s' hs
    change EndsWell reg next plan Q (f a s')
    generalize f a s' = r' at hend'
    cases hend' with
    | ok hplan' hs' hq => exact .ok (hplan.trans hplan') hs' hq
    | error hplan' hs' => exact .error (hplan.trans hplan') hs'

lemma discard (hx : x.Safe reg next plan P) :
    (discard x).Safe reg next plan fun _ _ => True := by
  intro s hs
  change EndsWell reg next plan _ (EStateM.map _ x s)
  unfold EStateM.map
  have hend := hx s hs
  generalize x s = r at hend
  cases hend with
  | ok hplan hs _ => exact .ok hplan hs trivial
  | error hplan hs => exact .error hplan hs

lemma ofExcept (r : Except Fault α) : (Run.ofExcept r).Safe reg next plan fun _ a => r = .ok a := by
  cases r with
  | ok a => exact pure rfl
  | error e => exact throw e

/-- What follows a question for the whole state may use that it is well typed. -/
lemma get_bind {f : State → Run α}
    (h : ∀ s : State, s.WellTyped reg next plan → (f s).Safe reg next plan Q) :
    (get >>= f).Safe reg next plan Q :=
  fun s hs => h s hs s hs

/-! ### The store -/

lemma ask {question : Store → Except Fault α}
    (h : ∀ {st a}, st.Filled reg plan → question st = .ok a → Q plan a) :
    (Run.ask question).Safe reg next plan Q := by
  intro s hs
  rw [Run.ask]
  cases hq : question s.store with
  | ok a => exact .ok (List.prefix_refl _) hs (h hs.filled hq)
  | error e => exact .error (List.prefix_refl _) hs

lemma change {update : Store → Except Fault Store}
    (hnext : ∀ {st st'}, update st = .ok st' → st'.nextType = st.nextType)
    (h : ∀ {st st'}, st.Filled reg plan → update st = .ok st' → st'.Filled reg plan) :
    (Run.change update).Safe reg next plan fun _ _ => True := by
  intro s hs
  rw [Run.change]
  cases hu : update s.store with
  | ok st =>
    exact .ok (List.prefix_refl _)
      ⟨h hs.filled hu, (hnext hu).trans hs.next, hs.lookups, hs.invokers⟩ trivial
  | error e => exact .error (List.prefix_refl _) hs

lemma step {step : Store → α × Store} (hnext : ∀ st, (step st).2.nextType = st.nextType)
    (h : ∀ {st}, st.Filled reg plan →
      ∃ plan', plan <+: plan' ∧ (step st).2.Filled reg plan' ∧ Q plan' (step st).1) :
    (Run.step step).Safe reg next plan Q := by
  intro s hs
  obtain ⟨plan', hplan, hfilled, hq⟩ := h hs.filled
  exact .ok hplan ⟨hfilled, (hnext _).trans hs.next, hs.lookups, hs.invokers⟩ hq

end Run.Safe

/-! ### Questions to the caches -/

lemma Binder.member_safe {q : Query} (hq : q.signature.OfRequest) (config : Config)
    (native : Native) (type : TypeId) :
    ((Binder.of reg config native).member type q).Safe reg next plan
      fun _ m => reg.find type q = .ok m := by
  intro s hs
  obtain ⟨s', hs', hsound, heq⟩ := Binder.member_eq hs.lookups hq config native type
  rw [heq]
  refine Run.Safe.ofExcept _ s' ⟨hs'.store ▸ hs.filled, hs'.store ▸ hs.next, hsound, ?_⟩
  intro c k held hk
  by_cases hc : c = .lookups
  · subst hc
    trivial
  · rw [hs'.memo hc] at hk
    exact hs.invokers c k held hk

/-- An invoker that is asked for is one of plain members, whether it has been remembered or is made
now. -/
lemma Run.fetch_safe {st : Store} (hv : reg.Settled st) (hall : reg.AllPlain) {config : Config}
    {c : Category} {key : c.Key} {make : Unit → Except Fault c.Item}
    (h : Fetches reg config c key make) :
    (Run.fetch c key make).Safe reg next plan fun _ held => c.Plain reg held.value := by
  intro s hs
  have hgrown := Run.grown_fetch c key make s
  have hwell : (Run.after (Run.fetch c key make s)).WellTyped reg next plan := by
    refine ⟨hgrown.store ▸ hs.filled, hgrown.store ▸ hs.next,
      hs.lookups.congr (hgrown.memo h.ne_lookups.symm), fun c' k held hk => ?_⟩
    by_cases hc : c' = c
    -- beside what was remembered there is at most what has been made now
    · subst hc
      rcases hgrown.new hk with hold | ⟨-, hmade⟩
      · exact hs.invokers _ k held hold
      · exact h.plain hv hall hmade
    · rw [hgrown.memo hc] at hk
      exact hs.invokers c' k held hk
  obtain ⟨r, hr, heq⟩ := Run.fetch_cases c key make s
  rw [heq] at hwell ⊢
  cases hr with
  | hit hold _ => exact .ok (List.prefix_refl _) hwell (hs.invokers c key _ hold)
  | stored _ hmade _ _ => exact .ok (List.prefix_refl _) hwell (h.plain hv hall hmade)
  | failed _ _ _ => exact .error (List.prefix_refl _) hwell

end LateBinding
