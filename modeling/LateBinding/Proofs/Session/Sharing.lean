import LateBinding.Proofs.Run.Beside
import LateBinding.Proofs.Session.Parties

/-!
# Parties that share their caches

Several parties with a registry each may share their caches, or each may have its own. A party can
tell the difference exactly if it remembers lookups and another one that does has looked up what it
asks for: a lookup is remembered under the identifier of the type, and what is remembered is given
before the registry is asked whether it knows the type. All other invokers are asked for only after
their members have been found in the party's own registry.

Main statement: `Parties.sharing_unseen`.
-/

namespace LateBinding

open Run Registry

/-- The outcome without all that counts what is in the caches. -/
def Outcome.uncounted : Outcome → Outcome
  | answered r => answered (r.map Answer.unstamped)
  | o => o.withoutCount

/-- The session with other caches. -/
def Session.withCaches (s : Session) (cs : Caches) : Session :=
  { s with state := { s.state with caches := cs } }

namespace Parties

variable {ι : Type}

/-- At most one party remembers lookups. -/
def OneRemembers (configs : ι → Config) : Prop :=
  ∀ i j, (configs i).remembersLookups = true → (configs j).remembersLookups = true → i = j

/-- Another party that remembers lookups owns the type. -/
def Lent (w : Parties ι) (i : ι) (t : TypeId) : Prop :=
  ∃ j, j ≠ i ∧ (w j).registry.Owns t ∧ (w j).config.remembersLookups = true

/-- A party that remembers lookups is told that it does not know a type, and another one that
remembers lookups owns it. -/
def Trespasses (w : Parties ι) (i : ι) (o : Outcome) : Prop :=
  (w i).config.remembersLookups = true ∧
    ∃ t, o = .answered (.error (.unknownType t)) ∧ w.Lent i t

/-- The parties as they are with other caches, which are shared. -/
def sharing (w : Parties ι) (cs : Caches) : Parties ι := fun i => (w i).withCaches cs

/-- The caches hold the same as those of the parties about all that the parties own, and nothing
about members of anybody else. -/
structure Matched (w : Parties ι) (cs : Caches) : Prop extends Separate w where
  own : ∀ i, (w i).state.caches.Own (w i).registry (w i).config (w.Free i)
  same : ∀ {i} {x : Topic}, x.common? = none → (w i).registry.Owns x.type →
    cs.about x = (w i).state.caches.about x
  common : ∀ {x : Topic} {a b}, x.common? = some a → cs.about x = some b → b = a
  owned : ∀ {x : Topic} {a}, x.common? = none → cs.about x = some a →
    ∃ i, (w i).registry.Owns x.type

lemma matched_start (configs : ι → Config) : Matched (start configs) {} where
  toSeparate := separate_start configs
  own := by
    intro i x a ha
    obtain ⟨c, k⟩ := x
    cases c <;> cases ha
  same := fun _ howns => absurd howns not_owns_initial
  common := by
    intro x a b _ hb
    obtain ⟨c, k⟩ := x
    cases c <;> cases hb
  owned := by
    intro x a _ ha
    obtain ⟨c, k⟩ := x
    cases c <;> cases ha

variable {w : Parties ι} {i j : ι} {s : Session} {cs cs' : Caches} {t : TypeId}

/-- Only one of two parties that remember lookups can trespass. -/
lemma OneRemembers.not_trespasses (h : OneRemembers fun j => (w j).config) (i : ι) (o : Outcome) :
    ¬ w.Trespasses i o := by
  rintro ⟨hi, t, -, j, hj, -, hremembers⟩
  exact hj (h j i hremembers hi)

/-- Nothing is remembered about what nobody owns. -/
lemma Matched.about_of_not_owns (h : Matched w cs) {x : Topic} (hx : x.common? = none)
    (hnone : ∀ j, ¬ (w j).registry.Owns x.type) : cs.about x = none := by
  cases hy : cs.about x with
  | none => rfl
  | some a =>
    obtain ⟨j, hj⟩ := h.owned hx hy
    exact absurd hj (hnone j)

/-! ### Requests -/

namespace Matched

variable (h : Matched w cs)
include h

/-- When a request begins, the shared caches are beside the own ones. -/
lemma beside (i : ι) : Beside (w i).registry (w i).config (w.Free i) cs
    ((w i).withCaches cs).state (w i).state where
  store := rfl
  own := h.own i
  lookups := by
    intro k m hm
    obtain ⟨gone, hi⟩ := h.sound i
    obtain ⟨held, hheld, rfl⟩ := Option.map_eq_some_iff.mp hm
    exact (hi.caches.lookups k held hheld).2
  common := h.common
  same := h.same
  others := fun _ _ => rfl

/-- The requests of one party are in harmony with the caches that it shares. -/
lemma harmony (i : ι) : Harmony (w i).registry (w i).config (w i).config.remembersLookups
    (w i).config.remembersLookups
    (bondBeside (w i).registry (w i).config (w.Free i) (w.Lent i) cs) := by
  refine harmony_beside (h.valid i) (fun _ => h.free_of_mentions) ?_ ?_
  · rintro t ⟨j, hj, howns, -⟩
    exact h.get?_of_owns howns hj
  · intro k m hm hnot
    obtain ⟨j, hj⟩ := h.owned rfl hm
    have hji : j ≠ i := by
      rintro rfl
      exact hnot hj
    refine ⟨j, hji, hj, ?_⟩
    rw [h.same rfl hj] at hm
    exact (h.own j _ m hm).remembers rfl

/-- A request ends alike with shared caches and with own ones, or it trespasses. -/
lemma perform (i : ι) (r : Request) :
    w.Trespasses i ((w i).step (.request r)).1 ∨
      (((w i).withCaches cs).step (.request r)).1.uncounted =
          ((w i).step (.request r)).1.uncounted ∧
        Beside (w i).registry (w i).config (w.Free i) cs
          (((w i).withCaches cs).step (.request r)).2.state ((w i).step (.request r)).2.state := by
  have hend : Agree _ _ ((Answer.unstamped <$> r.perform (w i).binder) ((w i).withCaches cs).state)
      ((Answer.unstamped <$> r.perform (w i).binder) (w i).state) :=
    (h.harmony i).toConcord.scripted ((h.harmony i).perform_unstamped r) _ _ (h.beside i)
  have hend := hend.parts_or
  rw [answer_map, answer_map, after_map, after_map] at hend
  rw [Session.step_request, Session.step_request]
  rcases hend with ⟨e, he, hremembers, t, rfl, hlent⟩ | ⟨hanswer, hend⟩
  · exact Or.inl ⟨hremembers, t, congrArg Outcome.answered (eq_error_of_map_eq_error he), hlent⟩
  · exact Or.inr ⟨congrArg Outcome.answered hanswer, hend⟩

/-- With shared caches, too, a request that has to find a member through a type of another party
fails, if at most one party remembers lookups. -/
lemma perform_fails_sharing (hone : OneRemembers fun j => (w j).config)
    (howns : (w j).registry.Owns t) (hj : j ≠ i) {r : Request}
    (hr : Session.ResolvesThrough (w i).registry t r) :
    ((w.sharing cs i).run fun b => r.perform b).1 = .error (.unknownType t) := by
  have hown := h.perform_fails howns hj hr
  have hseen := ((h.perform i r).resolve_left (hone.not_trespasses i _)).1
  change (Outcome.answered ((w.sharing cs i).run fun b => r.perform b).1).uncounted =
    (Outcome.answered ((w i).run fun b => r.perform b).1).uncounted at hseen
  rw [hown] at hseen
  exact eq_error_of_map_eq_error (Outcome.answered.inj hseen)

end Matched

/-! ### One step -/

variable [DecidableEq ι]

/-- What one party does to the shared caches is the same as what it does to its own ones, and none
of the others' business. -/
structure Keeps (w : Parties ι) (cs : Caches) (i : ι) (s : Session) (cs' : Caches) : Prop where
  own : s.state.caches.Own s.registry s.config ((w.moved false i s).Free i)
  same : ∀ {x : Topic}, x.common? = none → s.registry.Owns x.type →
    cs'.about x = s.state.caches.about x
  others : ∀ {j} {x : Topic}, j ≠ i → x.common? = none → (w j).registry.Owns x.type →
    cs'.about x = cs.about x
  common : ∀ {x : Topic} {a b}, x.common? = some a → cs'.about x = some b → b = a
  owned : ∀ {x : Topic} {a}, x.common? = none → cs'.about x = some a →
    s.registry.Owns x.type ∨ ∃ j, j ≠ i ∧ (w j).registry.Owns x.type

/-- With shared caches the step is seen as it is with own ones, and does the same. -/
def Agrees (w : Parties ι) (cs : Caches) (i : ι) (x : Step) : Prop :=
  (((w i).withCaches cs).step x).1.uncounted = ((w i).step x).1.uncounted ∧
    ∃ cs', (((w i).withCaches cs).step x).2 = ((w i).step x).2.withCaches cs' ∧
      w.Keeps cs i ((w i).step x).2 cs'

namespace Matched

variable (h : Matched w cs)
include h

lemma moved (ha : w.Advances i s) (hk : w.Keeps cs i s cs') :
    Matched (w.moved false i s) cs' where
  toSeparate := h.toSeparate.moved ha
  own := by
    intro j
    by_cases hj : j = i
    · -- the caches of the party that has taken the step
      subst hj
      rw [moved_self]
      exact hk.own
    · -- what another party remembers stays free of this one
      rw [moved_of_ne hj]
      intro x a hx
      exact (h.own j x a hx).mono (fun _ => id) fun _ ht => ht.moved_of_ne h.toSeparate ha hj
  same := by
    intro j x hx howns
    by_cases hj : j = i
    · subst hj
      rw [moved_self] at howns ⊢
      exact hk.same hx howns
    · rw [moved_of_ne hj] at howns ⊢
      exact (hk.others hj hx howns).trans (h.same hx howns)
  common := hk.common
  owned := by
    intro x a hx hy
    rcases hk.owned hx hy with howns | ⟨j, hj, howns⟩
    · exact ⟨i, by rwa [moved_self]⟩
    · exact ⟨j, by rwa [moved_of_ne hj]⟩

/-- What is remembered belongs to the party or to another one. -/
lemma owned_or (i : ι) {x : Topic} {a : x.1.Item} (hx : x.common? = none)
    (ha : cs.about x = some a) :
    (w i).registry.Owns x.type ∨ ∃ j, j ≠ i ∧ (w j).registry.Owns x.type := by
  obtain ⟨j, hj⟩ := h.owned hx ha
  by_cases hji : j = i
  · exact Or.inl (hji ▸ hj)
  · exact Or.inr ⟨j, hji, hj⟩

/-- The caches stay as they are, and the party owns all that it has owned. -/
lemma keeps_of_owns (ha : w.Advances i s) (hcaches : s.state.caches = (w i).state.caches)
    (hconfig : s.config = (w i).config)
    (howns : ∀ t, (w i).registry.Owns t → s.registry.Owns t) : w.Keeps cs i s cs where
  own := by
    intro x a hx
    rw [hcaches] at hx
    rw [hconfig]
    exact (h.own i x a hx).mono howns fun _ ht => ht.moved_self ha
  same := by
    intro x hx hown
    rw [hcaches]
    rcases ha.owns hown with hown | hle
    · exact h.same hx hown
    · -- a type that is new is one that nothing can be remembered about
      have hnew : ∀ {j}, ¬ (w j).registry.Owns x.type := h.not_owns_of_le hle
      rw [h.about_of_not_owns hx fun _ => hnew]
      cases hx' : (w i).state.caches.about x with
      | none => rfl
      | some a => exact absurd ((h.own i x a hx').owns hx) hnew
  others := fun _ _ _ => rfl
  common := h.common
  owned := fun hx hy => (h.owned_or i hx hy).imp (howns _) id

lemma agrees_register {spec : TypeSpec} (hspec : w.Admits i (.register spec)) :
    w.Agrees cs i (.register spec) := by
  have ha := h.advances hspec
  rw [Agrees]
  cases hr : (w i).registry.register (w i).state.store spec with
  | error e =>
    rw [Session.step_register_of_error hr] at ha ⊢
    rw [Session.step_register_of_error (s := (w i).withCaches cs) hr]
    exact ⟨rfl, cs, rfl, h.keeps_of_owns ha rfl rfl fun _ => id⟩
  | ok r =>
    obtain ⟨type, reg', store⟩ := r
    rw [Session.step_register_of_ok hr] at ha ⊢
    rw [Session.step_register_of_ok (s := (w i).withCaches cs) hr]
    obtain ⟨rfl, -, base, d, hreg⟩ := registered_of_register hr
    exact ⟨rfl, cs, rfl, h.keeps_of_owns ha rfl rfl fun _ => hreg.owns (h.valid i)⟩

/-- A purge takes away the same from the shared caches as from the own ones, and nothing that is
another party's. -/
lemma keeps_purge {type : TypeId} {reg' : Registry} (hr : (w i).registry.unload type = some reg') :
    w.Keeps cs i ({ w i with registry := reg' }.purge (reg'.descendants type ++ [type])).2
      (cs.purge (reg'.descendants type ++ [type])).2 := by
  have hu := unloaded_of_unload hr
  have ha := h.advances_unload i type
  rw [Session.step_unload_of_some hr] at ha
  -- only types of the party are swept, as no other party derives from them
  have hdoomed : ∀ u ∈ reg'.descendants type ++ [type], (w i).registry.Owns u := by
    intro u hmem
    rcases List.mem_append.mp hmem with hmem | hmem
    · have htidy := (h.tidy i).unload hr
      exact (hu.owns_before (htidy.owns_of_mem_descendants (hu.valid (h.valid i)) hu.user hmem)).2
    · cases List.mem_singleton.mp hmem
      exact ⟨hu.user, hu.known⟩
  -- nothing is left about the unloaded type itself
  have hkept : ∀ {cs : Caches} {x : Topic} {a},
      (cs.purge (reg'.descendants type ++ [type])).2.about x = some a →
        cs.about x = some a ∧ x.type ≠ type := by
    intro cs x a hx
    obtain ⟨hx, hnot⟩ := Caches.about_of_about_purge hx
    exact ⟨hx, fun heq => hnot (heq ▸ List.mem_append_right _ List.mem_cons_self)⟩
  constructor
  case own =>
    intro x a hx
    obtain ⟨hx, hne⟩ := hkept hx
    obtain ⟨hcommon, howns, hinvolves, hremembers⟩ := h.own i x a hx
    exact ⟨hcommon, fun hx => hu.owns (howns hx) hne,
      fun hx t ht => (hinvolves hx t ht).moved_self ha, hremembers⟩
  case same =>
    intro x hx hown
    change _ = ((w i).state.caches.purge (reg'.descendants type ++ [type])).2.about x
    rw [Caches.about_purge, Caches.about_purge, h.same hx (hu.owns_before hown).2]
  case others =>
    intro j x hj hx howns
    rw [Caches.about_purge]
    split
    · -- what another party remembers involves no type of this one
      rename_i hany
      obtain ⟨u, hmem, hinvolves⟩ := List.any_eq_true.mp hany
      cases hx' : cs.about x with
      | none => rfl
      | some a =>
        rw [h.same hx howns] at hx'
        exact absurd (hdoomed u hmem) (((h.own j x a hx').involves hx u hinvolves).2 i hj.symm)
    · rfl
  case common => exact fun hx hb => h.common hx (hkept hb).1
  case owned =>
    intro x a hx hy
    obtain ⟨hy, hne⟩ := hkept hy
    exact (h.owned_or i hx hy).imp (fun hown => hu.owns hown hne) id

lemma agrees_unload (i : ι) (type : TypeId) : w.Agrees cs i (.unload type) := by
  rw [Agrees]
  cases hr : (w i).registry.unload type with
  | none =>
    rw [Session.step_unload_of_none hr, Session.step_unload_of_none (s := (w i).withCaches cs) hr]
    exact ⟨rfl, cs, rfl, h.keeps_of_owns (h.advances_same i) rfl rfl fun _ => id⟩
  | some reg' =>
    rw [Session.step_unload_of_some hr, Session.step_unload_of_some (s := (w i).withCaches cs) hr]
    exact ⟨rfl, _, rfl, h.keeps_purge hr⟩

lemma agrees_request (i : ι) (r : Request) :
    w.Trespasses i ((w i).step (.request r)).1 ∨ w.Agrees cs i (.request r) := by
  have ha := h.advances_request i r
  refine (h.perform i r).imp id fun ⟨hseen, hend⟩ => ⟨hseen, ?_⟩
  rw [Session.step_request] at hend ha ⊢
  rw [Session.step_request] at hend ⊢
  refine ⟨_, congrArg (fun store => ({ w i with state := { store, caches := _ } } : Session))
    hend.store, ?_⟩
  constructor
  case own => exact fun x a hx => (hend.own x a hx).mono (fun _ => id) fun _ ht => ht.moved_self ha
  case same => exact hend.same
  case others =>
    intro j x hj hx howns
    exact hend.others hx fun hown => hj (h.apart (Or.inl howns) hown)
  case common => exact hend.common
  case owned =>
    intro x a hx hy
    by_cases hown : (w i).registry.Owns x.type
    · exact Or.inl hown
    · -- what is not about the own types was there before
      exact h.owned_or i hx ((hend.others hx hown).symm.trans hy)

/-- Whatever a party does, it sees the same with shared caches, unless it trespasses. -/
lemma agrees {x : Step} (hx : w.Admits i x) (hnot : ¬ w.Trespasses i ((w i).step x).1) :
    w.Agrees cs i x := by
  cases x with
  | register spec => exact h.agrees_register hx
  | unload type => exact h.agrees_unload i type
  | request r => exact (h.agrees_request i r).resolve_left hnot
  | outside change hchange =>
    exact ⟨rfl, cs, rfl, h.keeps_of_owns (h.advances_outside i change hchange) rfl rfl fun _ => id⟩

end Matched

/-! ### All steps -/

/-- With caches of their own, no party trespasses when these steps are taken. -/
def Discreet (w : Parties ι) : List (ι × Step) → Prop
  | [] => True
  | (i, x) :: xs => ¬ w.Trespasses i ((w i).step x).1 ∧ Discreet (w.step false i x).2 xs

lemma OneRemembers.discreet (h : OneRemembers fun j => (w j).config) (xs : List (ι × Step)) :
    w.Discreet xs := by
  induction xs generalizing w with
  | nil => trivial
  | cons x xs ih =>
    refine ⟨h.not_trespasses x.1 _, ih ?_⟩
    simpa only [config_step] using h

lemma Agrees.step_sharing {x : Step} (h : w.Agrees cs i x) :
    ((w.sharing cs).step true i x).1.uncounted = (w.step false i x).1.uncounted ∧
      ∃ cs', ((w.sharing cs).step true i x).2 = (w.step false i x).2.sharing cs' ∧
        w.Keeps cs i ((w i).step x).2 cs' := by
  obtain ⟨hseen, cs', hs, hkeeps⟩ := h
  refine ⟨hseen, cs', ?_, hkeeps⟩
  change (w.sharing cs).moved true i (((w i).withCaches cs).step x).2 = _
  -- all parties get the caches that the one has left
  funext j
  rw [hs]
  by_cases hj : j = i
  · subst hj
    simp only [step, sharing, moved_self]
  · simp only [step, sharing, moved, if_neg hj, if_true, Bool.false_eq_true, if_false]
    rfl

/-- As long as no party trespasses, all see the same with shared caches as with own ones. -/
lemma Matched.follow (h : Matched w cs) {xs : List (ι × Step)} (horderly : w.Orderly xs)
    (hdiscreet : w.Discreet xs) :
    ((w.sharing cs).follow true xs).1.map Outcome.uncounted =
        (w.follow false xs).1.map Outcome.uncounted ∧
      ∃ cs', ((w.sharing cs).follow true xs).2 = (w.follow false xs).2.sharing cs' ∧
        Matched (w.follow false xs).2 cs' := by
  induction xs generalizing w cs with
  | nil => exact ⟨rfl, cs, rfl, h⟩
  | cons x xs ih =>
    obtain ⟨i, x⟩ := x
    obtain ⟨hx, hxs⟩ := horderly
    obtain ⟨hnot, hdiscreet⟩ := hdiscreet
    obtain ⟨hseen, cs₁, hw, hkeeps⟩ := (h.agrees hx hnot).step_sharing
    obtain ⟨hrest, cs₂, hend⟩ := ih (h.moved (h.advances hx) hkeeps) hxs hdiscreet
    simp only [Parties.follow, hw]
    exact ⟨List.cons_eq_cons.mpr ⟨hseen, hrest⟩, cs₂, hend⟩

/-- When these steps are taken, the same is seen with shared caches as with own ones. -/
def SeenAlike (configs : ι → Config) (xs : List (ι × Step)) : Prop :=
  ((start configs).follow true xs).1.map Outcome.uncounted =
    ((start configs).follow false xs).1.map Outcome.uncounted

/-! ### A ghost -/

/-- A type with a field. -/
def ghostSpec : TypeSpec :=
  { name := "Ghost", members := [.field { name := "x", type := TypeId.int }] }

/-- Asks for the field of the ghost. -/
def ghostRequest : Request := .resolve ⟨64⟩ (.single .field) "x" .instanceAny none

/-- One party registers the ghost and asks for its field, and then another one does. -/
def ghostSteps (i j : ι) : List (ι × Step) :=
  [(i, .register ghostSpec), (i, .request ghostRequest), (j, .request ghostRequest)]

lemma orderly_ghostSteps (configs : ι → Config) (i j : ι) :
    (start configs).Orderly (ghostSteps i j) := by
  refine ⟨⟨?_, fun m hm t ht k hk howns => ?_⟩, trivial, trivial, trivial⟩
  · change ghostSpec.Allocated TypeId.firstUser
    decide
  · cases List.mem_singleton.mp hm
    cases List.mem_singleton.mp ht
    cases howns.1

/-- The session of the first party in the end. -/
def ghostSession (config : Config) : Session :=
  let s := (({ config } : Session).step (.register ghostSpec)).2
  (s.step (.request ghostRequest)).2

/-- What the second party is told. -/
lemma follow_ghostSteps (configs : ι → Config) (shared : Bool) (i j : ι) :
    ((start configs).follow shared (ghostSteps i j)).1[2]? =
      some (((start configs).moved shared i (ghostSession (configs i)) j).step
        (.request ghostRequest)).1 := by
  simp only [follow, ghostSteps, step, moved_self, moved_moved, List.getElem?_cons_succ,
    List.getElem?_cons_zero]
  rfl

/-- If both of two parties remember lookups, the second one is told that it does not know the type
if and only if the caches are not shared. -/
lemma not_seenAlike_ghostSteps {configs : ι → Config} (hj : j ≠ i)
    (hi : (configs i).remembersLookups = true) (hremembers : (configs j).remembersLookups = true) :
    ¬ SeenAlike configs (ghostSteps i j) := by
  intro h
  have hthird := congrArg (·[2]?) h
  simp only [List.getElem?_map, follow_ghostSteps] at hthird
  simp only [moved, if_neg hj, start] at hthird
  -- now both runs compute: one ends with the member, the other one with a fault
  generalize configs i = c at hthird hi
  generalize configs j = c' at hthird hremembers
  obtain ⟨a, b, r⟩ := c
  obtain ⟨a', b', r'⟩ := c'
  subst hi hremembers
  cases hthird

/-- With shared caches the parties see the same as with caches of their own as long as none of them
trespasses, and whatever they do exactly if at most one of them remembers lookups. In this case, and
always with caches of their own, a request fails if it has to find a member through a type that
belongs to another party. -/
theorem sharing_unseen (configs : ι → Config) :
    (∀ xs, (start configs).Orderly xs → (start configs).Discreet xs → SeenAlike configs xs) ∧
    ((∀ xs, (start configs).Orderly xs → SeenAlike configs xs) ↔ OneRemembers configs) ∧
    ∀ shared, (shared = true → OneRemembers configs) → ∀ xs, (start configs).Orderly xs →
      let w := ((start configs).follow shared xs).2
      ∀ i j t r, j ≠ i → (w j).registry.Owns t → Session.ResolvesThrough (w i).registry t r →
        ((w i).run fun b => r.perform b).1 = .error (.unknownType t) := by
  refine ⟨fun xs horderly hdiscreet => ((matched_start configs).follow horderly hdiscreet).1,
    ⟨fun h i j hi hj => ?_, fun h xs horderly => ?_⟩, ?_⟩
  · -- two parties that remember lookups see a ghost
    by_contra hne
    exact not_seenAlike_ghostSteps (Ne.symm hne) hi hj (h _ (orderly_ghostSteps configs i j))
  · -- one that is alone in remembering them has nobody to borrow from
    exact ((matched_start configs).follow horderly (OneRemembers.discreet h xs)).1
  · -- what the party asks for is answered as with caches of its own
    intro shared hshared xs horderly
    cases shared with
    | false =>
      intro w i j t r hj howns hr
      exact ((separate_start configs).follow horderly).perform_fails howns hj hr
    | true =>
      have hone := hshared rfl
      obtain ⟨-, cs, hw, hmatched⟩ :=
        (matched_start configs).follow horderly (OneRemembers.discreet hone xs)
      intro w i j t r hj howns hr
      have hwcs : w = ((start configs).follow false xs).2.sharing cs := hw
      rw [hwcs] at howns hr ⊢
      refine hmatched.perform_fails_sharing ?_ howns hj hr
      simpa only [config_follow, start] using hone

/-- Two parties, of which the first one remembers lookups. -/
def ghostConfigs (first : Bool) : Config := { remembersLookups := first }

/-- Nobody can tell whether the two share their caches: the second one does not know the ghost. -/
theorem sharing_unseen_ghostConfigs :
    OneRemembers ghostConfigs ∧ SeenAlike ghostConfigs (ghostSteps true false) ∧
      let w := ((start ghostConfigs).follow true (ghostSteps true false)).2
      (w true).registry.Owns ⟨64⟩ ∧
        ((w false).run fun b => ghostRequest.perform b).1 = .error (.unknownType ⟨64⟩) := by
  have hone : OneRemembers ghostConfigs := fun _ _ hi hj => Eq.trans hi (Eq.symm hj)
  have horderly := orderly_ghostSteps ghostConfigs true false
  refine ⟨hone, (sharing_unseen ghostConfigs).2.1.mpr hone _ horderly, ⟨rfl, _, rfl⟩, ?_⟩
  exact (sharing_unseen ghostConfigs).2.2 true (fun _ => hone) _ horderly false true _ _ nofun
    ⟨rfl, _, rfl⟩ (.resolve _ _ _ none)

/-- Writes nothing to the ghost. -/
def ghostBatch : Request := .setAll (.type ⟨64⟩) [] none

/-- The field of the ghost. -/
def ghostField : Member :=
  { name := "x", declaring := ⟨64⟩, isStatic := false, visibility := .declaring, params := [],
    valueType := TypeId.int, isSynthesized := false, body := .field 0 false }

/-- If two parties remember lookups and share their caches, the second one is told of the field of
the ghost, which it does not know, and otherwise that it does not know the ghost. A batch without
names does not even ask whether the type is known. Its setter is counted when the ghost is unloaded,
if the caches are shared. -/
theorem sharing_seen_ghostSteps :
    let configs : Bool → Config := fun _ => {}
    let batch := [(true, .register ghostSpec), (false, .request ghostBatch), (true, .unload ⟨64⟩)]
    ¬ SeenAlike configs (ghostSteps true false) ∧
      ((start configs).follow true (ghostSteps true false)).1[2]? =
        some (.answered (.ok (.member ghostField))) ∧
      ((start configs).follow false (ghostSteps true false)).1[2]? =
        some (.answered (.error (.unknownType ⟨64⟩))) ∧
      ((start configs).follow false batch).1[1]? = some (.answered (.ok .done)) ∧
      ((start configs).follow true batch).1[2]? = some (.unloaded (.ok 1)) ∧
      ((start configs).follow false batch).1[2]? = some (.unloaded (.ok 0)) :=
  ⟨not_seenAlike_ghostSteps nofun rfl rfl, rfl, rfl, rfl, rfl, rfl⟩

end Parties

end LateBinding
