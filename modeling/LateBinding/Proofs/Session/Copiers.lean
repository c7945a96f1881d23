import LateBinding.Proofs.Invoker.Keys
import LateBinding.Proofs.Session.Answering

/-!
# Copying between instances

A copier is remembered under a key that shows for every pair of members the types that declare them,
their kinds and their names, and not their scopes. As long as nothing is unloaded, everybody gets a
copier of the pairs that the own options select exactly if copiers that share a key do the same; and
then a request to copy ends as if nothing had been asked before. Without twins a key stands for one
list of pairs among those that go through the same scopes.

Main statement: `servesCopies_iff_copyKeysTell`.
-/

namespace LateBinding

open Run

variable {reg : Registry} {config : Config} {next source target : TypeId} {o o' : CopyOptions}
  {pairs pairs' : List (Member × Member)} {x : Copier}

/-- Two copiers do the same from every source to every target, whatever native bodies do. -/
def Copier.Alike (reg : Registry) (x y : Copier) : Prop :=
  ∀ native source target,
    x.run ⟨reg, native⟩ source target = y.run ⟨reg, native⟩ source target

namespace Registry

/-- Of two lists of pairs that some options select and that share a key, the copiers do the same. -/
def CopyKeysTell (reg : Registry) : Prop :=
  ∀ ⦃source target o o' pairs pairs' x⦄, reg.copyPairs source target o = .ok pairs →
    reg.copyPairs source target o' = .ok pairs' →
    CopyKey.ofPairs source target o pairs = .ofPairs source target o' pairs' →
    Copier.ofPairs reg source target pairs = .ok x →
    ∃ y, Copier.ofPairs reg source target pairs' = .ok y ∧ x.Alike reg y

/-- Lists of pairs that some options select share a key only if they are the same or go through
different scopes. -/
def OnlyScopesMissing (reg : Registry) : Prop :=
  ∀ ⦃source target o o' pairs pairs'⦄, reg.copyPairs source target o = .ok pairs →
    reg.copyPairs source target o' = .ok pairs' →
    CopyKey.ofPairs source target o pairs = .ofPairs source target o' pairs' →
    pairs.map scopes = pairs'.map scopes → pairs = pairs'

lemma PlainKinds.copyKeysTell (h : reg.PlainKinds) (hv : reg.Valid next) : reg.CopyKeysTell := by
  intro source target o o' pairs pairs' x hpairs hpairs' hkey hx
  obtain rfl := h.eq_of_key hv hpairs hpairs' hkey
  exact ⟨x, hx, fun _ _ _ => rfl⟩

/-- What is remembered for selected pairs does what a fresh copier does. -/
lemma CopyKeysTell.asFresh_fetch (h : reg.CopyKeysTell)
    (hpairs : reg.copyPairs source target o = .ok pairs) {s : State}
    (hs : AnswersSound reg config s.caches) :
    AsFresh (Copier.Alike reg)
      (answer (Run.fetch .copiers (.ofPairs source target o pairs)
        (fun _ => Copier.ofPairs reg source target pairs) s))
      (Copier.ofPairs reg source target pairs) := by
  refine hs.asFresh_fetch (.copier hpairs) (fun _ _ _ _ => rfl) fun make' x hmake' hx => ?_
  obtain ⟨source', target', o', pairs', hpairs', hkey, hmade⟩ := hmake'.cases_of_category
  obtain rfl : source = source' := congrArg CopyKey.source hkey
  obtain rfl : target = target' := congrArg CopyKey.target hkey
  exact h hpairs' hpairs hkey.symm (hmade ▸ hx)

/-- A request to copy goes in step in faithful states, if natives do. -/
lemma CopyKeysTell.copy_inStep (h : reg.CopyKeysTell) (r : Bool) (source target : Value)
    (o : CopyOptions) : Binder.InStep reg config r r (BothFaithful reg config next)
      fun b => b.copy source target o := by
  intro n₁ n₂ hn
  apply (InStep.ofExcept _).bind
  intro sourceType _
  apply (InStep.ofExcept _).bind
  intro targetType _
  rw [Binder.copier, Binder.copier, bind_assoc, bind_assoc]
  apply (InStep.ofExcept _).bind
  intro pairs hpairs
  have hrun : ∀ x y z : Copier, x.Alike reg z → y.Alike reg z →
      InStep (BothFaithful reg config next) (fun _ => True)
        (x.run ⟨reg, n₁⟩ source target) (y.run ⟨reg, n₂⟩ source target) := by
    intro x y z hx hy
    rw [hx n₁, hy n₂]
    exact z.run_inStep (steady_bothFaithful.contexts _ hn) (fun _ _ => trivial) _ _
  exact fetch_bothFaithful (.copier hpairs) (fun s hs => h.asFresh_fetch hpairs hs.answers) hrun

end Registry

namespace Session

variable {s : Session}

/-- Whoever asks for a copier gets one that does what a fresh copier of the pairs does that the own
options select. -/
def ServesCopies (s : Session) : Prop :=
  ∀ {source target o pairs}, s.registry.copyPairs source target o = .ok pairs →
    AsFresh (Copier.Alike s.registry) (s.run (·.copier source target o)).1
      (Copier.ofPairs s.registry source target pairs)

lemma Reached.servesCopies (h : Reached [] s) (htell : s.registry.CopyKeysTell) :
    s.ServesCopies := by
  intro source target o pairs hpairs
  rw [run_fst, show s.binder.copier source target o s.state = _ from
    Binder.copier_eq s.config s.binder.native hpairs s.state]
  exact htell.asFresh_fetch hpairs (h.answers rfl)

/-- Whatever copier can be made is remembered in some session that is reached with the same
registry. -/
lemma Reached.exists_copier (h : Reached [] s)
    (hpairs : s.registry.copyPairs source target o = .ok pairs)
    (hx : Copier.ofPairs s.registry source target pairs = .ok x) :
    ∃ s' held, Reached [] s' ∧ s'.registry = s.registry ∧ s'.config = s.config ∧
      (s'.state.caches.memo .copiers).get? (.ofPairs source target o pairs) = some held ∧
        held.value = x := by
  refine h.exists_entry (by simp) (fun _ => Copier.ofPairs s.registry source target pairs) hx
    (.refl _) h.unasked.sound.caches.lookups
    (.copy (.object (.bare source false) 0) (.object (.bare target false) 0) o)
    fun held t' hfetch _ => ?_
  refine ⟨fun b => do
    held.value.run b.toContext (.object (.bare source false) 0) (.object (.bare target false) 0)
    pure .done, fun hR n₁ n₂ hn => ?_, ?_⟩
  · exact (held.value.run_inStep (hR.contexts _ hn) (fun _ _ => trivial) _ _).bind
      fun _ _ => .pure trivial
  · refine congrArg after (bind_congr_left ?_)
    exact bind_eq_of_ok ((Binder.copier_eq s.config s.binder.native hpairs _).trans hfetch)

lemma Reached.copyKeysTell (h : Reached [] s)
    (hserves : ∀ s', Reached [] s' → s'.registry = s.registry → s'.config = s.config →
      s'.ServesCopies) : s.registry.CopyKeysTell := by
  intro source target o o' pairs pairs' x hpairs hpairs' hkey hx
  obtain ⟨s', held, h', hreg, hconfig, hheld, rfl⟩ := h.exists_copier hpairs hx
  rw [← hreg] at hpairs' ⊢
  have hserved := hserves s' h' hreg hconfig hpairs'
  rw [run_fst, show s'.binder.copier source target o' s'.state = _ from
    Binder.copier_eq s'.config s'.binder.native hpairs' s'.state, ← hkey,
    answer_fetch_of_held hheld] at hserved
  exact hserved.exists_alike

/-- As long as nothing is unloaded and there are no twins, everybody always gets a copier of the
pairs that the own options select exactly if copiers that share a key do the same. The scopes are
all that the key misses, so it is enough that no type declares an instance field and a static one of
one name, nor two such properties. Then a request to copy ends as if nothing had been asked
before. -/
theorem servesCopies_iff_copyKeysTell (h : Reached [] s) (htwins : s.registry.NoTwins) :
    ((∀ s', Reached [] s' → s'.registry = s.registry → s'.config = s.config → s'.ServesCopies) ↔
      s.registry.CopyKeysTell) ∧
    s.registry.OnlyScopesMissing ∧
    (s.registry.PlainKinds → s.registry.CopyKeysTell) ∧
    (s.registry.CopyKeysTell →
      ∀ source target o, s.RunsAsUnasked fun b => b.copy source target o) := by
  refine ⟨⟨h.copyKeysTell, fun htell s' h' hreg _ => ?_⟩, ?_,
    fun hplain => hplain.copyKeysTell h.sound.valid, fun htell source target o => ?_⟩
  · exact h'.servesCopies (hreg ▸ htell)
  · exact fun _ _ _ _ _ _ hpairs hpairs' => htwins.eq_of_pairsKey h.sound.valid hpairs hpairs'
  · exact h.runsAsUnasked htwins (htell.copy_inStep _ source target o)

/-! ### An instance field and a static one -/

/-- A type with a static field and an instance field, and the numbers that they start with. -/
def tallySpec (name shared own : String) (first second : Int64) : TypeSpec where
  name
  members := [
    .field { name := shared, type := TypeId.int, visibility := .everywhere, isStatic := true,
             initial := some (.int first) },
    .field { name := own, type := TypeId.int, visibility := .everywhere,
             initial := some (.int second) }]

/-- An instance of such a type. -/
def tally (type : TypeId) (name shared own : String) (r : Ref) : Value :=
  .object { id := type, name, base := TypeId.object, isValueType := false,
            ancestors := [type, TypeId.object], slotNames := [own], staticNames := [shared] } r

/-- The session in which one instance of each of two types has been made, and the instance field of
the first one has been copied to the second one. -/
def tallySession (shared own : String) : Session :=
  let s := (({} : Session).step (.register (tallySpec "Source" shared own 1 2))).2
  let s := (s.step (.register (tallySpec "Target" shared own 3 4))).2
  let s := (s.run fun b => (Request.create ⟨64⟩ none []).perform b).2
  let s := (s.run fun b => (Request.create ⟨65⟩ none []).perform b).2
  (s.run fun b => (Request.copy (tally ⟨64⟩ "Source" shared own 0)
    (tally ⟨65⟩ "Target" shared own 1) {}).perform b).2

lemma reached_tallySession (shared own : String) : Reached [] (tallySession shared own) := by
  have hsource : Reached [] (({} : Session).step
      (.register (tallySpec "Source" shared own 1 2))).2 :=
    (Reached.start {}).step_register (of_decide_eq_true rfl)
  have htarget : (tallySpec "Target" shared own 3 4).Allocated ⟨65⟩ := of_decide_eq_true rfl
  exact (((hsource.step_register htarget).request _).request _).request _

/-- Where the two fields have different names, requests end as if nothing had been asked before. -/
theorem servesCopies_tallySession :
    let s := tallySession "shared" "own"
    Reached [] s ∧ s.registry.NoTwins ∧
      (∀ s', Reached [] s' → s'.registry = s.registry → s'.config = s.config →
        s'.ServesCopies) ∧
      ∀ source target o, s.RunsAsUnasked fun b => b.copy source target o := by
  intro s
  have h : Reached [] s := reached_tallySession _ _
  have htwins : s.registry.NoTwins := Registry.noTwins_of_forall_values (by decide +kernel)
  have hplain : s.registry.PlainKinds :=
    Registry.plainKinds_of_forall_values (by decide +kernel)
  obtain ⟨hserves, -, htell, hruns⟩ := servesCopies_iff_copyKeysTell h htwins
  have htell : s.registry.CopyKeysTell := htell hplain
  exact ⟨h, htwins, hserves.mpr htell, hruns htell⟩

/-- The number in the static field of the second type. -/
def sharedIn (st : Store) : Option Int64 := ((st.staticsOf ⟨65⟩)[0]?).bind Value.asInt?

/-- Where the two fields have one name, a request to copy the static ones copies the instance ones
once more. -/
theorem not_runsAsUnasked_tallySession :
    let s := tallySession "a" "a"
    Reached [] s ∧ s.registry.NoTwins ∧
      ¬ (s.RunsAsUnasked fun b => b.copy (tally ⟨64⟩ "Source" "a" "a" 0)
        (tally ⟨65⟩ "Target" "a" "a" 1) { flags := .staticAny }) ∧
      ¬ s.registry.CopyKeysTell := by
  intro s
  have h : Reached [] s := reached_tallySession _ _
  have htwins : s.registry.NoTwins := Registry.noTwins_of_forall_values (by decide +kernel)
  have hruns : ¬ (s.RunsAsUnasked fun b => b.copy (tally ⟨64⟩ "Source" "a" "a" 0)
      (tally ⟨65⟩ "Target" "a" "a" 1) { flags := .staticAny }) := by
    intro hruns
    have hshared := congrArg sharedIn hruns.2
    revert hshared
    decide +kernel
  exact ⟨h, htwins, hruns, fun htell =>
    hruns (h.runsAsUnasked htwins (htell.copy_inStep _ _ _ _))⟩

end Session

end LateBinding
