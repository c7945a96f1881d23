import LateBinding.Proofs.Invoker.Keys
import LateBinding.Proofs.Session.Answering

/-!
# Writing several members

A batch setter is remembered under a key that joins the names of its members, unites their kinds and
shows the scope of the first one alone. As long as nothing is unloaded, everybody gets a setter of
the members that were found exactly if setters that share a key do the same; and then a request to
write several members ends as if nothing had been asked before. Where names hold no comma and do not
begin like the text of an identifier, and differ within each type, a key stands for one list of
members only.

Main statement: `servesBatches_iff_batchKeysTell`.
-/

namespace LateBinding

open Run

variable {reg : Registry} {config : Config} {next type : TypeId} {flags flags' : Flags}
  {names names' : List String} {ms ns : List Member} {x : BatchSetter}

/-- Two batch setters do the same to every receiver with all values, whatever native bodies do. -/
def BatchSetter.Alike (reg : Registry) (x y : BatchSetter) : Prop :=
  ∀ native receiver values,
    x.run ⟨reg, native⟩ receiver values = y.run ⟨reg, native⟩ receiver values

namespace Registry

/-- Of two lists of members that are found for some names and share a key, the setters do the
same. -/
def BatchKeysTell (reg : Registry) : Prop :=
  ∀ ⦃type flags flags' names names' ms ns x⦄, reg.findEach type flags names = .ok ms →
    reg.findEach type flags' names' = .ok ns → CallKey.ofMembers type ms = .ofMembers type ns →
    BatchSetter.ofMembers reg type ms = .ok x →
    ∃ y, BatchSetter.ofMembers reg type ns = .ok y ∧ x.Alike reg y

/-- Lists of members that are found for some names share a key only if they are the same. -/
def OneListPerKey (reg : Registry) : Prop :=
  ∀ ⦃type flags flags' names names' ms ns⦄, reg.findEach type flags names = .ok ms →
    reg.findEach type flags' names' = .ok ns → CallKey.ofMembers type ms = .ofMembers type ns →
    ms = ns

lemma OneListPerKey.batchKeysTell (h : reg.OneListPerKey) : reg.BatchKeysTell := by
  intro type flags flags' names names' ms ns x hms hns hkey hx
  obtain rfl := h hms hns hkey
  exact ⟨x, hx, fun _ _ _ => rfl⟩

/-- What is remembered for members that are found does what a fresh setter does. -/
lemma BatchKeysTell.asFresh_fetch (h : reg.BatchKeysTell)
    (hms : reg.findEach type flags names = .ok ms) {s : State}
    (hs : AnswersSound reg config s.caches) :
    AsFresh (BatchSetter.Alike reg)
      (answer (Run.fetch .batchSetters (.ofMembers type ms)
        (fun _ => BatchSetter.ofMembers reg type ms) s)) (BatchSetter.ofMembers reg type ms) := by
  refine hs.asFresh_fetch (.batchSetter hms) (fun _ _ _ _ => rfl) fun make' x hmake' hx => ?_
  obtain ⟨type', flags', names', ns, hns, hkey, hmade⟩ := hmake'.cases_of_category
  obtain rfl : type = type' := congrArg CallKey.target hkey
  exact h hns hms hkey.symm (hmade ▸ hx)

/-- Without twins, a request to write several members goes in step in faithful states. -/
lemma BatchKeysTell.setAll_inStep (h : reg.BatchKeysTell) (hv : reg.Valid next)
    (htwins : reg.NoTwins) (r : Bool) (subject : Subject) (values : List (String × Value))
    (flags : Option Flags) : Binder.InStep reg config r r (BothFaithful reg config next)
      fun b => b.setAll subject values flags := by
  intro n₁ n₂ hn
  apply (InStep.ofExcept _).bind
  intro type _
  rw [Binder.batchSetter, Binder.batchSetter, bind_assoc, bind_assoc]
  apply ((concord_bothFaithful hv htwins r).membersNamed n₁ n₂ type _ _).bind
  intro ms hms
  have hrun : ∀ x y z : BatchSetter, x.Alike reg z → y.Alike reg z →
      InStep (BothFaithful reg config next) (fun _ => True)
        (x.run ⟨reg, n₁⟩ subject.receiver (values.map (·.2)))
        (y.run ⟨reg, n₂⟩ subject.receiver (values.map (·.2))) := by
    intro x y z hx hy
    rw [hx n₁, hy n₂]
    exact z.run_inStep (steady_bothFaithful.contexts _ hn) (fun _ _ => trivial) _ _
  exact fetch_bothFaithful (.batchSetter hms) (fun s hs => h.asFresh_fetch hms hs.answers) hrun

end Registry

namespace Session

variable {s : Session}

/-- Whoever asks for a setter of several members gets one that does what a fresh setter of the
members does that are found for the names. -/
def ServesBatches (s : Session) : Prop :=
  ∀ {type flags names ms}, s.registry.findEach type flags names = .ok ms →
    AsFresh (BatchSetter.Alike s.registry) (s.run (·.batchSetter type flags names)).1
      (BatchSetter.ofMembers s.registry type ms)

lemma Reached.servesBatches (h : Reached [] s) (htell : s.registry.BatchKeysTell) :
    s.ServesBatches := by
  intro type flags names ms hms
  obtain ⟨t, ht, -, heq⟩ :=
    Binder.batchSetter_eq h.sound.caches.lookups s.config s.binder.native hms
  rw [run_fst, show s.binder.batchSetter type flags names s.state = _ from heq]
  exact htell.asFresh_fetch hms ((h.answers rfl).congr ht.memo)

/-- Whatever setter of several members can be made is remembered in some session that is reached
with the same registry. -/
lemma Reached.exists_batchSetter (h : Reached [] s)
    (hms : s.registry.findEach type flags names = .ok ms)
    (hx : BatchSetter.ofMembers s.registry type ms = .ok x) :
    ∃ s' held, Reached [] s' ∧ s'.registry = s.registry ∧ s'.config = s.config ∧
      (s'.state.caches.memo .batchSetters).get? (.ofMembers type ms) = some held ∧
        held.value = x := by
  obtain ⟨t, ht, hsound, heq⟩ :=
    Binder.batchSetter_eq h.unasked.sound.caches.lookups s.config s.binder.native hms
  have hnames : (names.map fun name => (name, Value.null)).map (·.1) = names := by
    rw [List.map_map]
    exact List.map_id _
  -- a batch of nulls asks for the setter, and whatever it writes, the setter is held
  refine h.exists_entry (by simp) (fun _ => BatchSetter.ofMembers s.registry type ms) hx ht hsound
    (.setAll (.type type) (names.map fun name => (name, .null)) (some flags))
    fun held t' hfetch _ => ?_
  refine ⟨fun b => do
    held.value.run b.toContext .null ((names.map fun name => (name, Value.null)).map (·.2))
    pure .done, fun hR n₁ n₂ hn => ?_, ?_⟩
  · exact (held.value.run_inStep (hR.contexts _ hn) (fun _ _ => trivial) _ _).bind
      fun _ _ => .pure trivial
  · refine congrArg after (bind_congr_left ?_)
    change (s.binder.batchSetter type flags ((names.map fun name => (name, Value.null)).map (·.1))
      >>= _) _ = _
    rw [hnames]
    exact bind_eq_of_ok (heq.trans hfetch)

lemma Reached.batchKeysTell (h : Reached [] s)
    (hserves : ∀ s', Reached [] s' → s'.registry = s.registry → s'.config = s.config →
      s'.ServesBatches) : s.registry.BatchKeysTell := by
  intro type flags flags' names names' ms ns x hms hns hkey hx
  obtain ⟨s', held, h', hreg, hconfig, hheld, rfl⟩ := h.exists_batchSetter hms hx
  rw [← hreg] at hns ⊢
  have hserved := hserves s' h' hreg hconfig hns
  obtain ⟨t, ht, -, heq⟩ :=
    Binder.batchSetter_eq h'.sound.caches.lookups s'.config s'.binder.native hns
  rw [run_fst, show s'.binder.batchSetter type flags' names' s'.state = _ from heq] at hserved
  rw [← ht.memo (by simp), hkey] at hheld
  rw [answer_fetch_of_held hheld] at hserved
  exact hserved.exists_alike

/-- As long as nothing is unloaded, everybody always gets a setter of the members that were found
exactly if setters that share a key do the same. Plain names are enough for it. Then a request to
write several members ends as if nothing had been asked before, unless there are twins. -/
theorem servesBatches_iff_batchKeysTell (h : Reached [] s) :
    ((∀ s', Reached [] s' → s'.registry = s.registry → s'.config = s.config → s'.ServesBatches) ↔
      s.registry.BatchKeysTell) ∧
    (s.registry.PlainNames → s.registry.OneListPerKey) ∧
    (s.registry.OneListPerKey → s.registry.BatchKeysTell) ∧
    (s.registry.BatchKeysTell → s.registry.NoTwins →
      ∀ subject values flags, s.RunsAsUnasked fun b => b.setAll subject values flags) := by
  refine ⟨⟨h.batchKeysTell, fun htell s' h' hreg _ => ?_⟩, fun hplain => ?_,
    fun hone => hone.batchKeysTell, fun htell htwins subject values flags => ?_⟩
  · exact h'.servesBatches (hreg ▸ htell)
  · exact fun _ _ _ _ _ _ _ hms hns => hplain.eq_of_key h.sound.valid hms hns
  · exact h.runsAsUnasked htwins
      (htell.setAll_inStep h.sound.valid htwins _ subject values flags)

/-! ### Names with commas -/

/-- A type with a field of each name. -/
def rowSpec (names : List String) : TypeSpec where
  name := "Row"
  members := names.map fun name => .field { name, type := TypeId.int, visibility := .everywhere }

/-- The first instance of the type. -/
def row (names : List String) : Value :=
  .object { id := ⟨64⟩, name := "Row", base := TypeId.object, isValueType := false,
            ancestors := [⟨64⟩, TypeId.object], slotNames := names, staticNames := [] } 0

/-- Writes two fields of the instance. -/
def rowRequest (names : List String) (first second : String × Value) : Request :=
  .setAll (.instance (row names)) [first, second] none

/-- The session in which the instance has been made and two of its fields have been written. -/
def rowSession (names : List String) (first second : String) : Session :=
  let s := (({} : Session).step (.register (rowSpec names))).2
  let s := (s.run fun b => (Request.create ⟨64⟩ none []).perform b).2
  (s.run fun b => (rowRequest names (first, .int 1) (second, .int 2)).perform b).2

lemma reached_rowSession (names : List String) (first second : String)
    (h : (rowSpec names).Allocated TypeId.firstUser) :
    Reached [] (rowSession names first second) :=
  (((Reached.start {}).step_register h).request _).request _

/-- Where the names are plain, a key stands for one list of members only, and requests end as if
nothing had been asked before. -/
theorem servesBatches_rowSession :
    let s := rowSession ["a", "b", "c", "d"] "a" "b"
    Reached [] s ∧ (∀ s', Reached [] s' → s'.registry = s.registry → s'.config = s.config →
      s'.ServesBatches) ∧ s.registry.OneListPerKey ∧
      ∀ subject values flags, s.RunsAsUnasked fun b => b.setAll subject values flags := by
  intro s
  have h : Reached [] s := reached_rowSession _ _ _ (of_decide_eq_true rfl)
  have hplain : s.registry.PlainNames :=
    Registry.plainNames_of_forall_values (by decide +kernel)
  have htwins : s.registry.NoTwins := Registry.noTwins_of_forall_values (by decide +kernel)
  obtain ⟨hserves, hone, htell, hruns⟩ := servesBatches_iff_batchKeysTell h
  have htell : s.registry.BatchKeysTell := htell (hone hplain)
  exact ⟨h, hserves.mpr htell, hone hplain, hruns htell htwins⟩

/-- The number in a slot of the instance. -/
def numberIn (st : Store) (slot : Nat) : Option Int64 := (st.cell 0)[slot]?.bind Value.asInt?

/-- Where the names hold commas, the numbers may go to the fields that were written before. -/
theorem not_runsAsUnasked_rowSession :
    let names := ["a", "b,c", "a,b", "c"]
    let s := rowSession names "a" "b,c"
    Reached [] s ∧ s.registry.NoTwins ∧
      ¬ (s.RunsAsUnasked fun b =>
        b.setAll (.instance (row names)) [("a,b", .int 3), ("c", .int 4)] none) ∧
      ¬ s.registry.OneListPerKey := by
  intro names s
  have h : Reached [] s := reached_rowSession _ _ _ (of_decide_eq_true rfl)
  have htwins : s.registry.NoTwins := Registry.noTwins_of_forall_values (by decide +kernel)
  have hruns : ¬ (s.RunsAsUnasked fun b =>
      b.setAll (.instance (row names)) [("a,b", .int 3), ("c", .int 4)] none) := by
    intro hruns
    have hfirst := congrArg (numberIn · 0) hruns.2
    revert hfirst
    decide +kernel
  refine ⟨h, htwins, hruns, fun hone => hruns (h.runsAsUnasked htwins ?_)⟩
  exact hone.batchKeysTell.setAll_inStep h.sound.valid htwins _ _ _ _

end Session

end LateBinding
