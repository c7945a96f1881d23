import LateBinding.Proofs.Run.Batches
import LateBinding.Proofs.Run.Beside
import LateBinding.Proofs.Session.BatchSetters

/-!
# Writing several members as one by one

A request to write several members for which nothing is remembered yet looks all names up, makes a
setter for each member, and then does what these setters do one after the other. Whatever it has
remembered until then makes no difference to native bodies, since no script asks for a setter of
several members.

Main statement: `setAll_in_turn`.
-/

namespace LateBinding

open Run

variable {reg : Registry} {s t : State}

/-! ### What the caches have to do with it -/

/-- Two states that differ in no more than the lookups and the setters of several members that are
remembered, where the lookups are sound. -/
structure ButBatches (reg : Registry) (s t : State) : Prop where
  store : s.store = t.store
  memo : ∀ {c}, c ≠ .lookups → c ≠ .batchSetters → s.caches.memo c = t.caches.memo c
  sound : LookupsSound reg s.caches
  sound' : LookupsSound reg t.caches

/-- What is remembered about several members makes no difference to what is asked about one. -/
lemma concord_butBatches (reg : Registry) (config : Config) (r : Bool) :
    Concord reg config r r (ButBatches reg) where
  store_eq := fun h => h.store
  change := fun h _ => ⟨rfl, h.memo, h.sound, h.sound'⟩
  member := by
    intro n₁ n₂ type q hq s t hst
    obtain ⟨s', hs', hsound, hs⟩ :=
      Binder.member_eq hst.sound hq (config.remembering r) n₁ type
    obtain ⟨t', ht', hsound', ht⟩ :=
      Binder.member_eq hst.sound' hq (config.remembering r) n₂ type
    -- a search adds to the memo of lookups only
    have hst' : ButBatches reg s' t' := by
      refine ⟨?_, fun hc hc' => ?_, hsound, hsound'⟩
      · rw [hs'.store, ht'.store, hst.store]
      · rw [hs'.memo hc, ht'.memo hc, hst.memo hc hc']
    rw [hs, ht]
    exact InStep.ofExcept (reg.find type q) s' t' hst'
  serve := by
    intro sort type m hm α Q f g hfg
    have hc := sort.category_ne_lookups
    have hc' : sort.category ≠ .batchSetters := by cases sort <;> simp [InvokerSort.category]
    refine InStep.bind (P := fun _ => True) (fun s t hst => ?_) fun held _ => hfg held.value
    exact fetch_agree (hst.memo hc hc') fun m => ⟨hst.store,
      fun hd hd' => Caches.memo_setMemo_congr (hst.memo hd hd') m,
      hst.sound.setMemo hc m, hst.sound'.setMemo hc m⟩

/-- Where nothing is remembered under a key, what is made is used, and at most this one memo has
changed. -/
lemma Run.fetch_bind_of_none {c : Category} {key : c.Key} (make : Unit → Except Fault c.Item)
    (h : (s.caches.memo c).get? key = none) :
    ∃ t : State, t.store = s.store ∧ (∀ {d}, d ≠ c → t.caches.memo d = s.caches.memo d) ∧
      ∀ {α : Type} (f : c.Item → Run α), (Run.fetch c key make >>= fun held => f held.value) s =
        (Run.ofExcept (make ()) >>= f) t := by
  obtain ⟨r, hr, hfetch⟩ := fetch_cases c key make s
  have hgrown := grown_fetch c key make s
  refine ⟨_, hgrown.store, hgrown.memo, fun f => ?_⟩
  cases hr with
  | hit hheld =>
    rw [h] at hheld
    cases hheld
  | stored _ hmade =>
    rw [hfetch, hmade]
    exact bind_eq_of_ok hfetch
  | failed _ hmade =>
    rw [hfetch, hmade]
    exact bind_eq_of_error hfetch

/-- If no setter of several members is remembered, whoever asks for one goes on with the setters
that are prepared now. -/
lemma Binder.batchSetter_bind (hs : LookupsSound reg s.caches)
    (hnone : ∀ key, (s.caches.memo .batchSetters).get? key = none) (config : Config)
    (native : Native) (type : TypeId) (flags : Flags) (names : List String) :
    ∃ t, ButBatches reg s t ∧ ∀ {α : Type} (f : BatchSetter → Run α),
      ((Binder.of reg config native).batchSetter type flags names >>= fun held =>
        f held.value) s =
        (Run.ofExcept (BatchSetter.mk <$> reg.prepare type flags names) >>= f) t := by
  cases hms : reg.findEach type flags names with
  | error e =>
    obtain ⟨t, ht, hsound, hmembers⟩ := membersNamed_eq hs config native type flags names
    rw [hms] at hmembers
    refine ⟨t, ⟨ht.store.symm, fun hc _ => (ht.memo hc).symm, hs, hsound⟩, fun f => ?_⟩
    have hbatch : (Binder.of reg config native).batchSetter type flags names s = .error e t :=
      bind_eq_of_error hmembers
    rw [Registry.prepare, hms]
    exact bind_eq_of_error hbatch
  | ok ms =>
    obtain ⟨s', hs', hsound, hbatch⟩ := batchSetter_eq hs config native hms
    -- the lookups before leave the memo of batch setters empty
    have hnone' : (s'.caches.memo .batchSetters).get? (.ofMembers type ms) = none := by
      rw [hs'.memo (by simp)]
      exact hnone _
    obtain ⟨t, ht, hmemo, hfetch⟩ := fetch_bind_of_none (c := .batchSetters)
      (fun _ => BatchSetter.ofMembers reg type ms) hnone'
    refine ⟨t, ⟨(ht.trans hs'.store).symm, fun hc hc' => ?_, hs,
      hsound.congr (hmemo (by simp))⟩, fun f => ?_⟩
    · rw [hmemo hc', hs'.memo hc]
    · rw [bind_congr_left hbatch, hfetch, Registry.prepare, hms]
      rfl

/-- If no setter of several members is remembered, a binder writes several values as if it asked the
caches for nothing. -/
lemma Binder.setAll_eq (hs : LookupsSound reg s.caches)
    (hnone : ∀ key, (s.caches.memo .batchSetters).get? key = none) (config : Config)
    (native : Native) (subject : Subject) (values : List (String × Value))
    (flags : Option Flags) :
    ∃ t, ButBatches reg s t ∧ (Binder.of reg config native).setAll subject values flags s =
      Context.setAll ⟨reg, native⟩ (subject.flags config flags) subject values t := by
  rw [Binder.setAll, Context.setAll]
  cases htype : subject.typeId with
  | error e => exact ⟨s, ⟨rfl, fun _ _ => rfl, hs, hs⟩, rfl⟩
  | ok type =>
    obtain ⟨t, ht, hbind⟩ := batchSetter_bind hs hnone config native type
      (subject.flags config flags) (values.map (·.1))
    have hrun := hbind fun b : BatchSetter =>
      b.run ⟨reg, native⟩ subject.receiver (values.map (·.2))
    refine ⟨t, ht, Eq.trans hrun ?_⟩
    change _ = (Run.ofExcept (reg.prepare type (subject.flags config flags) (values.map (·.1))) >>=
      fun setters => BatchSetter.runEach ⟨reg, native⟩ subject.receiver setters
        (values.map (·.2))) t
    cases hsetters : reg.prepare type (subject.flags config flags) (values.map (·.1)) with
    | error e => rfl
    | ok setters =>
      have hlength : (values.map (·.2)).length = setters.length := by
        rw [Registry.length_of_prepare hsetters, List.length_map, List.length_map]
      change BatchSetter.run _ ⟨setters⟩ _ _ t = _
      rw [BatchSetter.run, if_pos hlength]
      rfl

/-- Without the caches, several values are written in step as soon as native bodies go in step. -/
lemma Context.setAll_inStep (reg : Registry) {R : Bond} (hR : Steady R) {n₁ n₂ : Native}
    (hn : Native.InStep R n₁ n₂) (flags : Flags) (subject : Subject)
    (values : List (String × Value)) : Run.InStep R (fun _ => True)
      (Context.setAll ⟨reg, n₁⟩ flags subject values)
      (Context.setAll ⟨reg, n₂⟩ flags subject values) := by
  refine (InStep.ofExcept _).bind fun type _ => (InStep.ofExcept _).bind fun setters _ => ?_
  exact BatchSetter.runEach_inStep (hR.contexts reg hn) _ setters _ fun _ _ _ _ => trivial

namespace Session

variable {gone : List TypeId} {s : Session}

/-- Where no setter of several members is remembered, a request to write several members does the
following, whatever native bodies do. If the subject has no type, a name denotes no member or a
member cannot be written, the first such fault is all that happens, and faults of names come before
those of members. Otherwise the values are written in turn by setters that are made for the members
now. All this starts with the store as it is, and as far as native bodies are scripts, it ends as if
nothing had been remembered on the way. -/
theorem setAll_in_turn (h : Reached gone s)
    (hnone : ∀ key, (s.state.caches.memo .batchSetters).get? key = none) (subject : Subject)
    (values : List (String × Value)) (flags : Option Flags) :
    (∀ native, ∃ t, ButBatches s.registry s.state t ∧
      SetsAll ⟨s.registry, native⟩ (subject.flags s.config flags) subject values t
        ((Binder.of s.registry s.config native).setAll subject values flags s.state)) ∧
    ∃ ended, SetsAll s.binder.toContext (subject.flags s.config flags) subject values s.state
        ended ∧
      (s.run fun b => b.setAll subject values flags).1 = answer ended ∧
      (s.run fun b => b.setAll subject values flags).2.state.store = (after ended).store := by
  have hlookups := h.sound.caches.lookups
  refine ⟨fun native => ?_, _, Context.setsAll _ _ subject values s.state, ?_⟩
  · -- any native body, from the state in which the setters have been made
    obtain ⟨t, ht, heq⟩ := Binder.setAll_eq hlookups hnone s.config native subject values flags
    exact ⟨t, ht, heq ▸ Context.setsAll _ _ subject values t⟩
  · obtain ⟨t, ht, heq⟩ :=
      Binder.setAll_eq hlookups hnone s.config s.binder.native subject values flags
    -- scripts do not see the memo of batch setters, so the state before does as well
    have hR := concord_butBatches s.registry s.config s.config.remembersLookups
    have hagree := Context.setAll_inStep s.registry hR.toSteady
      (Script.run_inStep hR Script.maxDepth) (subject.flags s.config flags) subject values
      s.state t ht
    rw [run_fst, run_snd, show s.binder.setAll subject values flags s.state = _ from heq]
    obtain ⟨e, -, hparts⟩ | ⟨hanswer, hafter⟩ := hagree.parts_or
    · exact hparts.elim
    · exact ⟨hanswer.symm, hafter.store.symm⟩

/-! ### A setter that writes before it fails -/

/-- The body of a property that writes a field and then fails. -/
def brittleBody : Script := [.setField "x" (.argument 0), .refuse "no"]

/-- An instance of a type with two fields and a property with this body. -/
def brittleSession : Session :=
  let s := (({} : Session).step (.register
    { name := "Gauge"
      members := [.field { name := "x", type := TypeId.int },
        .field { name := "y", type := TypeId.int },
        .property { name := "P", type := TypeId.int,
                    body := .native none (some brittleBody) }] })).2
  (s.run fun b => (Request.create ⟨64⟩ none []).perform b).2

def gaugeShape : Shape :=
  ⟨⟨64⟩, "Gauge", some TypeId.object, false, [⟨64⟩, TypeId.object], ["x", "y"], []⟩

lemma reached_brittleSession : Reached [] brittleSession :=
  ((Reached.start {}).step_register (by decide)).request (.create ⟨64⟩ none [])

lemma not_remembered_brittleSession (key : CallKey) :
    (brittleSession.state.caches.memo .batchSetters).get? key = none := rfl

/-- The instance. -/
def gauge : Subject := .instance (.object gaugeShape 0)

/-- Values of which the second one cannot be written. -/
def gaugeValues : List (String × Value) := [("y", .int 3), ("P", .int 5), ("y", .int 4)]

/-- The first value has been written, the second one fails and leaves what its body has done, and
the third one has not been written. -/
theorem setAll_in_turn_brittleSession : ∃ ended,
    Reached [] brittleSession ∧
    (∀ key, (brittleSession.state.caches.memo .batchSetters).get? key = none) ∧
    SetsAll brittleSession.binder.toContext (gauge.flags brittleSession.config none) gauge
      gaugeValues brittleSession.state ended ∧
    (brittleSession.run fun b => b.setAll gauge gaugeValues none).1 = answer ended ∧
    (brittleSession.run fun b => b.setAll gauge gaugeValues none).2.state.store =
      (after ended).store ∧
    answer ended = .error (.refused (.custom "no")) ∧
    numberIn (after ended).store 0 = some 5 ∧ numberIn (after ended).store 1 = some 3 := by
  obtain ⟨-, ended, hsets, hanswer, hstore⟩ :=
    setAll_in_turn reached_brittleSession not_remembered_brittleSession gauge gaugeValues none
  refine ⟨ended, reached_brittleSession, not_remembered_brittleSession, hsets, hanswer, hstore, ?_⟩
  rw [← hanswer, ← hstore]
  decide +kernel

/-- What a setter has written before it fails stays, even if no value stands before the one that it
has got. A subject without a type is refused even if there is no value to write. -/
theorem setAll_keeps_failed_write :
    Reached [] brittleSession ∧
    (∀ key, (brittleSession.state.caches.memo .batchSetters).get? key = none) ∧
    (∃ setter, brittleSession.registry.prepare ⟨64⟩ (gauge.flags brittleSession.config none)
      ["P"] = .ok [setter]) ∧
    numberIn brittleSession.state.store 0 = some 0 ∧
    (brittleSession.run fun b => b.setAll gauge [("P", .int 5)] none).1 =
      .error (.refused (.custom "no")) ∧
    numberIn (brittleSession.run fun b =>
      b.setAll gauge [("P", .int 5)] none).2.state.store 0 = some 5 ∧
    (brittleSession.run fun b => b.setAll (.instance .null) [] none).1 =
      .error (.refused .nullTarget) :=
  ⟨reached_brittleSession, not_remembered_brittleSession, ⟨_, rfl⟩, by decide +kernel⟩

end Session

end LateBinding
