import LateBinding.Proofs.Invoker.Access
import LateBinding.Proofs.Lookup.ArgumentTypes
import LateBinding.Proofs.Session.CutOff
import LateBinding.Proofs.Session.Serving

/-!
# Calls without a parameter list

A call by name runs the method that the search takes for the shown types of the arguments. Where one
method is the only applicable one of the nearest level with any, it is run if it is taken, and it is
taken if all arguments are shown. Arguments that are not shown fit any parameter, so that a method
to which they cannot be passed may be taken in its place or tie with it.

Main statement: `call_applicable`.
-/

namespace LateBinding

open Run

namespace Session

variable {gone : List TypeId} {s : Session} {type : TypeId} {subject : Subject} {name : String}
  {levels : List Descriptor} {c : Found} {m : Member} {arguments : List Value}

/-- The call runs the method on arguments that pass its check: it ends as the use of a method that
is freshly made for the member, started with the same store. -/
def CallRuns (s : Session) (type : TypeId) (subject : Subject) (name : String)
    (arguments : List Value) (m : Member) : Prop :=
  ∃ x t, Method.ofMember s.registry type m = .ok x ∧ x.arguments.check arguments = .ok () ∧
    t.store = s.state.store ∧
    (s.run fun b => (Request.call subject name none arguments).perform b) =
      { s with state := t }.run fun b =>
        (Request.useMethod x subject.receiver arguments).perform b

/-- If a method has no twin and is found, what is remembered for it was made for it. -/
lemma Sound.callRuns (hs : Sound gone s) (htype : subject.typeId = .ok type)
    (hfind : s.registry.find type
      (.ofCall name (subject.flags s.config none) arguments) = .ok m)
    (hkind : m.kind = .method) (hsole : s.registry.Sole m)
    (happ : m.Applicable s.registry arguments) : s.CallRuns type subject name arguments m := by
  obtain ⟨levels, d, hd, -⟩ := Registry.exists_chain_of_find hfind
  have hdeclared := hs.valid.declares_of_find hfind
  obtain ⟨e, he, -⟩ := id hdeclared
  obtain ⟨x, hx, harguments⟩ := Method.exists_ofMember hd he (hs.valid.id he) hkind
  obtain ⟨s', hs', -, hobtain⟩ := Binder.obtain_eq hs.caches.lookups
    (Signature.ofArguments_ofRequest arguments) hfind s.config s.binder.native .method
  have hgot := (hs.caches.invokers.congr hs'.memo).answer_fetch .method type hs.valid hdeclared
    hsole (Or.inr fun _ => rfl)
  obtain ⟨held, hheld, rfl⟩ := exists_of_map_eq_ok (hgot.trans hx)
  obtain ⟨t, hheld, ht⟩ := exists_of_answer_fetch hheld
  refine ⟨held.value, t, hx, harguments ▸ happ.check, ht.trans hs'.store, ?_⟩
  have hcall : s.binder.call subject name none arguments s.state =
      held.value.run s.binder.toContext subject.receiver arguments t := by
    rw [Binder.call, htype]
    exact bind_eq_of_ok (hobtain.trans hheld)
  have hperform : (Request.call subject name none arguments).perform s.binder s.state =
      (Request.useMethod held.value subject.receiver arguments).perform s.binder t :=
    bind_congr_left hcall
  simp only [Session.run, hperform]
  rfl

/-- A call for which the search fails fails with it. -/
lemma Sound.call_error (hs : Sound gone s) (htype : subject.typeId = .ok type) {f : Fault}
    (hfind : s.registry.find type
      (.ofCall name (subject.flags s.config none) arguments) = .error f) :
    (s.run fun b => (Request.call subject name none arguments).perform b).1 = .error f := by
  have hmember := hs.member_fails_of_find (Signature.ofArguments_ofRequest arguments) hfind
  have hcall : ((Request.call subject name none arguments).perform s.binder).Fails s.state f :=
    (Fails.ofExcept_bind htype ((hmember.bind _).bind _)).bind _
  obtain ⟨t, ht⟩ := hcall
  rw [Session.run, ht]

/-- Where one method is the only applicable one of the nearest level with any, it is taken if all
arguments are shown. If it is taken, the call runs it, on arguments that pass its check, as long as
all members are shown or no type declares twins. If it is not taken, the search answers with a
method that fits but is not applicable, or the call is ambiguous between the nearest methods that
fit. -/
theorem call_applicable (h : Reached gone s) (htype : subject.typeId = .ok type)
    (hchain : s.registry.Chain type levels)
    (hc : s.registry.applicable levels name (subject.flags s.config none) arguments = [c]) :
    let q := Query.ofCall name (subject.flags s.config none) arguments
    let fitting := s.registry.fitting levels name (subject.flags s.config none) arguments
    let taken := q.Takes (arguments.map .ofArgument) fitting c
    ((∀ v ∈ arguments, v.IsShown) → taken) ∧
      (taken → s.registry.find type q = .ok c.member ∧
        ((subject.flags s.config none).ShowsAll ∨ s.registry.NoTwins →
          s.CallRuns type subject name arguments c.member)) ∧
      (¬ taken →
        (∃ e ∈ Query.nearest fitting, ¬ e.member.Applicable s.registry arguments ∧
          s.registry.find type q = .ok e.member) ∨
        (s.run fun b => (Request.call subject name none arguments).perform b).1 =
          .error (.ambiguous (.single .method) name (s.registry.nameOf type)
            (Query.nearest fitting).length)) := by
  intro q fitting taken
  obtain ⟨hiff, hshown, hcases⟩ := Registry.find_ofCall h.sound.valid hchain hc
  refine ⟨fun hall => hiff.mp (hshown hall), fun htaken => ⟨hiff.mpr htaken, fun htwins => ?_⟩,
    fun hnot => ?_⟩
  · -- the member is found and has no twin, so no other one is served in its place
    have hfind := hiff.mpr htaken
    have hmem : c ∈ s.registry.applicable levels name (subject.flags s.config none) arguments :=
      hc ▸ List.mem_singleton_self c
    obtain ⟨hlisted, happ⟩ := List.mem_filter.mp (Query.mem_nearest_iff.mp hmem).1
    obtain ⟨_, _, _, hw, -⟩ := Query.mem_listed.mp hlisted
    have hkind : (KindSet.single .method).has c.member.kind = true := hw.kind
    rw [KindSet.has_single, decide_eq_true_eq] at hkind
    refine h.sound.callRuns htype hfind hkind.symm ?_ (of_decide_eq_true happ)
    rcases htwins with hflags | htwins
    · exact Registry.sole_of_applicable h.sound.valid hchain hflags hc
    · exact htwins.sole (h.sound.valid.declares_of_find hfind)
  · rcases hcases with hfind | he | hambiguous
    · exact absurd (hiff.mp hfind) hnot
    · exact Or.inl he
    · exact Or.inr (h.sound.call_error htype hambiguous)

/-! ### Overloads for objects and for primitives -/

/-- A static method that takes one argument and does nothing. -/
def takingSpec (name : String) (type : TypeId) : MemberSpec :=
  .method { name, params := [⟨type, false⟩], isStatic := true, body := [] }

/-- A type whose one method takes a whole number or a text, and whose other one takes an instance of
the first or of the second type. -/
def sinkSpec : TypeSpec where
  name := "Sink"
  members := [takingSpec "Put" TypeId.int, takingSpec "Put" TypeId.string,
    takingSpec "Take" ⟨64⟩, takingSpec "Take" ⟨65⟩]

/-- The session with this type. -/
def sinkTypes : Session :=
  let s := (({} : Session).step (.register { name := "Left" })).2
  let s := (s.step (.register { name := "Right" })).2
  (s.step (.register sinkSpec)).2

/-- Makes an instance of the first type. -/
def sinkRequest : Request := .create ⟨64⟩ none []

/-- The session in which there is an instance of the first type. -/
def sinkSession : Session := (sinkTypes.run fun b => sinkRequest.perform b).2

lemma reached_sinkSession : Reached [] sinkSession :=
  ((((Reached.start {}).step_register (by decide)).step_register (by decide)).step_register
    (by decide)).request sinkRequest

/-- A static method of this type. -/
def sinkMethod (name : String) (type : TypeId) : Found where
  level := 0
  member := {
    name
    declaring := ⟨66⟩
    isStatic := true
    visibility := .everywhere
    params := [⟨type, false⟩]
    valueType := TypeId.void
    isSynthesized := false
    body := .method (.native []) }

lemma chain_sinkSession : sinkSession.registry.Chain ⟨66⟩
    ([⟨66⟩, TypeId.object].filterMap sinkSession.registry.get?) := ⟨_, rfl, rfl⟩

/-- A whole number goes to the method for whole numbers. -/
theorem call_applicable_sinkSession :
    sinkSession.registry.applicable
      ([⟨66⟩, TypeId.object].filterMap sinkSession.registry.get?) "Put" .staticAny [.int 5] =
        [sinkMethod "Put" TypeId.int] ∧
    sinkSession.CallRuns ⟨66⟩ (.type ⟨66⟩) "Put" [.int 5]
      (sinkMethod "Put" TypeId.int).member := by
  have hc : sinkSession.registry.applicable
      ([⟨66⟩, TypeId.object].filterMap sinkSession.registry.get?) "Put" .staticAny [.int 5] =
        [sinkMethod "Put" TypeId.int] := rfl
  obtain ⟨hshown, htaken, -⟩ := call_applicable reached_sinkSession
    (rfl : (Subject.type ⟨66⟩).typeId = .ok ⟨66⟩) chain_sinkSession hc
  have hall : ∀ v ∈ [Value.int 5], v.IsShown := fun v hv => by
    obtain rfl := List.mem_singleton.mp hv
    trivial
  exact ⟨hc, (htaken (hshown hall)).2 (Or.inl ⟨rfl, rfl, rfl⟩)⟩

/-- The instance of the first type can be passed to one method alone, and yet the call is
ambiguous. -/
theorem not_call_applicable_sinkSession : ∃ d v, Reached [] sinkSession ∧
    sinkSession.registry.get? ⟨64⟩ = some d ∧ v = .object d.toShape 0 ∧
    (sinkTypes.run fun b => sinkRequest.perform b) = (.ok (.call v []), sinkSession) ∧
    sinkSession.registry.Chain ⟨66⟩
      ([⟨66⟩, TypeId.object].filterMap sinkSession.registry.get?) ∧
    sinkSession.registry.applicable
      ([⟨66⟩, TypeId.object].filterMap sinkSession.registry.get?) "Take" .staticAny [v] =
        [sinkMethod "Take" ⟨64⟩] ∧
    (sinkSession.run fun b => (Request.call (.type ⟨66⟩) "Take" none [v]).perform b).1 =
      .error (.ambiguous (.single .method) "Take" "Sink" 2) :=
  ⟨_, _, reached_sinkSession, rfl, rfl, rfl, chain_sinkSession, rfl, rfl⟩

end Session

end LateBinding
