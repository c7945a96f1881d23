import LateBinding.Proofs.Session.Arguments
import LateBinding.Proofs.Session.Bodies

/-!
# Constructors along a chain

A new instance is worked on by the constructors of the ancestors that take nothing, the root's
first, and then by the constructor that was chosen. Each of them finds the fields of its own type at
the slots that this type gave them. If one fails, the later ones do not run, and the caller keeps
its arguments as they were. The same goes for one whose type another body has unloaded meanwhile.

Main statement: `constructors_in_turn`.
-/

namespace LateBinding

open Run

variable {reg : Registry} {type : TypeId} {d : Descriptor} {farther levels : List Descriptor}
  {m : Member} {body : Script}

/-! ### Inherited constructors -/

/-- The member is a constructor that takes nothing. -/
def Member.IsDefaultConstructor (m : Member) : Prop :=
  m.params = [] ∧ ∃ body, m.body = .constructor body

/-- What types contribute when a type that derives from them is constructed: each of them the first
constructor that takes nothing, if it declares one. -/
inductive Contribute : List Descriptor → List BoundScript → Prop where
  | nil : Contribute [] []
  | skip {d : Descriptor} {levels : List Descriptor} {scripts : List BoundScript}
      (hnone : ∀ m ∈ d.members, ¬ m.IsDefaultConstructor) (hrest : Contribute levels scripts) :
      Contribute (d :: levels) scripts
  | run {d : Descriptor} {levels : List Descriptor} {scripts : List BoundScript}
      {before after : List Member} {m : Member} {body : Script}
      (hmembers : d.members = before ++ m :: after)
      (hfirst : ∀ n ∈ before, ¬ n.IsDefaultConstructor) (hparams : m.params = [])
      (hbody : m.body = .constructor body) (hrest : Contribute levels scripts) :
      Contribute (d :: levels) (⟨body, d.toShape⟩ :: scripts)

lemma Descriptor.exists_of_defaultConstructor? (h : d.defaultConstructor? = some body) :
    ∃ before m after, d.members = before ++ m :: after ∧
      (∀ n ∈ before, ¬ n.IsDefaultConstructor) ∧ m.params = [] ∧ m.body = .constructor body := by
  obtain ⟨before, m, after, hmembers, hm, hfirst⟩ := List.findSome?_eq_some_iff.mp h
  refine ⟨before, m, after, hmembers, ?_, ?_⟩
  · -- an earlier one would have been taken
    rintro n hn ⟨hparams, body, hbody⟩
    have hnone := hfirst n hn
    rw [hbody, hparams] at hnone
    cases hnone
  · split at hm
    · rename_i own hbody
      split at hm
      · rename_i hparams
        cases hm
        exact ⟨List.isEmpty_iff.mp hparams, hbody⟩
      · cases hm
    · cases hm

lemma Descriptor.not_of_defaultConstructor? (h : d.defaultConstructor? = none) :
    ∀ m ∈ d.members, ¬ m.IsDefaultConstructor := by
  rintro m hm ⟨hparams, body, hbody⟩
  have hnone := List.findSome?_eq_none_iff.mp h m hm
  rw [hbody, hparams] at hnone
  cases hnone

/-- What a type contributes. -/
def Descriptor.contribution? (d : Descriptor) : Option BoundScript :=
  d.defaultConstructor?.map (⟨·, d.toShape⟩)

lemma contribute_filterMap (levels : List Descriptor) :
    Contribute levels (levels.filterMap Descriptor.contribution?) := by
  induction levels with
  | nil => exact .nil
  | cons d levels ih =>
    cases h : d.defaultConstructor? with
    | none =>
      rw [List.filterMap_cons_none (by rw [Descriptor.contribution?, h]; rfl)]
      exact .skip (d.not_of_defaultConstructor? h) ih
    | some body =>
      rw [List.filterMap_cons_some (b := ⟨body, d.toShape⟩)
        (by rw [Descriptor.contribution?, h]; rfl)]
      obtain ⟨before, m, after, hmembers, hfirst, hparams, hbody⟩ :=
        d.exists_of_defaultConstructor? h
      exact .run hmembers hfirst hparams hbody ih

lemma exists_of_mem_contributions {script : BoundScript}
    (h : script ∈ levels.filterMap Descriptor.contribution?) :
    ∃ a ∈ levels, script.declaring = a.toShape := by
  obtain ⟨a, ha, hscript⟩ := List.mem_filterMap.mp h
  obtain ⟨body, -, rfl⟩ := Option.map_eq_some_iff.mp hscript
  exact ⟨a, ha, rfl⟩

namespace Construction

lemma mapM_inheritedScript (hknown : ∀ a ∈ levels, reg.get? a.id = some a) :
    (levels.map (·.id)).mapM (inheritedScript reg) =
      .ok (levels.map Descriptor.contribution?) := by
  induction levels with
  | nil => rfl
  | cons a levels ih =>
    have hrest := ih fun b hb => hknown b (List.mem_cons_of_mem _ hb)
    refine mapM_cons_of_ok ?_ hrest
    rw [inheritedScript, Registry.known_of_get?_eq_some (hknown a List.mem_cons_self)]
    rfl

lemma inheritedScripts_eq (hancestors : d.ancestors = (d :: farther).map (·.id))
    (hknown : ∀ a ∈ farther, reg.get? a.id = some a) :
    inheritedScripts reg d = .ok (farther.reverse.filterMap Descriptor.contribution?) := by
  rw [inheritedScripts, hancestors, List.map_cons, List.drop_one, List.tail_cons,
    ← List.map_reverse, mapM_inheritedScript fun a ha => hknown a (List.mem_reverse.mp ha)]
  change Except.ok _ = _
  rw [List.filterMap_map, Function.id_comp]

lemma ofMember_eq (hd : reg.get? m.declaring = some d)
    (hancestors : d.ancestors = (d :: farther).map (·.id))
    (hknown : ∀ a ∈ farther, reg.get? a.id = some a) (hbody : m.body = .constructor body) :
    ofMember reg m = .ok {
      arguments := .ofMember reg m
      owner := d
      inherited := farther.reverse.filterMap Descriptor.contribution?
      body := ⟨body, d.toShape⟩
      params := m.params } := by
  rw [ofMember, hbody, Registry.known_of_get?_eq_some hd]
  change (inheritedScripts reg d >>= _) = _
  rw [inheritedScripts_eq hancestors hknown]
  rfl

/-- What a construction does with arguments, whatever its bodies do to the session. Unless the
arguments are refused at once, some scripts run without arguments on a new instance of a type, then
one runs with them, and the instance is handed out. A script whose turn has come runs if its type
still exists, and none misses its turn if no script unloads the type of another. On the caller's
list the construction ends alike, so that the list is as it was if it fails. -/
structure TakesTurns (reg : Registry) (c : Construction) (native : FreeNative) (held : List TypeId)
    (d : Descriptor) (m : Member) (scripts : List BoundScript) (own : BoundScript)
    (arguments : List Value) (s : Session) : Prop where
  refused : ∀ e, (ArgumentsGuard.ofMember reg m).check arguments = .error e →
    c.runAmong native held arguments s = .error e s
  gone : (ArgumentsGuard.ofMember reg m).check arguments = .ok () → s.keeps held d.id = false →
    c.runAmong native held arguments s = .error (.unknownType d.id) s
  run : (ArgumentsGuard.ofMember reg m).check arguments = .ok () → s.keeps held d.id = true →
    ∃ ended,
      RunsInTurn native (·.keeps (d.id :: held) ·) (d.unfinished s.state.store.nextRef)
        (scripts.map (⟨·, []⟩) ++ [⟨own, arguments⟩]) (s.addInstance d) ended ∧
      (native.Spares (scripts ++ [own]) → s.KnowsAll (declaringTypes (scripts ++ [own])) →
        RunsInTurn native (fun _ _ => True) (d.unfinished s.state.store.nextRef)
          (scripts.map (⟨·, []⟩) ++ [⟨own, arguments⟩]) (s.addInstance d) ended) ∧
      c.runAmong native held arguments s =
        d.handOut s.state.store.nextRef m.params arguments ended
  inPlace : native.KeepsLength → c.runAmongInPlace native held (arguments, s) =
    InPlace.ends arguments (c.runAmong native held arguments s)

lemma takesTurns {c : Construction} (hmade : ofMember reg m = .ok c) (native : FreeNative)
    (held : List TypeId) (arguments : List Value) (s : Session) :
    c.TakesTurns reg native held c.owner m c.inherited c.body arguments s := by
  obtain ⟨hparams, harguments, -⟩ := ofMember_eq_ok hmade
  refine ⟨fun e he => ?_, fun hok hgone => ?_, fun hok hkeeps => ?_,
    fun hn => runAmongInPlace_eq (tidy_ofMember hmade) hn arguments s⟩
  · -- the arguments do not fit
    exact runAmong_of_refused (harguments ▸ he)
  · -- the type is gone
    exact runAmong_of_gone (harguments ▸ hok) hgone
  · -- a body that is called belongs to one of the types that the other bodies spare
    obtain ⟨ended, hturns, hended⟩ := exists_runAmong_eq native (harguments ▸ hok) hkeeps
    rw [← hparams]
    refine ⟨ended, hturns, fun hspares hknown => ?_, hended⟩
    refine hturns.spared hspares (fun call hcall => ?_) hknown
    rcases List.mem_append.mp hcall with hcall | hcall
    · obtain ⟨script, hscript, rfl⟩ := List.mem_map.mp hcall
      exact List.mem_append_left _ hscript
    · obtain rfl := List.mem_singleton.mp hcall
      exact List.mem_append_right _ List.mem_cons_self

end Construction

namespace Session

variable {s : Session} {gone : List TypeId}

/-- The constructors of a type whose whole chain is known, with whatever native bodies. A new
instance of the type, with every slot at its start, is worked on by the constructors that the
ancestors contribute, the root's first, and then by the constructor that was chosen. The slots of
every ancestor come first in the instance, and what is handed out has what was written to them.

The bodies may register and unload types meanwhile. As long as none of them unloads a type of the
others, all have their turn. If one does, the construction ends when the turn of a type comes that
no longer exists, with the fault that the type is unknown. With bodies that leave the registry alone
no type is missing, and all this is what `Construction.run` does. -/
theorem constructors_in_turn (h : Reached gone s) (hc : s.registry.Chain type (d :: farther))
    (hm : m ∈ d.members) (hbody : m.body = .constructor body) :
    ∃ c scripts, Construction.ofMember s.registry m = .ok c ∧
      Contribute farther.reverse scripts ∧
      (∀ a ∈ farther, a.slotNames <+: d.slotNames ∧ a.defaults <+: d.defaults) ∧
      d.defaults.length = d.slotNames.length ∧
      (∀ r (st : Store), st.slots? (d.finished r st) = st.slots? (d.unfinished r)) ∧
      (∀ native held arguments t,
        c.TakesTurns s.registry native held d m scripts ⟨body, d.toShape⟩ arguments t) ∧
      ∀ (native : Native) held arguments t, t.registry = s.registry →
        native.within.Spares (scripts ++ [⟨body, d.toShape⟩]) ∧
        t.KnowsAll (declaringTypes (scripts ++ [⟨body, d.toShape⟩])) ∧
        c.runAmong native.within held arguments t =
          (c.run ⟨s.registry, native⟩ arguments).within t ∧
        (native.KeepsLength → c.runInPlace ⟨s.registry, native⟩ (arguments, t.state) =
          InPlace.ends arguments (c.run ⟨s.registry, native⟩ arguments t.state)) := by
  have hv := h.sound.valid
  obtain ⟨d', farther', hd, hlevels, hlaid⟩ := h.laidOut hc
  cases hlevels
  have hknown : ∀ a ∈ d :: farther, s.registry.get? a.id = some a := fun a ha => by
    obtain ⟨t, ht⟩ := hc.exists_get?_of_mem ha
    rwa [hv.id ht]
  have hmade := Construction.ofMember_eq ((hv.declaring hd hm).symm ▸ hd) hlaid.ancestors_eq
    (fun a ha => hknown a (List.mem_cons_of_mem _ ha)) hbody
  have hinherited : ∀ script ∈ farther.reverse.filterMap Descriptor.contribution?,
      ∃ e, s.registry.get? script.declaring.id = some e := fun script hscript => by
    obtain ⟨a, ha, hdeclaring⟩ := exists_of_mem_contributions hscript
    exact ⟨a, hdeclaring ▸ hknown a (List.mem_cons_of_mem _ (List.mem_reverse.mp ha))⟩
  have hown := hknown d List.mem_cons_self
  refine ⟨_, _, hmade, contribute_filterMap farther.reverse, fun a ha => ?_, hlaid.length_defaults,
    fun r st => d.slots?_finished r st, Construction.takesTurns hmade,
    fun native held arguments t ht => ⟨native.spares_within _, ?_, ?_, ?_⟩⟩
  · -- the slots of an ancestor come first
    obtain ⟨nearer, rest, rfl⟩ := List.append_of_mem ha
    obtain ⟨-, hnames, hdefaults, -⟩ :=
      hlaid.within (List.suffix_append (d :: nearer) (a :: rest))
    exact ⟨hnames, hdefaults⟩
  · -- no type can have gone, as these bodies leave the registry alone
    intro t' ht'
    rw [ht]
    obtain ⟨script, hscript, rfl⟩ := List.mem_map.mp ht'
    rcases List.mem_append.mp hscript with hscript | hscript
    · exact hinherited script hscript
    · obtain rfl := List.mem_singleton.mp hscript
      exact ⟨d, hown⟩
  · exact Construction.runAmong_within ht hown rfl hinherited held arguments
  · exact fun hn => Construction.runInPlace_eq (Construction.tidy_ofMember hmade) hn arguments _

/-! ### A type over another -/

/-- A type whose constructor marks the instance. -/
def markedSpec (name : String) (base : TypeId) (mark : Int64) : TypeSpec where
  name := name
  base := base
  members := [
    .field { name := "Mark", type := TypeId.int },
    .constructor { body := [.setField "Mark" (.literal (.int mark)), .log (.literal (.int mark))] }]

/-- The body of a constructor that marks the instance with what it gets. -/
def boatBody : Script := [.setField "Mark" (.argument 0), .log (.argument 0)]

/-- A type over another one that has a mark of its own under the same name. -/
def boatSpec : TypeSpec where
  name := "Boat"
  base := ⟨65⟩
  members := [
    .field { name := "Mark", type := TypeId.int },
    .constructor { params := [⟨TypeId.int, false⟩], body := boatBody }]

/-- The shape of the type, which has the slots of all. -/
def boatShape : Shape where
  id := ⟨66⟩
  name := "Boat"
  base := some ⟨65⟩
  isValueType := false
  ancestors := [⟨66⟩, ⟨65⟩, ⟨64⟩, TypeId.object]
  slotNames := ["Mark", "Mark", "Mark"]
  staticNames := []

/-- The session in which a boat is a vessel, and a vessel a craft. -/
def boatSession : Session :=
  (((({} : Session).step (.register (markedSpec "Craft" TypeId.object 1))).2.step
    (.register (markedSpec "Vessel" ⟨64⟩ 2))).2.step (.register boatSpec)).2

lemma reached_boatSession : Reached [] boatSession :=
  (((Reached.start {}).step_register (by decide)).step_register (by decide)).step_register
    (by decide)

/-- Native bodies of which those of one type unload another one at their end. -/
def unloading (native : Native) (type other : TypeId) : FreeNative :=
  fun body declaring receiver arguments => do
    let result ← native.within body declaring receiver arguments
    if declaring.id = type then
      modify fun s => match s.unload other with
        | .ok (_, s) => s
        | .error _ => s
    pure result

/-- How a construction has ended: with the marks in the slots of the instance, or with a fault. -/
def marks : EStateM.Result Fault Session (Value × List Value) → Except Fault (List (Option Int64))
  | .ok (made, _) s => .ok (((s.state.store.slots? made).getD []).map Value.asInt?)
  | .error e _ => .error e

/-- What has been logged by the end of a construction. -/
def loggedMarks : EStateM.Result Fault Session (Value × List Value) → List (Option Int64)
  | .ok _ s => s.state.store.log.map Value.asInt?
  | .error _ s => s.state.store.log.map Value.asInt?

/-- The constructors mark the fields of their own types, the root's first. If the body of the craft
unloads the vessel, then those of the vessel and the boat do not run. -/
theorem constructors_in_turn_boatSession : ∃ d vessel craft root m c scripts,
    boatSession.registry.Chain ⟨66⟩ [d, vessel, craft, root] ∧ m ∈ d.members ∧
      m.body = .constructor boatBody ∧ Construction.ofMember boatSession.registry m = .ok c ∧
      Contribute [root, craft, vessel] scripts ∧
      c.TakesTurns boatSession.registry boatSession.binder.native.within [] d m scripts
        ⟨boatBody, boatShape⟩ [.int 5] boatSession ∧
      marks ((c.run boatSession.binder.toContext [.int 5]).within boatSession) =
        .ok [some 1, some 2, some 5] ∧
      loggedMarks ((c.run boatSession.binder.toContext [.int 5]).within boatSession) =
        [some 1, some 2, some 5] ∧
      c.TakesTurns boatSession.registry (unloading boatSession.binder.native ⟨64⟩ ⟨65⟩) [] d m
        scripts ⟨boatBody, boatShape⟩ [.int 5] boatSession ∧
      marks (c.runAmong (unloading boatSession.binder.native ⟨64⟩ ⟨65⟩) [] [.int 5] boatSession) =
        .error (.unknownType ⟨65⟩) ∧
      loggedMarks (c.runAmong (unloading boatSession.binder.native ⟨64⟩ ⟨65⟩) [] [.int 5]
        boatSession) = [some 1] := by
  have hc : boatSession.registry.Chain ⟨66⟩ [_, _, _, _] := ⟨_, rfl, rfl⟩
  obtain ⟨c, scripts, hmade, hcontribute, -, -, -, hturns, -⟩ :=
    constructors_in_turn reached_boatSession hc (List.mem_cons_of_mem _ List.mem_cons_self) rfl
  refine ⟨_, _, _, _, _, c, scripts, hc, List.mem_cons_of_mem _ List.mem_cons_self, rfl, hmade,
    hcontribute, hturns _ _ _ _, ?_, ?_, hturns _ _ _ _, ?_, ?_⟩
  all_goals
    cases hmade
    decide +kernel

end Session

end LateBinding
