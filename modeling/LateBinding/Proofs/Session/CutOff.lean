import LateBinding.Proofs.Session.Asked

/-!
# Types that are cut off

A type that has been unloaded is never known again, since identifiers are handed out once, and a
type that derives from it keeps it in its chain. Whatever is remembered, a request that has to find
a member through such a type fails at the first type of the chain that is not known.

Main statement: `unknownType_of_cutOff`.
-/

namespace LateBinding

open Run

variable {α β : Type}

/-! ### Runs that fail -/

/-- Started from `s` the run ends at the fault `e`. -/
def Run.Fails (x : Run α) (s : State) (e : Fault) : Prop := ∃ t, x s = .error e t

namespace Run.Fails

variable {x : Run α} {s : State} {e : Fault}

lemma bind (h : x.Fails s e) (f : α → Run β) : (x >>= f).Fails s e := by
  obtain ⟨t, ht⟩ := h
  exact ⟨t, bind_eq_of_error ht⟩

/-- A run that starts with what is known beforehand fails as its rest does. -/
lemma ofExcept_bind {r : Except Fault α} {a : α} {f : α → Run β} (hr : r = .ok a)
    (h : (f a).Fails s e) : (Run.ofExcept r >>= f).Fails s e := by
  subst hr
  exact h

lemma ofExcept {r : Except Fault α} (hr : r = .error e) : (Run.ofExcept r).Fails s e := by
  subst hr
  exact ⟨s, rfl⟩

end Run.Fails

namespace Session

variable {gone : List TypeId} {s : Session} {type missing t : TypeId}

/-! ### Unloaded types -/

/-- Identifiers are handed out once, so that an unloaded type is never known again. -/
lemma Reached.get?_of_gone (h : Reached gone s) :
    ∀ t ∈ gone, t.code < s.state.store.nextType.code ∧ s.registry.get? t = none := by
  induction h with
  | start config =>
    intro t ht
    cases ht
  | @register gone s s' spec type h hspec hs ih =>
    intro t ht
    obtain ⟨hlt, hnone⟩ := ih t ht
    obtain ⟨reg', st', hr, rfl⟩ := register_eq_ok hs
    obtain ⟨rfl, hnext, base, d, hreg⟩ := Registry.registered_of_register hr
    -- the identifier of the new type is the next one, so it is none of those that are gone
    refine ⟨?_, (hreg.get?_of_lt hlt).trans hnone⟩
    change t.code < st'.nextType.code
    rw [hnext]
    exact Nat.lt_succ_of_lt hlt
  | @unload gone s s' type removed h hs ih =>
    intro t ht
    obtain ⟨reg', hr, rfl⟩ := unload_eq_ok hs
    have hu := Registry.unloaded_of_unload hr
    rcases List.mem_cons.mp ht with rfl | ht
    · obtain ⟨d, hd⟩ := hu.known
      exact ⟨h.sound.valid.allocated hd, (hu.get? t).trans (if_pos rfl)⟩
    · obtain ⟨hlt, hnone⟩ := ih t ht
      refine ⟨hlt, (hu.get? t).trans ?_⟩
      rw [hnone, ite_self]
  | @request gone s h r ih =>
    intro t ht
    obtain ⟨hlt, hnone⟩ := ih t ht
    rw [h.sound.nextType_run r, run_snd]
    exact ⟨hlt, hnone⟩
  | @outside gone s h change hchange ih =>
    intro t ht
    obtain ⟨hlt, hnone⟩ := ih t ht
    exact ⟨Nat.lt_of_lt_of_le hlt hchange, hnone⟩

/-- The type has been unloaded, or it derives from a type that has. -/
def CutOff (gone : List TypeId) (s : Session) (type : TypeId) : Prop :=
  type ∈ gone ∨ ∃ d, s.registry.get? type = some d ∧ ∃ t ∈ gone, t ∈ d.ancestors

lemma Reached.exists_firstUnknown (h : Reached gone s) (hcut : s.CutOff gone type) :
    ∃ missing, s.registry.FirstUnknown type missing := by
  rcases s.registry.chain_or_firstUnknown type with ⟨levels, d, hd, hlevels⟩ | hmissing
  · exfalso
    rcases hcut with hgone | ⟨e, he, t, hgone, ht⟩
    · rw [(h.get?_of_gone type hgone).2] at hd
      cases hd
    · rw [hd, Option.some.injEq] at he
      subst he
      have hmem : s.registry.get? t ∈ d.ancestors.map s.registry.get? := List.mem_map_of_mem ht
      rw [(h.get?_of_gone t hgone).2, hlevels] at hmem
      simp at hmem
  · exact hmissing

/-! ### Requests through a type -/

/-- The request has to find at least one member through the type. -/
inductive ResolvesThrough (reg : Registry) (type : TypeId) : Request → Prop where
  | resolve (kinds : KindSet) (name : String) (flags : Flags) (params : Option (List Param)) :
      ResolvesThrough reg type (.resolve type kinds name flags params)
  | resolveAll (kinds : KindSet) (name : Option String) (flags : Flags)
      (params : Option (List Param)) :
      ResolvesThrough reg type (.resolveAll type kinds name flags params)
  | getter (kinds : KindSet) (name : String) (flags : Flags) :
      ResolvesThrough reg type (.getter type kinds name flags)
  | setter (kinds : KindSet) (name : String) (flags : Flags) :
      ResolvesThrough reg type (.setter type kinds name flags)
  | method (name : String) (params : List Param) (flags : Flags) :
      ResolvesThrough reg type (.method type name params flags)
  | constructor (params : List Param) : ResolvesThrough reg type (.constructor type params)
  | get {subject : Subject} (h : subject.typeId = .ok type) (kinds : KindSet) (name : String)
      (flags : Option Flags) : ResolvesThrough reg type (.get subject kinds name flags)
  | set {subject : Subject} (h : subject.typeId = .ok type) (kinds : KindSet) (name : String)
      (new : Value) (flags : Option Flags) :
      ResolvesThrough reg type (.set subject kinds name new flags)
  | setAll {subject : Subject} (h : subject.typeId = .ok type) {values : List (String × Value)}
      (hvalues : values ≠ []) (flags : Option Flags) :
      ResolvesThrough reg type (.setAll subject values flags)
  | call {subject : Subject} (h : subject.typeId = .ok type) (name : String)
      (params : Option (List Param)) (arguments : List Value) :
      ResolvesThrough reg type (.call subject name params arguments)
  | create (params : Option (List Param)) (arguments : List Value) :
      ResolvesThrough reg type (.create type params arguments)
  | getAt {receiver : Value} (h : Subject.typeOf receiver = .ok type) (indices : List Value) :
      ResolvesThrough reg type (.getAt receiver indices)
  | setAt {receiver : Value} (h : Subject.typeOf receiver = .ok type) (indices : List Value)
      (new : Value) : ResolvesThrough reg type (.setAt receiver indices new)
  | copyFrom {source target : Value} {other : TypeId} (h : Subject.typeOf source = .ok type)
      (hother : Subject.typeOf target = .ok other) (o : CopyOptions) :
      ResolvesThrough reg type (.copy source target o)
  | copyTo {source target : Value} {other : TypeId} {levels : List Descriptor}
      (hother : Subject.typeOf source = .ok other) (hlevels : reg.Chain other levels)
      (h : Subject.typeOf target = .ok type) (o : CopyOptions) :
      ResolvesThrough reg type (.copy source target o)

/-! ### They fail -/

section Fails

variable {q : Query} (hs : Sound gone s) (hm : s.registry.FirstUnknown type missing)

include hs in
/-- Asking for a member fails as the search does. -/
lemma Sound.member_fails_of_find {f : Fault} (hq : q.signature.OfRequest)
    (hfind : s.registry.find type q = .error f) : (s.binder.member type q).Fails s.state f := by
  obtain ⟨t, -, -, heq⟩ := Binder.member_eq hs.caches.lookups hq s.config s.binder.native type
  rw [hfind] at heq
  exact ⟨t, heq⟩

include hs hm

/-- A member is looked for in vain, whatever lookups are remembered. -/
lemma Sound.member_fails (hq : q.signature.OfRequest) :
    (s.binder.member type q).Fails s.state (.unknownType missing) :=
  hs.member_fails_of_find hq (Registry.find_of_firstUnknown hm q)

lemma Sound.setAll_fails {subject : Subject} (h : subject.typeId = .ok type)
    {values : List (String × Value)} (hvalues : values ≠ []) (flags : Option Flags) :
    (s.binder.setAll subject values flags).Fails s.state (.unknownType missing) := by
  obtain ⟨⟨name, new⟩, rest, rfl⟩ := List.exists_cons_of_ne_nil hvalues
  -- the first name is looked up before anything else is done
  have hmember : (s.binder.member type
      { kinds := .fieldsAndProperties, name := some name,
        flags := subject.flags s.config flags }).Fails s.state (.unknownType missing) :=
    hs.member_fails hm trivial
  exact .ofExcept_bind h (Fails.bind ((hmember.bind _).bind _) _)

/-- Arrays cannot be cut off: their type is builtin, and so are its ancestors. -/
lemma Sound.ne_array_of_firstUnknown {receiver : Value}
    (h : Subject.typeOf receiver = .ok type) (shape : ArrayShape) (r : Ref) :
    receiver ≠ .array shape r := by
  rintro rfl
  cases h
  have hchain : s.registry.Chain TypeId.array
      [.builtin TypeId.array "array" false, .builtin TypeId.object "object" false] := by
    refine ⟨.builtin TypeId.array "array" false, ?_, ?_⟩
    · exact (hs.valid.builtin rfl).trans rfl
    · change [s.registry.get? TypeId.array, s.registry.get? TypeId.object] = _
      rw [hs.valid.builtin rfl, hs.valid.builtin rfl]
      rfl
  have := hchain.hierarchy_eq.symm.trans hm.hierarchy_eq
  cases this

lemma Sound.indexer_fails {receiver : Value} (h : Subject.typeOf receiver = .ok type)
    (indices : List Value) :
    (s.binder.indexReader receiver indices).Fails s.state (.unknownType missing) ∧
      (s.binder.indexWriter receiver indices).Fails s.state (.unknownType missing) := by
  have hmember := hs.member_fails hm (Signature.ofArguments_ofRequest indices)
    (q := { kinds := .single .indexer, name := some indexerName,
            flags := s.config.instanceFlags, signature := .ofArguments indices })
  cases receiver with
  | array shape r => exact absurd rfl (hs.ne_array_of_firstUnknown hm h shape r)
  | _ => exact ⟨.ofExcept_bind h (hmember.bind _), .ofExcept_bind h (hmember.bind _)⟩

omit hs in
lemma copyPairs_eq_error {source target : TypeId} (o : CopyOptions)
    (h : source = type ∨ (∃ levels, s.registry.Chain source levels) ∧ target = type) :
    s.registry.copyPairs source target o = .error (.unknownType missing) := by
  have hall : ∀ q, s.registry.findAll type q = .error (.unknownType missing) := by
    intro q
    rw [Registry.findAll, Registry.candidates_of_firstUnknown hm]
    rfl
  rw [Registry.copyPairs, Registry.copySources, Registry.findNamed, Registry.copyTargets]
  rcases h with rfl | ⟨⟨levels, hlevels⟩, rfl⟩
  · rw [hall]
    rfl
  · rw [Registry.findAll_of_chain hlevels, hall]
    rfl

lemma Sound.perform_fails {r : Request} (hr : ResolvesThrough s.registry type r) :
    (r.perform s.binder).Fails s.state (.unknownType missing) := by
  have hany : ∀ {kinds name flags}, (s.binder.member type { kinds, name, flags }).Fails s.state
      (.unknownType missing) := hs.member_fails hm trivial
  have hparams : ∀ {kinds name flags} params arguments,
      (s.binder.member type { kinds, name, flags, signature := .ofCall params arguments }).Fails
        s.state (.unknownType missing) := fun params arguments =>
    hs.member_fails hm (Signature.ofCall_ofRequest params arguments)
  cases hr with
  | resolve _ _ _ params => exact (hs.member_fails hm (Signature.ofParams_ofRequest params)).bind _
  | resolveAll kinds name flags params =>
    refine Fails.bind (.ofExcept ?_) _
    change s.registry.findAll type _ = _
    rw [Registry.findAll, Registry.candidates_of_firstUnknown hm]
    rfl
  | getter => exact (hany.bind _).bind _
  | setter => exact (hany.bind _).bind _
  | method _ params => exact ((hparams (some params) []).bind _).bind _
  | constructor params => exact ((hparams (some params) []).bind _).bind _
  | get h => exact (Fails.ofExcept_bind h ((hany.bind _).bind _)).bind _
  | set h => exact (Fails.ofExcept_bind h ((hany.bind _).bind _)).bind _
  | setAll h hvalues flags => exact (hs.setAll_fails hm h hvalues flags).bind _
  | call h _ params arguments =>
    exact (Fails.ofExcept_bind h (((hparams params arguments).bind _).bind _)).bind _
  | create params arguments => exact (((hparams params arguments).bind _).bind _).bind _
  | getAt h indices => exact ((hs.indexer_fails hm h indices).1.bind _).bind _
  | setAt h indices => exact ((hs.indexer_fails hm h indices).2.bind _).bind _
  | copyFrom h hother o =>
    refine (Fails.ofExcept_bind h (.ofExcept_bind hother (Fails.bind ?_ _))).bind _
    exact (Fails.ofExcept (copyPairs_eq_error hm o (Or.inl rfl))).bind _
  | copyTo hother hlevels h o =>
    refine (Fails.ofExcept_bind hother (.ofExcept_bind h (Fails.bind ?_ _))).bind _
    exact (Fails.ofExcept (copyPairs_eq_error hm o (Or.inr ⟨⟨_, hlevels⟩, rfl⟩))).bind _

end Fails

/-- Once a type has been unloaded, whatever happens afterwards: its chain and that of every type
that derives from it have a first type that is not known, and every request that has to find a
member through such a type fails there. -/
theorem unknownType_of_cutOff (h : Reached gone s) (hcut : s.CutOff gone type) :
    (∃ missing, s.registry.FirstUnknown type missing) ∧
      ∀ missing, s.registry.FirstUnknown type missing → ∀ r, ResolvesThrough s.registry type r →
        (s.run fun b => r.perform b).1 = .error (.unknownType missing) := by
  refine ⟨h.exists_firstUnknown hcut, fun missing hm r hr => ?_⟩
  obtain ⟨t, ht⟩ := h.sound.perform_fails hm hr
  rw [Session.run, ht]

/-- The base of the sessions below. -/
def renewedBase : TypeSpec :=
  { name := "Base", members := [.field { name := "x", type := TypeId.int }] }

/-- Asks for a getter through the type that derives from it. -/
def renewedRequest : Request := .getter ⟨65⟩ (.single .field) "x" .instanceAny

/-- The base, a type that derives from it, and a getter that has been asked for. -/
def askedSession : Session :=
  let s := (({} : Session).step (.register renewedBase)).2
  let s := (s.step (.register { name := "Derived", base := ⟨64⟩ })).2
  (s.run fun b => renewedRequest.perform b).2

lemma reached_askedSession : Reached [] askedSession :=
  (((Reached.start {}).step_register (by decide)).step_register (by decide)).request renewedRequest

/-- Then the base is unloaded and its name used again. -/
def renewedSession : Session :=
  ((askedSession.step (.unload ⟨64⟩)).2.step (.register renewedBase)).2

lemma reached_renewedSession : Reached [⟨64⟩] renewedSession :=
  (reached_askedSession.unload (by rfl)).step_register (by decide)

/-- The getter cannot be had any more, though the derived type and a base of that name are known. -/
theorem unknownType_of_cutOff_renewedSession :
    (renewedSession.registry.named? "Base").isSome ∧ renewedSession.registry.contains ⟨65⟩ ∧
      Reached [⟨64⟩] renewedSession ∧ renewedSession.CutOff [⟨64⟩] ⟨65⟩ ∧
      (renewedSession.run fun b => renewedRequest.perform b).1 = .error (.unknownType ⟨64⟩) := by
  have hcut : renewedSession.CutOff [⟨64⟩] ⟨65⟩ :=
    Or.inr ⟨_, rfl, ⟨64⟩, List.mem_cons_self, by decide⟩
  have hmissing : renewedSession.registry.FirstUnknown ⟨65⟩ ⟨64⟩ :=
    Or.inr ⟨_, [⟨65⟩], [TypeId.object], rfl, rfl, by decide, rfl⟩
  exact ⟨rfl, rfl, reached_renewedSession, hcut,
    (unknownType_of_cutOff reached_renewedSession hcut).2 _ hmissing _ (.getter _ _ _)⟩

end Session

end LateBinding
