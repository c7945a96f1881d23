import LateBinding.Proofs.Run.Lengths
import LateBinding.Proofs.Session.Archived

/-!
# Arguments of the caller

A method or constructor is called through an invoker that somebody holds, or by name. The caller's
list of arguments stays as it is if the call fails, for whatever reason. If it succeeds, the list is
as long as before, the arguments that are passed by value are as before, and those that are passed
by reference are what the body has left.

Main statement: `arguments_after`.
-/

namespace LateBinding

open Run

variable {reg : Registry} {target : TypeId} {m : Member} {gone : List TypeId}

/-! ### Calls -/

/-- A call that takes arguments: through an invoker that is held, or by name. -/
inductive Call where
  | method (f : Method) (receiver : Value)
  | constructor (c : Construction)
  | named (subject : Subject) (name : String) (params : Option (List Param))
  | create (type : TypeId) (params : Option (List Param))

namespace Call

/-- What a call by name asks for. -/
def methodQuery (config : Config) (subject : Subject) (name : String)
    (params : Option (List Param)) (arguments : List Value) : Query where
  kinds := .single .method
  name := some name
  flags := subject.flags config none
  signature := .ofCall params arguments

/-- What a request for a new instance asks for. -/
def constructorQuery (params : Option (List Param)) (arguments : List Value) : Query where
  kinds := .single .constructor
  name := some constructorName
  flags := .instanceAny
  signature := .ofCall params arguments

/-- Makes the call; gives the result and the arguments after it. -/
def run (b : Binder) (arguments : List Value) : Call → Run (Value × List Value)
  | method f receiver => f.run b.toContext receiver arguments
  | constructor c => c.run b.toContext arguments
  | named subject name params => b.call subject name params arguments
  | create type params => b.create type params arguments

/-- Makes the call on the caller's list. -/
def inPlace (b : Binder) : Call → InPlace Value
  | method f receiver => f.runInPlace b.toContext receiver
  | constructor c => c.runInPlace b.toContext
  | named subject name params => do
    let arguments ← InPlace.given
    let type ← InPlace.lift (Run.ofExcept subject.typeId)
    let method ← InPlace.lift
      (b.method type name (.ofCall params arguments) (subject.flags b.config none))
    method.value.runInPlace b.toContext subject.receiver
  | create type params => do
    let arguments ← InPlace.given
    let construction ← InPlace.lift (b.constructor type (.ofCall params arguments))
    construction.value.runInPlace b.toContext

/-- The request that makes the call. -/
def toRequest (arguments : List Value) : Call → Request
  | method f receiver => .useMethod f receiver arguments
  | constructor c => .useConstructor c arguments
  | named subject name params => .call subject name params arguments
  | create type params => .create type params arguments

lemma perform_toRequest (b : Binder) (arguments : List Value) (call : Call) :
    (call.toRequest arguments).perform b =
      call.run b arguments >>= fun r => pure (.call r.1 r.2) := by
  cases call <;> rfl

/-- A request that fails has failed in its call. -/
lemma run_eq_error {b : Binder} {arguments : List Value} {call : Call} {s t : State} {e : Fault}
    (h : (call.toRequest arguments).perform b s = .error e t) :
    call.run b arguments s = .error e t := by
  rw [perform_toRequest] at h
  cases hrun : call.run b arguments s with
  | ok r u => cases (bind_eq_of_ok hrun).symm.trans h
  | error e' u =>
    cases (bind_eq_of_error hrun).symm.trans h
    rfl

/-- An invoker that is held was made, at whatever time, for a member that was declared then. -/
inductive Genuine : Call → Prop where
  | method {gone : List TypeId} {s : Session} {target : TypeId} {m : Member} {f : Method}
      (h : Session.Reached gone s) (hm : s.registry.Declares m)
      (hf : Method.ofMember s.registry target m = .ok f) (receiver : Value) :
      Genuine (.method f receiver)
  | constructor {gone : List TypeId} {s : Session} {m : Member} {c : Construction}
      (h : Session.Reached gone s) (hm : s.registry.Declares m)
      (hc : Construction.ofMember s.registry m = .ok c) : Genuine (.constructor c)
  | named (subject : Subject) (name : String) (params : Option (List Param)) :
      Genuine (.named subject name params)
  | create (type : TypeId) (params : Option (List Param)) : Genuine (.create type params)

/-- The member that is called: the one that the held invoker was made for, or one with the key of
the member that is found. -/
inductive Runs (reg : Registry) (config : Config) (arguments : List Value) :
    Call → Member → Prop where
  | method {reg' : Registry} {target : TypeId} {m : Member} {f : Method}
      (hf : Method.ofMember reg' target m = .ok f) (receiver : Value) :
      Runs reg config arguments (.method f receiver) m
  | constructor {reg' : Registry} {m : Member} {c : Construction}
      (hc : Construction.ofMember reg' m = .ok c) : Runs reg config arguments (.constructor c) m
  | named {subject : Subject} {type : TypeId} {name : String} {params : Option (List Param)}
      {m n : Member} (htype : subject.typeId = .ok type)
      (hfind : reg.find type (methodQuery config subject name params arguments) = .ok n)
      (hm : reg.Declares m) (hkey : CallKey.ofMember type m = .ofMember type n) :
      Runs reg config arguments (.named subject name params) m
  | create {type : TypeId} {params : Option (List Param)} {m n : Member}
      (hfind : reg.find type (constructorQuery params arguments) = .ok n)
      (hm : reg.Declares m) (hkey : CallKey.ofMember type m = .ofMember type n) :
      Runs reg config arguments (.create type params) m

end Call

/-- What the implementation of a member leaves of the arguments when it ends in a state: an accessor
of a slot takes the last one away, and a native body leaves what it likes. -/
inductive Member.Leaves (native : Native) (arguments : List Value) (s' : State) (m : Member) :
    List Value → Prop where
  | slot {i : Nat} (hbody : m.body = .method (.slot i)) :
      Leaves native arguments s' m arguments.dropLast
  | native {script : Script} {declaring : Shape} {receiver v : Value} {s : State}
      {left : List Value}
      (hbody : m.body = .method (.native script) ∨ m.body = .constructor script)
      (hrun : native script declaring receiver arguments s = .ok (v, left) s') :
      Leaves native arguments s' m left

/-! ### New invokers -/

/-- A new method goes where its member goes. -/
lemma Method.ofMember_eq_ok {f : Method} (h : ofMember reg target m = .ok f) :
    f.params = m.params ∧ f.arguments = .ofMember reg m ∧
      ((∃ script declaring, m.body = .method (.native script) ∧
          f.body = .native ⟨script, declaring⟩) ∨
        ∃ i p, m.body = .method (.slot i) ∧
          ((m.params = [] ∧ f.body = .read p) ∨ ∃ b, f.body = .write p b)) := by
  rw [ofMember] at h
  split at h
  · rename_i accessor hbody
    obtain ⟨body, hmade, h⟩ := exists_of_bind_eq_ok h
    obtain ⟨receiver, -, h⟩ := exists_of_bind_eq_ok h
    cases h
    refine ⟨rfl, rfl, ?_⟩
    cases accessor with
    | native script =>
      obtain ⟨bound, hbound, rfl⟩ := exists_of_map_eq_ok hmade
      obtain ⟨d, -, hbound⟩ := exists_of_bind_eq_ok hbound
      cases hbound
      exact Or.inl ⟨script, _, hbody, rfl⟩
    | slot i =>
      obtain ⟨p, -, hmade⟩ := exists_of_bind_eq_ok hmade
      refine Or.inr ⟨i, p, hbody, ?_⟩
      -- an accessor of a slot reads it, or writes its last argument to it
      split at hmade
      · rename_i hlast
        cases hmade
        exact Or.inl ⟨List.getLast?_eq_none_iff.mp hlast, rfl⟩
      · cases hmade
        exact Or.inr ⟨_, rfl⟩
  · cases h

lemma Construction.ofMember_eq_ok {c : Construction} (h : ofMember reg m = .ok c) :
    c.params = m.params ∧ c.arguments = .ofMember reg m ∧ m.body = .constructor c.body.body := by
  rw [ofMember] at h
  split at h
  · rename_i body hbody
    obtain ⟨owner, -, h⟩ := exists_of_bind_eq_ok h
    obtain ⟨inherited, -, h⟩ := exists_of_bind_eq_ok h
    cases h
    exact ⟨rfl, rfl, hbody⟩
  · cases h

/-- A new construction is tidy. -/
lemma Construction.tidy_ofMember {c : Construction} (h : ofMember reg m = .ok c) : c.Tidy := by
  obtain ⟨hparams, harguments, -⟩ := ofMember_eq_ok h
  rw [Tidy, harguments, hparams]
  exact List.length_map _

namespace Session

variable {s s₀ : Session} {native : Native} {arguments after : List Value} {s' : State} {v : Value}
  {call : Call} {type : TypeId} {q : Query}

/-- A new method is tidy. -/
lemma Reached.tidy_ofMember (h : Reached gone s) (hm : s.registry.Declares m) {f : Method}
    (hf : Method.ofMember s.registry target m = .ok f) : f.Tidy := by
  obtain ⟨hparams, harguments, hbody⟩ := Method.ofMember_eq_ok hf
  obtain ⟨d, hd, hmem⟩ := hm
  refine ⟨by rw [harguments, hparams]; exact List.length_map _, ?_⟩
  rcases hbody with ⟨script, declaring, -, hbody⟩ | ⟨i, p, hslot, -⟩
  · exact Or.inl ⟨_, hbody⟩
  · exact Or.inr (hparams ▸ (h.grouped hd).byRef_eq_false hmem hslot)

/-! ### What is called -/

section Called

variable {ctx : Context}

lemma leaves_of_perform {f : Method} {receiver : Value} {left : List Value} {st : State}
    (hf : Method.ofMember reg target m = .ok f) (hlength : arguments.length = f.params.length)
    (h : f.perform ctx receiver arguments st = .ok (v, left) s') :
    m.Leaves ctx.native arguments s' left := by
  obtain ⟨hparams, -, ⟨script, declaring, hbody, hf⟩ | ⟨i, p, hslot, hf⟩⟩ :=
    Method.ofMember_eq_ok hf
  · -- a native body leaves what it likes
    rw [Method.perform, hf] at h
    exact .native (Or.inl hbody) (BoundScript.native_eq_ok h)
  · rcases hf with ⟨hnone, hf⟩ | ⟨b, hf⟩
    · -- a getter takes no arguments
      rw [Method.perform, hf] at h
      obtain ⟨_, t, -, hpure⟩ := exists_of_ok h
      cases hpure
      obtain rfl : arguments = [] := by
        rwa [hparams, hnone, List.length_nil, List.length_eq_zero_iff] at hlength
      exact .slot hslot
    · -- a setter leaves its argument as it is
      rw [Method.perform, hf] at h
      obtain ⟨_, t, -, hpure⟩ := exists_of_ok h
      cases hpure
      exact .slot hslot

/-- A successful call of a new method. -/
lemma Reached.called_method (h : Reached gone s) (hm : s.registry.Declares m) {f : Method}
    (hf : Method.ofMember s.registry target m = .ok f) (hn : ctx.native.KeepsLength)
    {receiver : Value} {st : State}
    (hrun : f.run ctx receiver arguments st = .ok (v, after) s') : ∃ left,
      m.Leaves ctx.native arguments s' left ∧ arguments.length = m.params.length ∧
        Passed m.params arguments left after := by
  obtain ⟨hparams, -⟩ := Method.ofMember_eq_ok hf
  obtain ⟨r, left, hperform, hlength, hpassed⟩ :=
    Method.exists_perform (h.tidy_ofMember hm hf) hn hrun
  exact ⟨left, leaves_of_perform hf hlength hperform, hparams ▸ hlength, hparams ▸ hpassed⟩

/-- A successful call of a new construction. -/
lemma called_constructor {c : Construction} (hc : Construction.ofMember reg m = .ok c)
    (hn : ctx.native.KeepsLength) {st : State}
    (hrun : c.run ctx arguments st = .ok (v, after) s') : ∃ left,
      m.Leaves ctx.native arguments s' left ∧ arguments.length = m.params.length ∧
        Passed m.params arguments left after := by
  obtain ⟨hparams, -, hbody⟩ := Construction.ofMember_eq_ok hc
  obtain ⟨made, t, result, left, hnative, hlength, hpassed⟩ :=
    Construction.exists_native (Construction.tidy_ofMember hc) hn hrun
  exact ⟨left, .native (Or.inr hbody) hnative, hparams ▸ hlength, hparams ▸ hpassed⟩

end Called

/-- Whoever asks for an invoker that knows nothing of the type of the value gets one for a member
with the key of the member that is found. -/
lemma Sound.exists_of_obtain (hs : Sound gone s) (sort : InvokerSort)
    (hq : q.signature.OfRequest)
    (hrefresh : ∀ (m : Member) (x : sort.Item), sort.refresh s.registry m.valueType x = x)
    {held : Stamped sort.Item} {t : State}
    (h : (Binder.of s.registry s.config native).obtain sort type q s.state = .ok held t) :
    ∃ m n, s.registry.find type q = .ok n ∧ s.registry.Declares m ∧
      CallKey.ofMember type m = .ofMember type n ∧
      sort.compile s.registry type m = .ok held.value := by
  cases hfind : s.registry.find type q with
  | error e =>
    obtain ⟨s₁, -, -, hmember⟩ := Binder.member_eq hs.caches.lookups hq s.config native type
    rw [hfind] at hmember
    cases (bind_eq_of_error hmember).symm.trans h
  | ok n =>
    obtain ⟨s₁, hs₁, -, hobtain⟩ :=
      Binder.obtain_eq hs.caches.lookups hq hfind s.config native sort
    have hn := hs.valid.declares_of_find hfind
    have hinvokers := hs.caches.invokers.congr hs₁.memo
    obtain ⟨r, hr, hfetch⟩ := Run.fetch_cases sort.category (sort.key (.ofMember type n))
      (fun _ => sort.compile s.registry type n) s₁
    rw [hobtain, hfetch] at h
    cases hr with
    | hit hheld =>
      cases h
      -- what was held already has been compiled for a member with this key
      rcases hinvokers sort _ held hheld with ⟨rank, hrank⟩ | ⟨m, hm⟩
      · exact absurd hrank (hs.valid.ofMember_ne_ofRank hn type rank)
      · exact ⟨m, n, rfl, hm.declared hs.valid, hm.key.symm, hm.made.trans (by rw [hrefresh])⟩
    | stored _ hmade =>
      cases h
      exact ⟨n, n, rfl, hn, rfl, hmade⟩
    | failed => cases h

/-- The method that a call by name gets was made for a member that is declared. -/
lemma Sound.exists_of_method (hs : Sound gone s) {name : String} {params : Option (List Param)}
    {subject : Subject} {held : Stamped Method} {t : State}
    (h : (Binder.of s.registry s.config native).method type name (.ofCall params arguments)
      (subject.flags s.config none) s.state = .ok held t) :
    ∃ m n, s.registry.find type (Call.methodQuery s.config subject name params arguments) = .ok n ∧
      s.registry.Declares m ∧ CallKey.ofMember type m = .ofMember type n ∧
      Method.ofMember s.registry type m = .ok held.value :=
  hs.exists_of_obtain .method (Signature.ofCall_ofRequest params arguments) (fun _ _ => rfl) h

/-- The construction that a request by type gets was made for a member that is declared. -/
lemma Sound.exists_of_constructor (hs : Sound gone s) {params : Option (List Param)}
    {held : Stamped Construction} {t : State}
    (h : (Binder.of s.registry s.config native).constructor type (.ofCall params arguments)
      s.state = .ok held t) :
    ∃ m n, s.registry.find type (Call.constructorQuery params arguments) = .ok n ∧
      s.registry.Declares m ∧ CallKey.ofMember type m = .ofMember type n ∧
      Construction.ofMember s.registry m = .ok held.value :=
  hs.exists_of_obtain .constructor (Signature.ofCall_ofRequest params arguments)
    (fun _ _ => rfl) h

section Main

variable (h : Reached gone s) (hcall : call.Genuine) (hn : native.KeepsLength)
include h hcall hn

lemma Reached.inPlace_eq (arguments : List Value) :
    call.inPlace (.of s.registry s.config native) (arguments, s.state) =
      InPlace.ends arguments
        (call.run (.of s.registry s.config native) arguments s.state) := by
  cases hcall with
  | method h₀ hm hf receiver =>
    exact Method.runInPlace_eq (h₀.tidy_ofMember hm hf) hn receiver arguments s.state
  | constructor h₀ hm hc =>
    exact Construction.runInPlace_eq (Construction.tidy_ofMember hc) hn arguments s.state
  | named subject name params =>
    change (InPlace.lift _ >>= _) (arguments, s.state) = _
    refine InPlace.lift_bind_eq fun type s₁ htype => ?_
    obtain ⟨-, rfl⟩ := ofExcept_eq_ok htype
    refine InPlace.lift_bind_eq fun held s₂ hheld => ?_
    obtain ⟨m, n, -, hm, -, hmade⟩ := h.sound.exists_of_method hheld
    exact Method.runInPlace_eq (h.tidy_ofMember hm hmade) hn _ arguments s₂
  | create type params =>
    change (InPlace.lift _ >>= _) (arguments, s.state) = _
    refine InPlace.lift_bind_eq fun held s₁ hheld => ?_
    obtain ⟨m, n, -, hm, -, hmade⟩ := h.sound.exists_of_constructor hheld
    exact Construction.runInPlace_eq (Construction.tidy_ofMember hmade) hn arguments s₁

lemma Reached.exists_called
    (hrun : call.run (.of s.registry s.config native) arguments s.state = .ok (v, after) s') :
    ∃ m left, call.Runs s.registry s.config arguments m ∧ m.Leaves native arguments s' left ∧
      arguments.length = m.params.length ∧ Passed m.params arguments left after := by
  cases hcall with
  | method h₀ hm hf receiver =>
    obtain ⟨left, hleft⟩ := h₀.called_method hm hf hn hrun
    exact ⟨_, left, .method hf receiver, hleft⟩
  | constructor h₀ hm hc =>
    obtain ⟨left, hleft⟩ := called_constructor hc hn hrun
    exact ⟨_, left, .constructor hc, hleft⟩
  | named subject name params =>
    obtain ⟨type, s₁, hsubject, hrun₁⟩ := exists_of_ok hrun
    obtain ⟨htype, rfl⟩ := ofExcept_eq_ok hsubject
    obtain ⟨held, s₂, hheld, hrun₂⟩ := exists_of_ok hrun₁
    obtain ⟨m, n, hfind, hm, hkey, hmade⟩ := h.sound.exists_of_method hheld
    obtain ⟨left, hleft⟩ := h.called_method hm hmade hn hrun₂
    exact ⟨m, left, .named htype hfind hm hkey, hleft⟩
  | create type params =>
    obtain ⟨held, s₁, hheld, hrun₁⟩ := exists_of_ok hrun
    obtain ⟨m, n, hfind, hm, hkey, hmade⟩ := h.sound.exists_of_constructor hheld
    obtain ⟨left, hleft⟩ := called_constructor hmade hn hrun₁
    exact ⟨m, left, .create hfind hm hkey, hleft⟩

/-- The call in place ends as the call does that gives a new list, so no position is out of range.
If it fails, for whatever reason, the caller's list is as it was. If it succeeds, a member was
called that takes as many arguments as there are; the list is as long as before, and what it holds
at the positions that are passed by reference is what the member's body has left there when it
ended. -/
theorem arguments_after (arguments : List Value) :
    let b := Binder.of s.registry s.config native
    call.inPlace b (arguments, s.state) =
        InPlace.ends arguments (call.run b arguments s.state) ∧
      (∀ e after s', call.inPlace b (arguments, s.state) = .error e (after, s') →
        after = arguments) ∧
      ∀ v after s', call.inPlace b (arguments, s.state) = .ok v (after, s') →
        ∃ m left, call.Runs s.registry s.config arguments m ∧
          m.Leaves native arguments s' left ∧ arguments.length = m.params.length ∧
          Passed m.params arguments left after := by
  intro b
  have hrun := h.inPlace_eq hcall hn arguments
  refine ⟨hrun, fun e after s' he => ?_, fun v after s' hv => ?_⟩
  · -- a call that fails leaves the list alone
    rw [hrun] at he
    cases hend : call.run b arguments s.state with
    | ok r t =>
      rw [hend] at he
      cases he
    | error e t =>
      rw [hend] at he
      cases he
      rfl
  · rw [hrun] at hv
    cases hend : call.run b arguments s.state with
    | ok r t =>
      rw [hend] at hv
      cases hv
      exact h.exists_called hcall hn hend
    | error e t =>
      rw [hend] at hv
      cases hv

end Main

/-! ### A method that sets what it gets -/

/-- The parameters of a method that takes one argument by reference and one by value. -/
def settingParams : List Param := [⟨TypeId.int, true⟩, ⟨TypeId.int, false⟩]

/-- A static method that sets both of its arguments before it goes on. -/
def settingSpec (name : String) (more : Script) : MemberSpec :=
  .method {
    name
    params := settingParams
    isStatic := true
    body := [.setArgument 0 (.literal (.int 7)), .setArgument 1 (.literal (.int 8))] ++ more }

/-- A type with two such methods, of which the one then fails. -/
def settingTypeSpec : TypeSpec where
  name := "Setting"
  members := [settingSpec "Set" [], settingSpec "Spoil" [.refuse "spoilt"]]

/-- The session in which the type is known. -/
def settingSession : Session := (({} : Session).step (.register settingTypeSpec)).2

lemma reached_settingSession : Reached [] settingSession :=
  (Reached.start {}).step_register (by decide)

/-- The call of a method of the type. -/
def settingCall (name : String) : Call := .named (.type ⟨64⟩) name (some settingParams)

/-- The call that succeeds changes the first argument only, and the one that fails changes none. -/
theorem arguments_after_settingSession :
    ∃ (m : Member) (left : List Value) (s' s'' : State) (e : Fault),
    (settingCall "Set").inPlace settingSession.binder ([.int 1, .int 2], settingSession.state) =
        .ok .null ([.int 7, .int 2], s') ∧
      m.Leaves settingSession.binder.native [.int 1, .int 2] s' left ∧
      Passed m.params [.int 1, .int 2] left [.int 7, .int 2] ∧
      (settingCall "Spoil").inPlace settingSession.binder ([.int 1, .int 2], settingSession.state) =
        .error e ([.int 1, .int 2], s'') := by
  have hn := Script.keepsLength settingSession.registry settingSession.config Script.maxDepth
  obtain ⟨-, -, hset⟩ := arguments_after reached_settingSession
    (.named (.type ⟨64⟩) "Set" (some settingParams)) hn [.int 1, .int 2]
  have hend : (settingCall "Set").inPlace settingSession.binder
      ([.int 1, .int 2], settingSession.state) = .ok .null ([.int 7, .int 2], _) := rfl
  obtain ⟨m, left, -, hleaves, -, hpassed⟩ := hset _ _ _ hend
  exact ⟨m, left, _, _, _, hend, hleaves, hpassed, rfl⟩

end Session

end LateBinding
