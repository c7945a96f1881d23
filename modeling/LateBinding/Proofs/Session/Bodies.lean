import Mathlib.Tactic.Lemma
import LateBinding.Session
import LateBinding.Proofs.Run.Accessors
import LateBinding.Proofs.Run.InPlace

/-!
# Constructors in turn

A construction makes one new instance and runs native bodies on it, one after the other: those of
the ancestors, and then that of the chosen constructor. The first one that fails ends it. Otherwise
the instance is handed out, a value type as an unwrapped copy of what is in its wrapper.

While the construction is under way its bodies may do anything to the session, register and unload
types included. Each body needs the descriptor of the type that declares it, so before each turn it
is asked anew whether this type still exists, and if it does not, the construction ends there.
Where the bodies leave the registry alone, all this is what `Construction.run` does.

Main statements: `Construction.exists_runAmong_eq`, `Construction.runAmongInPlace_eq` and
`Construction.runAmong_within`.
-/

namespace LateBinding

open Run

variable {α β : Type} {held : List TypeId} {made : Value} {arguments left : List Value}
  {s s' : Session} {script : BoundScript} {scripts : List BoundScript}

/-! ### Operations on sessions -/

/-- What native bodies do that may also register and unload types. -/
abbrev FreeNative :=
  Script → Shape → Value → List Value → EStateM Fault Session (Value × List Value)

/-- An operation on the store and the caches of a session. -/
def Run.within (x : Run α) : EStateM Fault Session α := fun s =>
  match x s.state with
  | .ok a state => .ok a { s with state }
  | .error e state => .error e { s with state }

/-- Native bodies that leave the registry alone. -/
def Native.within (native : Native) : FreeNative := fun body declaring receiver arguments =>
  (native body declaring receiver arguments).within

/-- Whether the descriptor of a type exists. Besides the session there are the callers and the calls
in progress, which hold on to the types in a list. -/
def Session.keeps (s : Session) (held : List TypeId) (type : TypeId) : Bool :=
  s.registry.isAlive s.state.store type || held.contains type

/-- The descriptor of the type must still exist. -/
def Session.alive (held : List TypeId) (type : TypeId) : EStateM Fault Session Unit := do
  unless (← get).keeps held type do
    throw (.unknownType type)

lemma Run.within_ofExcept_eq_ok {x : Except Fault α} {a : α}
    (h : Run.within (Run.ofExcept x) s = .ok a s') : x = .ok a ∧ s' = s := by
  cases x with
  | ok b =>
    cases h
    exact ⟨rfl, rfl⟩
  | error e => cases h

/-- If both go on alike after a common start, they end alike. -/
lemma Run.within_bind_eq {x : Run α} {y : EStateM Fault Session α} {f : α → Run β}
    {g : α → EStateM Fault Session β} (hstart : y s = x.within s)
    (h : ∀ a t, t.registry = s.registry → g a t = (f a).within t) :
    (y >>= g) s = (x >>= f).within s := by
  rw [within] at hstart ⊢
  cases hx : x s.state with
  | ok a state =>
    rw [hx] at hstart
    rw [bind_eq_of_ok hx, bind_eq_of_ok hstart, h a { s with state } rfl]
    rfl
  | error e state =>
    rw [hx] at hstart
    rw [bind_eq_of_error hx, bind_eq_of_error hstart]

lemma Session.alive_of_keeps {type : TypeId} (h : s.keeps held type = true) :
    Session.alive held type s = .ok () s := by
  change (if s.keeps held type = true then _ else _ : EStateM Fault Session Unit) s = _
  rw [if_pos h]
  rfl

lemma Session.alive_of_not_keeps {type : TypeId} (h : s.keeps held type = false) :
    Session.alive held type s = .error (.unknownType type) s := by
  change (if s.keeps held type = true then _ else _ : EStateM Fault Session Unit) s = _
  rw [if_neg (Bool.eq_false_iff.mp h)]
  rfl

/-- A known type exists, whoever else holds on to it. -/
lemma Session.keeps_of_get? {type : TypeId} {d : Descriptor} (h : s.registry.get? type = some d)
    (held : List TypeId) : s.keeps held type = true := by
  rw [keeps, Registry.isAlive_of_get? h, Bool.true_or]

/-! ### Constructions among changes -/

/-- Runs a native body if the descriptor of its type exists. -/
def BoundScript.runAmong (native : FreeNative) (held : List TypeId) (script : BoundScript)
    (receiver : Value) (arguments : List Value) : EStateM Fault Session (Value × List Value) := do
  Session.alive held script.declaring.id
  native script.body script.declaring receiver arguments

namespace Construction

/-- Runs the inherited constructors on an instance. -/
def inheritAmong (native : FreeNative) (held : List TypeId) (made : Value) :
    List BoundScript → EStateM Fault Session Unit
  | [] => pure ()
  | script :: scripts => do
    let _ ← script.runAmong native held made []
    inheritAmong native held made scripts

/-- Makes an instance. The instance holds on to its type while the bodies run. -/
def runAmong (native : FreeNative) (held : List TypeId) (c : Construction)
    (arguments : List Value) : EStateM Fault Session (Value × List Value) := do
  Run.within (Run.ofExcept (c.arguments.check arguments))
  Session.alive held c.owner.id
  let made ← Run.within c.blank
  inheritAmong native (c.owner.id :: held) made c.inherited
  let (_, left) ← c.body.runAmong native (c.owner.id :: held) made arguments
  let st := (← get).state.store
  pure (st.unwrap made, writeBack c.params arguments left)

/-- Makes an instance with the arguments on the caller's list. -/
def runAmongInPlace (native : FreeNative) (held : List TypeId) (c : Construction) :
    InPlaceOn Session Value := do
  let arguments ← InPlace.given
  InPlace.lift (Run.within (Run.ofExcept (c.arguments.check arguments)))
  InPlace.lift (Session.alive held c.owner.id)
  let made ← InPlace.lift (Run.within c.blank)
  InPlace.lift (inheritAmong native (c.owner.id :: held) made c.inherited)
  let (_, left) ← InPlace.lift (c.body.runAmong native (c.owner.id :: held) made arguments)
  InPlace.writeBack (refPositions c.params) left
  let st := (← get).2.state.store
  pure (st.unwrap made)

end Construction

/-! ### Turns -/

/-- A native body that is to run, and the arguments that it is to get. -/
structure BodyCall extends BoundScript where
  arguments : List Value

/-- Runs the body on an instance. -/
def BodyCall.run (native : FreeNative) (made : Value) (call : BodyCall) :
    EStateM Fault Session (Value × List Value) :=
  native call.body call.declaring made call.arguments

/-- Bodies run on one instance, each from the session in which the one before it has ended. The
first one whose type no longer exists, or that fails, ends it all; otherwise what counts is how the
last one ends. -/
inductive RunsInTurn (native : FreeNative) (exist : Session → TypeId → Prop) (made : Value) :
    List BodyCall → Session → EStateM.Result Fault Session (Value × List Value) → Prop where
  | gone {call : BodyCall} {rest : List BodyCall} {s : Session}
      (hgone : ¬ exist s call.declaring.id) :
      RunsInTurn native exist made (call :: rest) s (.error (.unknownType call.declaring.id) s)
  | failed {call : BodyCall} {rest : List BodyCall} {s s' : Session} {e : Fault}
      (hexist : exist s call.declaring.id) (hcall : call.run native made s = .error e s') :
      RunsInTurn native exist made (call :: rest) s (.error e s')
  | last {call : BodyCall} {s s' : Session} {result : Value × List Value}
      (hexist : exist s call.declaring.id) (hcall : call.run native made s = .ok result s') :
      RunsInTurn native exist made [call] s (.ok result s')
  | next {call following : BodyCall} {rest : List BodyCall} {s s' : Session}
      {result : Value × List Value} {ended : EStateM.Result Fault Session (Value × List Value)}
      (hexist : exist s call.declaring.id) (hcall : call.run native made s = .ok result s')
      (hrest : RunsInTurn native exist made (following :: rest) s' ended) :
      RunsInTurn native exist made (call :: following :: rest) s ended

/-- The types that declare scripts. -/
def declaringTypes (scripts : List BoundScript) : List TypeId := scripts.map (·.declaring.id)

lemma mem_declaringTypes (h : script ∈ scripts) : script.declaring.id ∈ declaringTypes scripts :=
  List.mem_map_of_mem h

/-- The session knows all the types. -/
def Session.KnowsAll (s : Session) (types : List TypeId) : Prop :=
  ∀ t ∈ types, ∃ d, s.registry.get? t = some d

/-- Native bodies among which those of the scripts unload none of the types that declare these
scripts. They may unload all others, and register what they like. -/
def FreeNative.Spares (native : FreeNative) (scripts : List BoundScript) : Prop :=
  ∀ script ∈ scripts, ∀ receiver arguments s result s', s.KnowsAll (declaringTypes scripts) →
    native script.body script.declaring receiver arguments s = .ok result s' →
    s'.KnowsAll (declaringTypes scripts)

/-- Native bodies may change the arguments that they get, but not how many there are. -/
def FreeNative.KeepsLength (native : FreeNative) : Prop :=
  ∀ body declaring receiver arguments s v left s',
    native body declaring receiver arguments s = .ok (v, left) s' → left.length = arguments.length

lemma Native.spares_within (native : Native) (scripts : List BoundScript) :
    native.within.Spares scripts := by
  intro script _ receiver arguments s result s' hs h
  rw [within, Run.within] at h
  split at h <;> cases h
  exact hs

/-- If no body unloads a type of the others, none of them misses its turn. -/
lemma RunsInTurn.spared {native : FreeNative} {calls : List BodyCall}
    {ended : EStateM.Result Fault Session (Value × List Value)}
    (h : RunsInTurn native (·.keeps held ·) made calls s ended) (hnative : native.Spares scripts)
    (hcalls : ∀ call ∈ calls, call.toBoundScript ∈ scripts)
    (hs : s.KnowsAll (declaringTypes scripts)) :
    RunsInTurn native (fun _ _ => True) made calls s ended := by
  induction h with
  | gone hgone =>
    obtain ⟨d, hd⟩ := hs _ (mem_declaringTypes (hcalls _ List.mem_cons_self))
    exact absurd (Session.keeps_of_get? hd held) hgone
  | failed _ hcall => exact .failed trivial hcall
  | last _ hcall => exact .last trivial hcall
  | next _ hcall _ ih =>
    exact .next trivial hcall (ih (fun call hmem => hcalls call (List.mem_cons_of_mem _ hmem))
      (hnative _ (hcalls _ List.mem_cons_self) _ _ _ _ _ hs hcall))

/-! ### Instances -/

namespace Descriptor

variable (d : Descriptor) (r : Ref) (st : Store)

/-- The instance that constructors work on. -/
def unfinished : Value := if d.isValueType then .wrapped d.toShape r else .object d.toShape r

/-- The instance that is handed out: for a value type a copy of what is in the wrapper. -/
def finished : Value :=
  if d.isValueType then .struct d.toShape (st.cell r) else .object d.toShape r

lemma unwrap_unfinished : st.unwrap (d.unfinished r) = d.finished r st := by
  rw [unfinished, finished]
  split <;> rfl

lemma slots?_unfinished : st.slots? (d.unfinished r) = some (st.cell r) := by
  rw [unfinished]
  split <;> rfl

/-- What constructors have written to the instance is in what is handed out. -/
lemma slots?_finished : st.slots? (d.finished r st) = st.slots? (d.unfinished r) := by
  rw [slots?_unfinished, finished]
  split <;> rfl

/-- How a construction ends once the bodies have run. -/
def handOut (params : List Param) (arguments : List Value) :
    EStateM.Result Fault Session (Value × List Value) →
      EStateM.Result Fault Session (Value × List Value)
  | .ok (_, left) s => .ok (d.finished r s.state.store, writeBack params arguments left) s
  | .error e s => .error e s

end Descriptor

/-- The session with one more instance, every slot of it at its start. -/
def Session.addInstance (s : Session) (d : Descriptor) : Session :=
  { s with state := { s.state with store := s.state.store.addCell d.defaults } }

/-! ### Constructions in turn -/

namespace Construction

variable {native : FreeNative} {c : Construction}

lemma blank_eq (c : Construction) (s : State) :
    c.blank s = .ok (c.owner.unfinished s.store.nextRef)
      { s with store := s.store.addCell c.owner.defaults } := by
  cases h : c.owner.isValueType <;>
    simp only [blank, Run.step, Store.instantiate, Store.wrap, Descriptor.unfinished, h] <;> rfl

lemma within_blank_eq (c : Construction) (s : Session) :
    Run.within c.blank s =
      .ok (c.owner.unfinished s.state.store.nextRef) (s.addInstance c.owner) := by
  rw [Run.within, blank_eq]
  rfl

lemma within_check_eq (hcheck : c.arguments.check arguments = .ok ()) :
    Run.within (Run.ofExcept (c.arguments.check arguments)) s = .ok () s := by
  rw [hcheck]
  rfl

/-- The inherited constructors and then the chosen one run in turn. -/
lemma exists_runsInTurn (native : FreeNative) (held : List TypeId) (made : Value)
    (script : BoundScript) (arguments : List Value) (scripts : List BoundScript) (s : Session) :
    ∃ ended, RunsInTurn native (·.keeps held ·) made
        (scripts.map (⟨·, []⟩) ++ [⟨script, arguments⟩]) s ended ∧
      (inheritAmong native held made scripts >>= fun _ =>
        script.runAmong native held made arguments) s = ended := by
  induction scripts generalizing s with
  | nil =>
    refine ⟨_, ?_, rfl⟩
    change RunsInTurn _ _ _ [⟨script, arguments⟩] s (script.runAmong native held made arguments s)
    cases hkeeps : s.keeps held script.declaring.id with
    | false =>
      rw [BoundScript.runAmong, bind_eq_of_error (Session.alive_of_not_keeps hkeeps)]
      exact .gone (Bool.eq_false_iff.mp hkeeps)
    | true =>
      rw [BoundScript.runAmong, bind_eq_of_ok (Session.alive_of_keeps hkeeps)]
      cases hcall : native script.body script.declaring made arguments s with
      | ok result s' => exact .last hkeeps hcall
      | error e s' => exact .failed hkeeps hcall
  | cons inherited scripts ih =>
    rw [inheritAmong, bind_assoc, BoundScript.runAmong, bind_assoc]
    cases hkeeps : s.keeps held inherited.declaring.id with
    | false =>
      rw [bind_eq_of_error (Session.alive_of_not_keeps hkeeps)]
      exact ⟨_, .gone (Bool.eq_false_iff.mp hkeeps), rfl⟩
    | true =>
      rw [bind_eq_of_ok (Session.alive_of_keeps hkeeps)]
      cases hcall : native inherited.body inherited.declaring made [] s with
      | error e s' => exact ⟨_, .failed hkeeps hcall, bind_eq_of_error hcall⟩
      | ok result s' =>
        obtain ⟨ended, hturn, hended⟩ := ih s'
        refine ⟨ended, ?_, (bind_eq_of_ok hcall).trans hended⟩
        cases scripts with
        | nil => exact .next hkeeps hcall hturn
        | cons following scripts => exact .next hkeeps hcall hturn

/-- Refused arguments end a construction before anything is made. -/
lemma runAmong_of_refused {e : Fault} (he : c.arguments.check arguments = .error e) :
    c.runAmong native held arguments s = .error e s := by
  rw [runAmong, he]
  rfl

lemma runAmong_of_gone (hcheck : c.arguments.check arguments = .ok ())
    (hgone : s.keeps held c.owner.id = false) :
    c.runAmong native held arguments s = .error (.unknownType c.owner.id) s := by
  rw [runAmong, bind_eq_of_ok (within_check_eq hcheck),
    bind_eq_of_error (Session.alive_of_not_keeps hgone)]

/-- A construction whose arguments pass makes one new instance, runs the bodies on it in turn and
hands it out if all of them have run. -/
theorem exists_runAmong_eq (native : FreeNative) (hcheck : c.arguments.check arguments = .ok ())
    (howner : s.keeps held c.owner.id = true) :
    ∃ ended, RunsInTurn native (·.keeps (c.owner.id :: held) ·)
        (c.owner.unfinished s.state.store.nextRef)
        (c.inherited.map (⟨·, []⟩) ++ [⟨c.body, arguments⟩]) (s.addInstance c.owner) ended ∧
      c.runAmong native held arguments s =
        c.owner.handOut s.state.store.nextRef c.params arguments ended := by
  obtain ⟨ended, hturn, hended⟩ := exists_runsInTurn native (c.owner.id :: held)
    (c.owner.unfinished s.state.store.nextRef) c.body arguments c.inherited (s.addInstance c.owner)
  refine ⟨ended, hturn, ?_⟩
  rw [runAmong, bind_eq_of_ok (within_check_eq hcheck),
    bind_eq_of_ok (Session.alive_of_keeps howner), bind_eq_of_ok (within_blank_eq c s),
    ← bind_assoc]
  cases ended with
  | error e s' =>
    rw [bind_eq_of_error hended]
    rfl
  | ok result s' =>
    rw [bind_eq_of_ok hended, Descriptor.handOut, ← Descriptor.unwrap_unfinished]
    rfl

/-- On the caller's list a construction ends as it does when it gives a new list, whatever its
bodies do to the session. -/
theorem runAmongInPlace_eq (hc : c.Tidy) (hn : native.KeepsLength) (arguments : List Value)
    (s : Session) : c.runAmongInPlace native held (arguments, s) =
      InPlace.ends arguments (c.runAmong native held arguments s) := by
  change (InPlace.lift _ >>= _) (arguments, s) = _
  refine InPlace.lift_bind_eq fun _ s₁ hguard => ?_
  obtain ⟨hcheck, rfl⟩ := within_ofExcept_eq_ok hguard
  refine InPlace.lift_bind_eq fun _ s₂ _ => ?_
  refine InPlace.lift_bind_eq fun made s₃ _ => ?_
  refine InPlace.lift_bind_eq fun _ s₄ _ => ?_
  refine InPlace.lift_bind_eq fun ⟨v, left⟩ s₅ hbody => ?_
  obtain ⟨_, s₆, -, hnative⟩ := exists_of_ok hbody
  have hlength := (ArgumentsGuard.length_eq hcheck).trans hc
  have hleft := hn _ _ _ _ _ _ _ _ hnative
  exact InPlace.writeBack_bind_eq hlength (reaches_of_length_eq (hleft.trans hlength)) _

/-! ### Bodies that leave the registry alone -/

section Within

variable {reg : Registry} {native : Native}

/-- A script of a known type has its turn. -/
lemma runAmong_within_script (hs : s.registry = reg)
    (hscript : ∃ d, reg.get? script.declaring.id = some d) (made : Value)
    (arguments : List Value) : script.runAmong native.within held made arguments s =
      (script.run ⟨reg, native⟩ made arguments).within s := by
  obtain ⟨d, hd⟩ := hscript
  have hkeeps := Session.keeps_of_get? (s := s) (hs ▸ hd) held
  rw [BoundScript.runAmong, bind_eq_of_ok (Session.alive_of_keeps hkeeps),
    BoundScript.run_of_get? hd]
  rfl

lemma inheritAmong_within (hs : s.registry = reg)
    (hscripts : ∀ script ∈ scripts, ∃ d, reg.get? script.declaring.id = some d) (made : Value) :
    inheritAmong native.within held made scripts s =
      (inherit ⟨reg, native⟩ made scripts).within s := by
  induction scripts generalizing s with
  | nil => rfl
  | cons script scripts ih =>
    have hrun : inherit ⟨reg, native⟩ made (script :: scripts) =
        script.run ⟨reg, native⟩ made [] >>= fun _ => inherit ⟨reg, native⟩ made scripts := by
      rw [inherit]
      simp only [Functor.discard, LawfulFunctor.map_const, Function.comp_apply, bind_map_left]
    rw [hrun, inheritAmong]
    exact within_bind_eq
      (runAmong_within_script hs (hscripts script List.mem_cons_self) made [])
      fun _ t ht =>
        ih (ht.trans hs) fun script hmem => hscripts script (List.mem_cons_of_mem _ hmem)

/-- Among bodies that leave the registry alone, a construction of known types is the one that
runs. -/
theorem runAmong_within (hs : s.registry = reg) (howner : reg.get? c.owner.id = some c.owner)
    (hbody : c.body.declaring.id = c.owner.id)
    (hinherited : ∀ script ∈ c.inherited, ∃ d, reg.get? script.declaring.id = some d)
    (held : List TypeId) (arguments : List Value) :
    c.runAmong native.within held arguments s = (c.run ⟨reg, native⟩ arguments).within s := by
  refine within_bind_eq rfl fun _ s₁ hs₁ => ?_
  refine within_bind_eq ?_ fun _ s₂ hs₂ => ?_
  · have hkeeps := Session.keeps_of_get? (s := s₁) ((hs₁.trans hs) ▸ howner) held
    rw [Session.alive_of_keeps hkeeps, hbody, Run.alive_of_get? howner]
    rfl
  refine within_bind_eq rfl fun made s₃ hs₃ => ?_
  have hreg := hs₃.trans (hs₂.trans (hs₁.trans hs))
  refine within_bind_eq (inheritAmong_within hreg hinherited made) fun _ s₄ hs₄ => ?_
  have hscript : ∃ d, reg.get? c.body.declaring.id = some d := ⟨c.owner, hbody ▸ howner⟩
  exact within_bind_eq (runAmong_within_script (hs₄.trans hreg) hscript made arguments)
    fun _ _ _ => rfl

end Within

end Construction

end LateBinding
