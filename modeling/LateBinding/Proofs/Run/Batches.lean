import LateBinding.Proofs.Caches
import LateBinding.Proofs.Run.Binder

/-!
# Several values in turn

To write several members means to find all of them, to make a setter for each of them, and only then
to write the values one after the other. What is written before a setter fails stays written, and so
does what the failing one has done itself; a setter that goes to a place has done nothing.

Main statement: `Context.setsAll`.
-/

namespace LateBinding

open Run

variable {reg : Registry} {ctx : Context} {type : TypeId} {flags : Flags} {names : List String}
  {receiver v new : Value}

/-! ### Writing in turn -/

/-- Setters write values to one receiver, each from the state in which the one before it has
ended. -/
inductive WritesInTurn (ctx : Context) (receiver : Value) :
    List (Setter × Value) → State → State → Prop where
  | nil (s : State) : WritesInTurn ctx receiver [] s s
  | next {setter : Setter} {v : Value} {rest : List (Setter × Value)} {s s' t : State}
      (hwrite : setter.run ctx receiver v s = .ok () s')
      (hrest : WritesInTurn ctx receiver rest s' t) :
      WritesInTurn ctx receiver ((setter, v) :: rest) s t

/-- How writing several values ends: all of them have been written; or a setter has failed after
those before it have written theirs, and has left the store alone if it goes to a place. -/
inductive WritesEnd (ctx : Context) (receiver : Value) (calls : List (Setter × Value))
    (s : State) : EStateM.Result Fault State Unit → Prop where
  | done {t : State} (h : WritesInTurn ctx receiver calls s t) :
      WritesEnd ctx receiver calls s (.ok () t)
  | stopped {before : List (Setter × Value)} {setter : Setter} {v : Value}
      {after : List (Setter × Value)} {e : Fault} {t t' : State}
      (hcalls : calls = before ++ (setter, v) :: after)
      (hbefore : WritesInTurn ctx receiver before s t)
      (hfail : setter.run ctx receiver v t = .error e t')
      (hplace : ∀ p, setter.access = .place p → t' = t) :
      WritesEnd ctx receiver calls s (.error e t')

/-! #### Setters that go to a place -/

/-- The run leaves the state as it is. -/
def Run.Still {α : Type} (x : Run α) : Prop := ∀ s, after (x s) = s

/-- If the run fails, it leaves the state as it is. -/
def Run.Clean {α : Type} (x : Run α) : Prop := ∀ s e t, x s = .error e t → t = s

namespace Run

variable {α β : Type} {x : Run α} {f : α → Run β}

lemma still_ofExcept (r : Except Fault α) : Still (Run.ofExcept r) := by
  cases r <;> exact fun _ => rfl

lemma still_receive (demand : ReceiverGuard → Value → Except Fault Unit) (receiver : Value)
    (guard : Option ReceiverGuard) : Still (receive demand receiver guard) := by
  intro s
  cases guard with
  | none => rfl
  | some g =>
    rw [receive]
    cases demand g receiver <;> rfl

lemma still_alive (ctx : Context) (type : TypeId) : Still (alive ctx type) := by
  intro s
  change after ((if ctx.registry.isAlive s.store type then _ else _ : Run Unit) s) = s
  split <;> rfl

lemma Still.bind (hx : Still x) (hf : ∀ a, Clean (f a)) : Clean (x >>= f) := by
  intro s e t h
  have hs := hx s
  cases hxs : x s with
  | error e' s' =>
    rw [hxs] at hs
    cases (bind_eq_of_error hxs).symm.trans h
    exact hs
  | ok a s' =>
    rw [hxs] at hs
    exact (hf a s' e t ((bind_eq_of_ok hxs).symm.trans h)).trans hs

lemma clean_get {f : State → Run α} (hf : ∀ s, Clean (f s)) : Clean (get >>= f) :=
  fun s => hf s s

lemma clean_change (update : Store → Except Fault Store) : Clean (change update) := by
  intro s e t h
  rw [change] at h
  split at h <;> cases h
  rfl

end Run

lemma Place.clean_store (p : Place) (storesValueType : Bool) :
    Run.Clean (p.store ctx receiver new storesValueType) := by
  refine clean_get fun s => ?_
  cases p with
  | receiver slot => exact clean_change fun st => st.writeSlot receiver slot _
  | static owner slot => exact (still_alive ctx owner).bind fun _ => clean_change _

/-- A setter for a place that fails has written nothing. -/
lemma Setter.clean_run {setter : Setter} {p : Place} (hp : setter.access = .place p) :
    Run.Clean (setter.run ctx receiver v) := by
  refine (still_receive _ receiver setter.receiver).bind fun r => ?_
  refine (still_ofExcept _).bind fun _ => ?_
  rw [hp]
  exact p.clean_store _

/-! #### The batch -/

/-- A batch setter writes its values in turn. -/
lemma BatchSetter.ends_runEach (setters : List Setter) (values : List Value) (s : State) :
    WritesEnd ctx receiver (setters.zip values) s (runEach ctx receiver setters values s) := by
  induction setters generalizing values s with
  | nil => exact .done (.nil s)
  | cons setter setters ih =>
    cases values with
    | nil => exact .done (.nil s)
    | cons v values =>
      cases hwrite : setter.run ctx receiver v s with
      | error e t =>
        rw [runEach, bind_eq_of_error hwrite]
        exact .stopped rfl (.nil s) hwrite fun p hp =>
          Setter.clean_run hp _ _ _ hwrite
      | ok _ s' =>
        rw [runEach, bind_eq_of_ok hwrite]
        generalize hr : runEach ctx receiver setters values s' = r
        cases hr ▸ ih values s' with
        | done hrest => exact .done (.next hwrite hrest)
        | @stopped before failing w after e t t' hcalls hbefore hfail hplace =>
          have hcalls : (setter :: setters).zip (v :: values) =
              ((setter, v) :: before) ++ (failing, w) :: after := by
            rw [List.zip_cons_cons, hcalls, List.cons_append]
          exact .stopped hcalls (.next hwrite hbefore) hfail hplace

/-! ### Before writing -/

/-- The setters for several names: all members are found before the first setter is made. -/
def Registry.prepare (reg : Registry) (type : TypeId) (flags : Flags) (names : List String) :
    Except Fault (List Setter) := do
  let ms ← reg.findEach type flags names
  ms.mapM (Setter.ofMember reg type)

/-- The name denotes the member. -/
def Registry.Denotes (reg : Registry) (type : TypeId) (flags : Flags) (name : String)
    (m : Member) : Prop :=
  reg.find type { kinds := .fieldsAndProperties, name := some name, flags } = .ok m

/-- What comes of looking up names and making setters for the members: the fault of the first name
that denotes no member, or else that of the first member that has no setter, or else setters of
all. -/
inductive Registry.Prepared (reg : Registry) (type : TypeId) (flags : Flags)
    (names : List String) : Except Fault (List Setter) → Prop where
  | unresolved {before : List String} {name : String} {after : List String} {ms : List Member}
      {e : Fault} (hnames : names = before ++ name :: after)
      (hbefore : List.Forall₂ (reg.Denotes type flags) before ms)
      (hname : reg.find type { kinds := .fieldsAndProperties, name := some name, flags } =
        .error e) : Prepared reg type flags names (.error e)
  | unwritable {before : List Member} {m : Member} {after : List Member} {setters : List Setter}
      {e : Fault} (hms : List.Forall₂ (reg.Denotes type flags) names (before ++ m :: after))
      (hbefore : List.Forall₂ (Setter.ofMember reg type · = .ok ·) before setters)
      (hm : Setter.ofMember reg type m = .error e) : Prepared reg type flags names (.error e)
  | ready {ms : List Member} {setters : List Setter}
      (hms : List.Forall₂ (reg.Denotes type flags) names ms)
      (hsetters : List.Forall₂ (Setter.ofMember reg type · = .ok ·) ms setters) :
      Prepared reg type flags names (.ok setters)

lemma Registry.prepared_prepare (reg : Registry) (type : TypeId) (flags : Flags)
    (names : List String) : reg.Prepared type flags names (reg.prepare type flags names) := by
  rw [prepare]
  rcases mapM_cases (fun name =>
      reg.find type { kinds := .fieldsAndProperties, name := some name, flags }) names with
    ⟨ms, hms, hfound⟩ | ⟨before, name, after, ms, e, hnames, hbefore, hname, hfound⟩
  · -- a name finds nothing, and no setter is made
    rw [findEach, hfound]
    change reg.Prepared type flags names (ms.mapM (Setter.ofMember reg type))
    rcases mapM_cases (Setter.ofMember reg type) ms with
      ⟨setters, hsetters, hmade⟩ | ⟨before, m, after, setters, e, rfl, hbefore, hm, hmade⟩
    · -- all members are found, and all can be written
      rw [hmade]
      exact .ready hms hsetters
    · -- one of them cannot
      rw [hmade]
      exact .unwritable hms hbefore hm
  · rw [findEach, hfound]
    exact .unresolved hnames hbefore hname

lemma Registry.length_of_prepare {setters : List Setter}
    (h : reg.prepare type flags names = .ok setters) : setters.length = names.length := by
  cases h ▸ reg.prepared_prepare type flags names with
  | ready hms hsetters => exact (hms.length_eq.trans hsetters.length_eq).symm

/-- What writing several values does: if the subject has no type, or some member cannot be found or
written, this is all, and otherwise the values are written in turn. -/
inductive SetsAll (ctx : Context) (flags : Flags) (subject : Subject)
    (values : List (String × Value)) (s : State) : EStateM.Result Fault State Unit → Prop where
  | untyped {e : Fault} (h : subject.typeId = .error e) :
      SetsAll ctx flags subject values s (.error e s)
  | unprepared {type : TypeId} {e : Fault} (htype : subject.typeId = .ok type)
      (h : ctx.registry.Prepared type flags (values.map (·.1)) (.error e)) :
      SetsAll ctx flags subject values s (.error e s)
  | written {type : TypeId} {setters : List Setter} {ended : EStateM.Result Fault State Unit}
      (htype : subject.typeId = .ok type)
      (h : ctx.registry.Prepared type flags (values.map (·.1)) (.ok setters))
      (hwrites : WritesEnd ctx subject.receiver (setters.zip (values.map (·.2))) s ended) :
      SetsAll ctx flags subject values s ended

/-- Writes several values without asking the caches. -/
def Context.setAll (ctx : Context) (flags : Flags) (subject : Subject)
    (values : List (String × Value)) : Run Unit := do
  let type ← Run.ofExcept subject.typeId
  let setters ← Run.ofExcept (ctx.registry.prepare type flags (values.map (·.1)))
  BatchSetter.runEach ctx subject.receiver setters (values.map (·.2))

lemma Context.setsAll (ctx : Context) (flags : Flags) (subject : Subject)
    (values : List (String × Value)) (s : State) :
    SetsAll ctx flags subject values s (ctx.setAll flags subject values s) := by
  rw [setAll]
  cases htype : subject.typeId with
  | error e => exact .untyped htype
  | ok type =>
    have hprepared := ctx.registry.prepared_prepare type flags (values.map (·.1))
    change SetsAll ctx flags subject values s
      ((Run.ofExcept (ctx.registry.prepare type flags (values.map (·.1))) >>= fun setters =>
        BatchSetter.runEach ctx subject.receiver setters (values.map (·.2))) s)
    generalize ctx.registry.prepare type flags (values.map (·.1)) = r at hprepared ⊢
    cases r with
    | error e => exact .unprepared htype hprepared
    | ok setters => exact .written htype hprepared (BatchSetter.ends_runEach setters _ s)

end LateBinding
