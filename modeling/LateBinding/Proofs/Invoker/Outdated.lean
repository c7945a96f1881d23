import LateBinding.Proofs.Caches
import LateBinding.Proofs.Invoker.Frame

/-!
# Outdated invokers

What an invoker knows of the type of the value that it writes can be told from what it does: the
name shows when a value is refused, and a value type refuses null. An invoker that knows something
else than what is known now therefore does not do the same as one that is made now.

Main statement: `InvokerSort.alike_refresh_iff`.
-/

namespace LateBinding

variable {reg : Registry} {type : TypeId} {isValueType : Bool}

/-! ### Values that are accepted -/

/-- The shape of a type of which no more is known than its identifier. -/
def Shape.bare (type : TypeId) (isValueType : Bool) : Shape :=
  ⟨type, "", none, isValueType, [type], [], []⟩

/-- An instance of a type, through which can be written. -/
def Value.instanceOf (type : TypeId) (isValueType : Bool) : Value :=
  if isValueType then .wrapped (.bare type isValueType) 0 else .object (.bare type isValueType) 0

/-- A value that may be put where a type is declared: null, unless this is a value type. -/
def Value.fitting (type : TypeId) (isValueType : Bool) : Value :=
  if !isValueType then .null
  else if type = TypeId.bool then .bool false
  else if type = TypeId.int then .int 0
  else if type = TypeId.float then .float 0
  else .instanceOf type isValueType

lemma Value.isAssignableTo_instanceOf (type : TypeId) (isValueType target : Bool) :
    (instanceOf type isValueType).isAssignableTo type target = true := by
  cases isValueType <;>
    simp [instanceOf, isAssignableTo, Shape.bare, Shape.derivesFrom, Value.typeId]

lemma Value.isAssignableTo_fitting (type : TypeId) (isValueType : Bool) :
    (fitting type isValueType).isAssignableTo type isValueType = true := by
  rw [fitting]
  cases isValueType with
  | false => simp [isAssignableTo]
  | true =>
    simp only [Bool.not_true, Bool.false_eq_true, if_false]
    split
    · simp_all [isAssignableTo, Value.typeId]
    split
    · simp_all [isAssignableTo, Value.typeId]
    split
    · simp_all [isAssignableTo, Value.typeId]
    · exact isAssignableTo_instanceOf type true true

lemma ReceiverGuard.checkMutable_instanceOf (g : ReceiverGuard) :
    g.checkMutable (.instanceOf g.target g.isValueType) = .ok () := by
  have hassign := Value.isAssignableTo_instanceOf g.target g.isValueType g.isValueType
  have hnull : (Value.instanceOf g.target g.isValueType).isNull = false := by
    cases g.isValueType <;> rfl
  have hcheck : g.check (.instanceOf g.target g.isValueType) = .ok () := by
    simp [check, hnull, hassign, pure, Except.pure]
  unfold checkMutable
  rw [hcheck]
  obtain ⟨target, name, isValueType⟩ := g
  cases isValueType <;> rfl

lemma ArgumentsGuard.check_fitting (g : ArgumentsGuard) :
    g.check (g.params.map fun p => .fitting p.type p.isValueType) = .ok () := by
  have heach : ∀ ps : List ValueGuard,
      checkEach ps (ps.map fun p => .fitting p.type p.isValueType) = .ok () := by
    intro ps
    induction ps with
    | nil => rfl
    | cons p ps ih =>
      have hp : p.check (.fitting p.type p.isValueType) = .ok () := by
        rw [ValueGuard.check, Value.isAssignableTo_fitting, Bool.or_true, if_pos rfl]
        rfl
      rw [List.map_cons, checkEach, hp]
      exact ih
  rw [check, if_pos (List.length_map _)]
  exact heach g.params

/-! ### Guards that show -/

/-- What is done with a value shows its guard: a value that is refused is refused by the guard, and
after a value has been accepted there is no more talk of types. -/
structure ValueGuard.ShowsIn (g : ValueGuard)
    (act : Value → EStateM.Result Fault State Unit) : Prop where
  refused : ∀ {new e}, g.check new = .error e → act new = .error e {}
  accepted : ∀ {new}, g.check new = .ok () → ∀ a b s, act new ≠ .error (.mismatch a b) s

lemma Value.isAssignableTo_of_user (h : type.isBuiltin = false) (v : Value) :
    v.isAssignableTo type isValueType = match v with
      | .null => !isValueType
      | .object s _ => s.derivesFrom type
      | v => v.typeId == type := by
  have hobject : (type == TypeId.object) = false := by
    rw [beq_eq_false_iff_ne]
    rintro rfl
    cases h
  have hany : (type == TypeId.any) = false := by
    rw [beq_eq_false_iff_ne]
    rintro rfl
    cases h
  cases v <;> simp only [isAssignableTo, hobject, hany, Bool.false_or]

lemma ValueGuard.check_int (g : ValueGuard) (h : g.type.isBuiltin = false) :
    g.check (.int 0) = .error (.mismatch g.name "int") := by
  have htype : (TypeId.int == g.type) = false := by
    rw [beq_eq_false_iff_ne]
    intro heq
    rw [← heq] at h
    cases h
  simp [check, Value.isNull, Value.isAssignableTo_of_user h, Value.typeId, htype, Value.typeName,
    throw, throwThe, MonadExceptOf.throw]

lemma ValueGuard.check_null (g : ValueGuard) (h : g.type.isBuiltin = false)
    (href : g.byRef = false) (hv : g.isValueType = false) : g.check .null = .ok () := by
  simp [check, href, Value.isAssignableTo_of_user h, hv, pure, Except.pure]

lemma ValueGuard.check_null_of_isValueType (g : ValueGuard) (h : g.type.isBuiltin = false)
    (href : g.byRef = false) (hv : g.isValueType = true) :
    g.check .null = .error (.mismatch g.name "null") := by
  simp [check, href, Value.isAssignableTo_of_user h, hv, Value.typeName, throw, throwThe,
    MonadExceptOf.throw]

/-- If the same is done with every value, the guards know the same of their type. -/
lemma ValueGuard.ShowsIn.same {g g' : ValueGuard}
    {act : Value → EStateM.Result Fault State Unit} (hg : g.ShowsIn act) (hg' : g'.ShowsIn act)
    (htype : g.type = g'.type) (huser : g.type.isBuiltin = false) (href : g.byRef = false)
    (href' : g'.byRef = false) : g.name = g'.name ∧ g.isValueType = g'.isValueType := by
  have huser' : g'.type.isBuiltin = false := htype ▸ huser
  constructor
  · -- a number is refused by both, with both names
    have hint := (hg.refused (g.check_int huser)).symm.trans (hg'.refused (g'.check_int huser'))
    injection hint with hfault
    injection hfault
  · -- null is refused by a value type alone
    cases hv : g.isValueType <;> cases hv' : g'.isValueType
    · rfl
    · have hrefused := hg'.refused (g'.check_null_of_isValueType huser' href' hv')
      exact absurd hrefused (hg.accepted (g.check_null huser href hv) _ _ _)
    · have hrefused := hg.refused (g.check_null_of_isValueType huser href hv)
      exact absurd hrefused (hg'.accepted (g'.check_null huser' href' hv') _ _ _)
    · rfl

/-! ### What setters show -/

/-- Native bodies that do nothing. -/
def Native.idle : Native := fun _ _ _ _ => pure (.null, [])

lemma Store.writeSlot_ne_mismatch (st : Store) (v : Value) (slot : Nat) (new : Value)
    (a b : String) : st.writeSlot v slot new ≠ .error (.mismatch a b) := by
  have hcell : ∀ r, st.writeCell r slot new ≠ .error (.mismatch a b) := by
    intro r h
    rw [writeCell] at h
    split at h <;> cases h
  cases v with
  | object s r => exact hcell r
  | wrapped s r => exact hcell r
  | _ => intro h; cases h

lemma Store.writeStatic_ne_mismatch (st : Store) (type : TypeId) (slot : Nat) (new : Value)
    (a b : String) : st.writeStatic type slot new ≠ .error (.mismatch a b) := by
  intro h
  rw [writeStatic] at h
  split at h <;> cases h

/-- The run ends without talk of types. -/
def Run.Quiet {α : Type} (x : Run α) : Prop :=
  ∀ s a b s', x s ≠ .error (.mismatch a b) s'

lemma Run.quiet_pure {α : Type} (a : α) : Quiet (pure a) := fun _ _ _ _ h => by cases h

lemma Run.Quiet.bind {α β : Type} {x : Run α} {f : α → Run β} (hx : Quiet x)
    (hf : ∀ a, Quiet (f a)) : Quiet (x >>= f) := by
  intro s a b s' h
  change EStateM.bind x f s = _ at h
  rw [EStateM.bind] at h
  cases hxs : x s with
  | ok v s₁ =>
    rw [hxs] at h
    exact hf v s₁ a b s' h
  | error e s₁ =>
    rw [hxs] at h
    cases h
    exact hx s a b s' hxs

lemma Run.quiet_get {α : Type} {f : State → Run α} (hf : ∀ s, Quiet (f s)) :
    Quiet (get >>= f) :=
  fun s => hf s s

lemma Run.quiet_change {update : Store → Except Fault Store}
    (h : ∀ st a b, update st ≠ .error (.mismatch a b)) : Quiet (Run.change update) := by
  intro s a b s' hs
  rw [Run.change] at hs
  cases hu : update s.store with
  | ok st =>
    rw [hu] at hs
    cases hs
  | error e =>
    rw [hu] at hs
    cases hs
    exact h s.store a b hu

lemma Run.quiet_alive (ctx : Context) (type : TypeId) : Quiet (Run.alive ctx type) := by
  refine quiet_get fun s => ?_
  change Quiet (if ctx.registry.isAlive s.store type then _ else _)
  split
  · exact quiet_pure _
  · exact fun _ _ _ _ h => by cases h

lemma Place.quiet_store (ctx : Context) (receiver new : Value) (storesValueType : Bool)
    (p : Place) : Run.Quiet (p.store ctx receiver new storesValueType) := by
  refine Run.quiet_get fun s => ?_
  cases p with
  | receiver slot => exact Run.quiet_change fun st => st.writeSlot_ne_mismatch _ _ _
  | static owner slot =>
    exact (Run.quiet_alive ctx owner).bind fun _ =>
      Run.quiet_change fun st => st.writeStatic_ne_mismatch _ _ _

lemma BoundScript.quiet_run (reg : Registry) (script : BoundScript) (receiver : Value)
    (arguments : List Value) : Run.Quiet (script.run ⟨reg, .idle⟩ receiver arguments) :=
  (Run.quiet_alive _ _).bind fun _ => Run.quiet_pure _

lemma Run.Quiet.discard {α : Type} {x : Run α} (hx : Quiet x) : Quiet (discard x) := by
  intro s a b s' h
  change EStateM.map _ x s = _ at h
  rw [EStateM.map] at h
  cases hxs : x s with
  | ok v s₁ =>
    rw [hxs] at h
    cases h
  | error e s₁ =>
    rw [hxs] at h
    cases h
    exact hx s a b s' hxs

lemma ValueGuard.showsIn (g : ValueGuard) {rest : Value → Run Unit}
    (hrest : ∀ new, Run.Quiet (rest new)) {act : Value → EStateM.Result Fault State Unit}
    (hact : ∀ new, act new = (Run.ofExcept (g.check new) >>= fun _ => rest new : Run Unit) {}) :
    g.ShowsIn act := by
  constructor
  · intro new e he
    rw [hact, he]
    rfl
  · intro new hok a b s h
    rw [hact, hok] at h
    exact hrest new {} a b s h

/-- A receiver that gets past the demand of a setter. -/
def Setter.sampleReceiver (x : Setter) : Value :=
  x.receiver.elim .null fun g => .instanceOf g.target g.isValueType

lemma Setter.receive_sampleReceiver (x : Setter) :
    Run.receive ReceiverGuard.checkMutable x.sampleReceiver x.receiver = pure x.sampleReceiver := by
  rw [sampleReceiver]
  cases x.receiver with
  | none => rfl
  | some g =>
    simp only [Run.receive, Option.elim_some, g.checkMutable_instanceOf]
    rfl

lemma Setter.showsIn (reg : Registry) (x : Setter) :
    x.value.ShowsIn fun new => x.run ⟨reg, .idle⟩ x.sampleReceiver new {} := by
  simp only [Setter.run, x.receive_sampleReceiver, pure_bind]
  generalize x.sampleReceiver = receiver
  obtain ⟨_, value, access⟩ := x
  cases access with
  | place p => exact value.showsIn (fun new => p.quiet_store _ receiver new _) fun _ => rfl
  | native script =>
    refine value.showsIn (fun new => Run.quiet_get fun s => ?_) fun _ => rfl
    exact (script.quiet_run reg receiver _).discard

lemma IndexWriter.showsIn (reg : Registry) (guard : ReceiverGuard) (arguments : ArgumentsGuard)
    (value : ValueGuard) (script : BoundScript) :
    value.ShowsIn fun new => (indexer guard arguments value script).run ⟨reg, .idle⟩
      (.instanceOf guard.target guard.isValueType)
      (arguments.params.map fun p => .fitting p.type p.isValueType) new {} := by
  let receiver := Value.instanceOf guard.target guard.isValueType
  let indices := arguments.params.map fun p => Value.fitting p.type p.isValueType
  refine value.showsIn
    (fun new => (script.quiet_run reg receiver (indices ++ [new])).discard) fun new => ?_
  simp only [IndexWriter.run, guard.checkMutable_instanceOf, arguments.check_fitting]
  rfl

/-! ### Invokers that show what they know -/

namespace InvokerSort

variable {sort : InvokerSort}

/-- What the invoker knows of the type of the value that it writes is what is known now. -/
def UpToDate (reg : Registry) (type : TypeId) (sort : InvokerSort) (x : sort.Item) : Prop :=
  ∀ g, sort.valueGuard? x = some g → g.name = reg.nameOf type ∧ g.isValueType = reg.isValueType type

lemma upToDate_refresh (reg : Registry) (type : TypeId) (x : sort.Item) :
    sort.UpToDate reg type (sort.refresh reg type x) := by
  intro g hg
  cases sort with
  | setter =>
    cases hg
    exact ⟨rfl, rfl⟩
  | indexWriter =>
    cases x <;> cases hg
    exact ⟨rfl, rfl⟩
  | _ => cases hg

lemma ValueGuard.eq_ofType {g : ValueGuard} (htype : g.type = type) (href : g.byRef = false)
    (hname : g.name = reg.nameOf type) (hvalue : g.isValueType = reg.isValueType type) :
    g = .ofType reg type := by
  obtain ⟨t, name, isValueType, byRef⟩ := g
  simp_all [ValueGuard.ofType]

lemma refresh_eq_self {x : sort.Item} (hx : sort.Writes type x) (h : sort.UpToDate reg type x) :
    sort.refresh reg type x = x := by
  cases sort with
  | setter =>
    obtain ⟨htype, href⟩ := hx x.value rfl
    obtain ⟨hname, hvalue⟩ := h x.value rfl
    have := ValueGuard.eq_ofType htype href hname hvalue
    simp only [refresh, ← this]
  | indexWriter =>
    cases x with
    | element rank => rfl
    | indexer receiver indices g script =>
      obtain ⟨htype, href⟩ := hx g rfl
      obtain ⟨hname, hvalue⟩ := h g rfl
      have := ValueGuard.eq_ofType htype href hname hvalue
      simp only [refresh, ← this]
  | _ => rfl

/-- An invoker does the same as one that is made now exactly if it knows what is known now. -/
lemma alike_refresh_iff {x : sort.Item} (huser : type.isBuiltin = false)
    (hx : sort.Writes type x) :
    sort.Alike reg x (sort.refresh reg type x) ↔ sort.UpToDate reg type x := by
  constructor
  · -- a value that only one of the two refuses tells them apart
    intro h g hg
    cases sort with
    | setter =>
      cases hg
      obtain ⟨htype, href⟩ := hx x.value rfl
      have hact := x.showsIn reg
      have hact' := Setter.showsIn reg (setter.refresh reg type x)
      rw [funext fun new => congrFun (h .idle x.sampleReceiver new) {}] at hact
      exact hact.same hact' htype (htype ▸ huser) href rfl
    | indexWriter =>
      cases x with
      | element rank => cases hg
      | indexer receiver indices g script =>
        cases hg
        obtain ⟨htype, href⟩ := hx g rfl
        have hact := IndexWriter.showsIn reg receiver indices g script
        have hact' := IndexWriter.showsIn reg receiver indices (.ofType reg type) script
        rw [funext fun new => congrFun (h .idle (.instanceOf receiver.target receiver.isValueType)
          (indices.params.map fun p => .fitting p.type p.isValueType) new) {}] at hact
        exact hact.same hact' htype (htype ▸ huser) href rfl
    | _ => cases hg
  · intro h
    rw [refresh_eq_self hx h]
    exact Alike.refl reg x

end InvokerSort

end LateBinding
