import LateBinding.Proofs.Invoker.Access
import LateBinding.Proofs.Invoker.Accessors
import LateBinding.Proofs.Run.InStep

/-!
# What accessor methods do

The invoker of a property or indexer and that of the method for its accessor are made of the same
parts, but do not always do the same. Reading comes to the same. Writing a slot comes to the same
too. Where a native body is called, the setter refuses an unwrapped copy as its receiver and hands
over a copy in place of a wrapper, and the method does neither; exactly there the two differ.

Main statements: `Getter.agreesWith_asMethod`, `Setter.agreesWith_asMethod`,
`IndexReader.agreesWith_asMethod` and `IndexWriter.agreesWith_asMethod`.
-/

namespace LateBinding

open Run

variable {reg : Registry} {p : Member}

/-! ### Guards -/

namespace ReceiverGuard

/-- The receiver passes, but it is an unwrapped copy, to which nothing may be written. -/
structure RefusesCopy (g : ReceiverGuard) (receiver : Value) : Prop where
  check : g.check receiver = .ok ()
  isValueType : g.isValueType = true
  unwrapped : ∃ s fields, receiver = .struct s fields

variable {g : ReceiverGuard} {receiver : Value}

lemma RefusesCopy.checkMutable (h : g.RefusesCopy receiver) :
    g.checkMutable receiver = .error (.refused (.unwrappedCopy g.name)) := by
  obtain ⟨hcheck, hvalue, s, fields, rfl⟩ := h
  rw [ReceiverGuard.checkMutable, hcheck, hvalue]
  rfl

lemma check_of_checkMutable (h : g.checkMutable receiver = .ok ()) :
    g.check receiver = .ok () := by
  unfold ReceiverGuard.checkMutable at h
  cases hcheck : g.check receiver with
  | error e =>
    rw [hcheck] at h
    cases h
  | ok u => rfl

lemma checkMutable_eq_check (h : ¬ g.RefusesCopy receiver) :
    g.checkMutable receiver = g.check receiver := by
  unfold ReceiverGuard.checkMutable
  cases hcheck : g.check receiver with
  | error e => rfl
  | ok u =>
    cases receiver with
    | struct s fields =>
      have hvalue : ¬ g.isValueType = true := fun hvalue => h ⟨hcheck, hvalue, s, fields, rfl⟩
      change (if g.isValueType then _ else _) = _
      rw [if_neg hvalue]
      rfl
    | _ => rfl

end ReceiverGuard

lemma ValueGuard.exists_mismatch {g : ValueGuard} {v : Value} {e : Fault}
    (h : g.check v = .error e) : e = .mismatch g.name v.typeName := by
  rw [check] at h
  split at h
  · cases h
  · exact (Except.error.inj h).symm

namespace ArgumentsGuard

variable {gs : List ValueGuard} {vs : List Value} {g : ValueGuard} {v : Value}

lemma exists_mismatch {e : Fault} (h : checkEach gs vs = .error e) : ∃ a b, e = .mismatch a b := by
  induction gs generalizing vs with
  | nil => cases h
  | cons g gs ih =>
    cases vs with
    | nil => cases h
    | cons v vs =>
      rw [checkEach] at h
      cases hg : g.check v with
      | error e' =>
        rw [hg] at h
        cases h
        exact ⟨_, _, ValueGuard.exists_mismatch hg⟩
      | ok u =>
        rw [hg] at h
        exact ih h

lemma checkEach_concat (h : vs.length = gs.length) :
    checkEach (gs ++ [g]) (vs ++ [v]) = (checkEach gs vs >>= fun _ => g.check v) := by
  induction gs generalizing vs with
  | nil =>
    obtain rfl := List.length_eq_zero_iff.mp h
    change (g.check v >>= fun _ => .ok ()) = g.check v
    cases g.check v <;> rfl
  | cons g' gs ih =>
    cases vs with
    | nil => cases h
    | cons v' vs =>
      simp only [List.cons_append, checkEach, ih (Nat.succ.inj h), bind_assoc]

section Length

variable {guard : ArgumentsGuard}

lemma check_of_length_eq (h : vs.length = guard.params.length) :
    guard.check vs = checkEach guard.params vs := if_pos h

lemma check_of_length_ne (h : vs.length ≠ guard.params.length) : guard.check vs =
    .error (.refused (.argumentCount guard.member guard.params.length vs.length)) := if_neg h

end Length

lemma fault_cases {g : ArgumentsGuard} {e : Fault} (h : g.check vs = .error e) :
    (∃ a b, e = .mismatch a b) ∨ ∃ text n k, e = .refused (.argumentCount text n k) := by
  rw [check] at h
  split at h
  · exact Or.inl (exists_mismatch h)
  · exact Or.inr ⟨_, _, _, (Except.error.inj h).symm⟩

end ArgumentsGuard

/-! ### What getters and setters do -/

lemma Run.discard_bind {α β : Type} (x : Run α) (f : α → Run β) :
    discard (x >>= f) = x >>= fun a => discard (f a) := by
  simp only [Functor.discard, LawfulFunctor.map_const, Function.comp_apply, map_bind]

section Receive

variable {demand : ReceiverGuard → Value → Except Fault Unit} {g : Option ReceiverGuard}
  {receiver : Value}

lemma Run.receive_of_ok (h : ∀ g' ∈ g, demand g' receiver = .ok ()) :
    receive demand receiver g = pure (if g.isSome then receiver else .null) := by
  cases g with
  | none => rfl
  | some g =>
    rw [receive, h g rfl]
    rfl

/-- A receiver is refused at once, or it passes. -/
lemma Run.receive_cases (demand : ReceiverGuard → Value → Except Fault Unit)
    (g : Option ReceiverGuard) (receiver : Value) :
    (∃ e, receive demand receiver g = throw e) ∨ ∀ g' ∈ g, demand g' receiver = .ok () := by
  cases g with
  | none => exact Or.inr nofun
  | some g =>
    cases hdemand : demand g receiver with
    | error e => exact Or.inl ⟨e, by rw [receive, hdemand]; rfl⟩
    | ok u => exact Or.inr fun g' hg' => by cases hg'; exact hdemand

end Receive

/-- Native bodies that take nothing but one wrapper. -/
def takesWrapper : Native
  | _, _, _, [.wrapped shape r] => pure (.null, [.wrapped shape r])
  | _, _, _, _ => throw .depthExceeded

lemma BoundScript.run_of_get? {ctx : Context} {script : BoundScript} {d : Descriptor}
    (h : ctx.registry.get? script.declaring.id = some d) (receiver : Value)
    (arguments : List Value) : script.run ctx receiver arguments =
      ctx.native script.body script.declaring receiver arguments := by
  rw [run, Run.alive_of_get? h, pure_bind]

/-- Reading the value and calling the method without arguments come to the same. -/
def Getter.AgreesWith (g : Getter) (m : Method) : Prop :=
  ∀ ctx receiver, m.run ctx receiver [] = (fun v => (v, [])) <$> g.run ctx receiver

lemma Getter.agreesWith_asMethod (g : Getter) (text : String) :
    g.AgreesWith (g.asMethod text) := by
  intro ctx receiver
  have hdemand : (g.asMethod text).demand = ReceiverGuard.check := by
    rw [Method.demand, asMethod]
    cases g.access <;> rfl
  rw [Method.run, hdemand, Getter.run, map_bind]
  refine congrArg (Run.receive _ receiver g.receiver >>= ·) (funext fun r => ?_)
  have hcheck : Run.ofExcept ((g.asMethod text).arguments.check []) = pure () := rfl
  rw [hcheck, pure_bind, asMethod]
  cases g.access <;> simp [Method.perform, Access.readBody, writeBack]

/-- Writing a value through the setter and calling the method with it end alike and leave the same
state, whatever native bodies do. -/
def Setter.AgreesOn (reg : Registry) (s : Setter) (m : Method) (receiver v : Value) : Prop :=
  ∀ native, discard (m.run ⟨reg, native⟩ receiver [v]) = s.run ⟨reg, native⟩ receiver v

/-- What the setter does and a native body that is called as a method does not get: an unwrapped
copy is refused as the receiver, and for a wrapper a copy is handed over. -/
inductive Setter.Departs (s : Setter) (receiver v : Value) : Prop where
  | unwrapped {g : ReceiverGuard} (hg : s.receiver = some g) (h : g.RefusesCopy receiver)
  | wrapper {shape : Shape} {r : Ref}
      (hreceiver : ∀ g ∈ s.receiver, g.checkMutable receiver = .ok ())
      (htype : s.value.isValueType = true) (hcheck : s.value.check v = .ok ())
      (hv : v = .wrapped shape r)

/-- The two agree if a slot is written, and otherwise wherever the setter does not depart. -/
def Setter.AgreesWith (reg : Registry) (s : Setter) (m : Method) : Prop :=
  ∀ receiver v, s.AgreesOn reg m receiver v ↔
    (∃ p, s.access = .place p) ∨ ¬ s.Departs receiver v

namespace Setter

variable {s : Setter} {script : BoundScript} {receiver v : Value} {ctx : Context}

/-- The method checks its argument as the setter checks the value. -/
lemma check_asMethod (s : Setter) (text : String) (v : Value) :
    (s.asMethod text).arguments.check [v] = s.value.check v := by
  change (s.value.check v >>= fun _ => .ok ()) = _
  cases s.value.check v <;> rfl

lemma agreesOn_of_place {p : Place} (hp : s.access = .place p) (text : String)
    (receiver v : Value) : s.AgreesOn reg (s.asMethod text) receiver v := by
  intro native
  have hdemand : (s.asMethod text).demand = ReceiverGuard.checkMutable := by
    rw [Method.demand, asMethod, hp]
    rfl
  rw [Method.run, hdemand, Setter.run, discard_bind]
  refine congrArg (Run.receive _ receiver s.receiver >>= ·) (funext fun r => ?_)
  rw [check_asMethod, discard_bind]
  refine congrArg (Run.ofExcept (s.value.check v) >>= ·) (funext fun _ => ?_)
  simp [Method.perform, asMethod, hp, Access.writeBody, Functor.discard, LawfulFunctor.map_const]

/-- The method hands the body the value as it is. -/
lemma run_asMethod_of_native (hs : s.access = .native script) (text : String) :
    discard ((s.asMethod text).run ctx receiver [v]) =
      (Run.receive ReceiverGuard.check receiver s.receiver >>= fun r =>
        Run.ofExcept (s.value.check v) >>= fun _ => discard (script.run ctx r [v])) := by
  have hdemand : (s.asMethod text).demand = ReceiverGuard.check := by
    rw [Method.demand, asMethod, hs]
    rfl
  rw [Method.run, hdemand, discard_bind]
  refine congrArg (Run.receive _ receiver s.receiver >>= ·) (funext fun r => ?_)
  rw [check_asMethod, discard_bind]
  refine congrArg (Run.ofExcept (s.value.check v) >>= ·) (funext fun _ => ?_)
  simp [Method.perform, asMethod, hs, Access.writeBody, Functor.discard, LawfulFunctor.map_const]

/-- Where the setter does not depart, a native body is called as a method calls it. -/
lemma agreesOn_of_not_departs (hs : s.access = .native script) (text : String)
    (h : ¬ s.Departs receiver v) : s.AgreesOn reg (s.asMethod text) receiver v := by
  intro native
  have hreceive : Run.receive ReceiverGuard.checkMutable receiver s.receiver =
      Run.receive ReceiverGuard.check receiver s.receiver := by
    cases hg : s.receiver with
    | none => rfl
    | some g =>
      rw [Run.receive, Run.receive,
        ReceiverGuard.checkMutable_eq_check fun hcopy => h (.unwrapped hg hcopy)]
  rw [run_asMethod_of_native hs, Setter.run, ← hreceive]
  rcases Run.receive_cases ReceiverGuard.checkMutable s.receiver receiver with
    ⟨e, he⟩ | hreceiver
  · rw [he]
    rfl
  rw [Run.receive_of_ok hreceiver, pure_bind, pure_bind]
  cases hcheck : s.value.check v with
  | error e => rfl
  | ok u =>
    -- what is stored is the value itself, for it is a wrapper only if the type is no value type
    have hstored : ∀ st : Store, st.toStored s.value.isValueType v = v := by
      intro st
      rw [Store.toStored]
      split
      · rename_i htype
        cases v with
        | wrapped shape r => exact absurd (.wrapper hreceiver htype hcheck rfl) h
        | _ => rfl
      · rfl
    rw [hs]
    simp only [hstored]
    rfl

/-- Where the setter departs, some native body makes the difference. -/
lemma not_agreesOn_of_departs (hs : s.access = .native script) (text : String)
    (halive : ∃ d, reg.get? script.declaring.id = some d) (h : s.Departs receiver v) :
    ¬ s.AgreesOn reg (s.asMethod text) receiver v := by
  intro hagrees
  obtain ⟨d, hd⟩ := halive
  have hrun := congrFun (hagrees takesWrapper) {}
  have hscript : ∀ r vs, script.run ⟨reg, takesWrapper⟩ r vs = takesWrapper _ _ r vs :=
    BoundScript.run_of_get? hd
  rw [run_asMethod_of_native hs] at hrun
  simp only [hscript] at hrun
  cases h with
  | @unwrapped g hg h =>
    rw [Setter.run, hg, Run.receive, Run.receive, h.checkMutable, h.check] at hrun
    cases hcheck : s.value.check v with
    | error e =>
      rw [hcheck, ValueGuard.exists_mismatch hcheck] at hrun
      cases hrun
    | ok u =>
      rw [hcheck] at hrun
      cases v <;> cases hrun
  | @wrapper shape r hreceiver htype hcheck hv =>
    subst hv
    have hchecked : ∀ g ∈ s.receiver, g.check receiver = .ok () := fun g hg =>
      ReceiverGuard.check_of_checkMutable (hreceiver g hg)
    rw [Setter.run, Run.receive_of_ok hreceiver, Run.receive_of_ok hchecked, pure_bind, pure_bind,
      hcheck, htype, hs] at hrun
    simp only [hscript] at hrun
    cases hrun

lemma agreesWith_asMethod (text : String)
    (halive : ∀ script, s.access = .native script → ∃ d, reg.get? script.declaring.id = some d) :
    s.AgreesWith reg (s.asMethod text) := by
  intro receiver v
  cases hs : s.access with
  | place p => exact iff_of_true (agreesOn_of_place hs text receiver v) (Or.inl ⟨p, rfl⟩)
  | native script =>
    constructor
    · exact fun hagrees => Or.inr fun h =>
        not_agreesOn_of_departs hs text (halive script hs) h hagrees
    · rintro (⟨p, ⟨⟩⟩ | h)
      exact agreesOn_of_not_departs hs text h

end Setter

/-! ### What indexers do -/

/-- A fault, but of a wrong number of arguments only that it is one: neither what was called nor
how many arguments it takes. -/
def Fault.uncounted : Fault → Fault
  | .refused (.argumentCount _ _ _) => .refused (.argumentCount "" 0 0)
  | e => e

/-- An operation whose faults do not tell what was called with a wrong number of arguments. -/
def Run.uncounted {α : Type} (x : Run α) : Run α := fun s =>
  match x s with
  | .ok a s => .ok a s
  | .error e s => .error e.uncounted s

/-- Reading through the indexer and calling the method give the same for every list of indices. With
a wrong number of indices both are refused, and each refusal names what was called. -/
structure IndexReader.AgreesWith (x : IndexReader) (m : Method) : Prop where
  alike : ∀ ctx receiver indices, Run.uncounted (Prod.fst <$> m.run ctx receiver indices) =
    Run.uncounted (x.run ctx receiver indices)
  run_eq : ∀ ctx receiver indices, indices.length = m.params.length →
    Prod.fst <$> m.run ctx receiver indices = x.run ctx receiver indices

/-- The writer refuses the receiver because it is an unwrapped copy. -/
def IndexWriter.RefusesCopy : IndexWriter → Value → Prop
  | .element _, _ => False
  | .indexer g _ _ _, receiver => g.RefusesCopy receiver

/-- Writing through the indexer and calling the method come to the same, for every list of indices
and whatever native bodies do, if and only if the receiver is no unwrapped copy. -/
structure IndexWriter.AgreesWith (reg : Registry) (x : IndexWriter) (m : Method) : Prop where
  alike : ∀ receiver indices v, (∀ native,
    Run.uncounted (discard (m.run ⟨reg, native⟩ receiver (indices ++ [v]))) =
      Run.uncounted (x.run ⟨reg, native⟩ receiver indices v)) ↔ ¬ x.RefusesCopy receiver
  run_eq : ∀ native receiver indices v, indices.length + 1 = m.params.length →
    ¬ x.RefusesCopy receiver →
    discard (m.run ⟨reg, native⟩ receiver (indices ++ [v])) = x.run ⟨reg, native⟩ receiver indices v

section Indexers

variable {m : Member} {script : BoundScript} {g : ReceiverGuard}

lemma IndexParts.run_asMethod (ctx : Context) (receiver : Value) (vs : List Value) :
    (asMethod reg m (script, g)).run ctx receiver vs =
      (Run.ofExcept (g.check receiver) >>= fun _ =>
        Run.ofExcept ((ArgumentsGuard.ofMember reg m).check vs) >>= fun _ =>
          (fun r => (r.1, writeBack m.params vs r.2)) <$> script.run ctx receiver vs) := by
  simp [Method.run, Run.receive, Method.demand, asMethod, Method.perform]

lemma IndexReader.agreesWith_asMethod (hm : m.params = p.params) :
    (IndexReader.indexer g (.ofMember reg p) script).AgreesWith
      (IndexParts.asMethod reg m (script, g)) := by
  have hguards : (ArgumentsGuard.ofMember reg m).params = (ArgumentsGuard.ofMember reg p).params :=
    congrArg (List.map _) hm
  have hlength : (ArgumentsGuard.ofMember reg m).params.length = m.params.length :=
    List.length_map _
  have hrun : ∀ ctx receiver indices, indices.length = m.params.length →
      Prod.fst <$> (IndexParts.asMethod reg m (script, g)).run ctx receiver indices =
        (IndexReader.indexer g (.ofMember reg p) script).run ctx receiver indices := by
    intro ctx receiver indices hright
    rw [← hlength] at hright
    rw [IndexParts.run_asMethod, IndexReader.run, ArgumentsGuard.check_of_length_eq hright,
      ArgumentsGuard.check_of_length_eq (hguards ▸ hright), hguards]
    simp
  refine ⟨fun ctx receiver indices => ?_, hrun⟩
  by_cases hright : indices.length = m.params.length
  · rw [hrun ctx receiver indices hright]
  · rw [← hlength] at hright
    rw [IndexParts.run_asMethod, IndexReader.run, ArgumentsGuard.check_of_length_ne hright,
      ArgumentsGuard.check_of_length_ne (hguards ▸ hright)]
    cases g.check receiver <;> rfl

lemma Run.ofExcept_andThen {α β : Type} (x : Except Fault α) (f : α → Except Fault β) :
    Run.ofExcept (x >>= f) = Run.ofExcept x >>= fun a => Run.ofExcept (f a) := by
  cases x <;> rfl

lemma IndexWriter.agreesWith_asMethod (hm : m.params = p.params ++ [⟨p.valueType, false⟩])
    (halive : ∃ d, reg.get? script.declaring.id = some d) :
    (IndexWriter.indexer g (.ofMember reg p) (.ofType reg p.valueType) script).AgreesWith reg
      (IndexParts.asMethod reg m (script, g)) := by
  have hguard : ArgumentsGuard.ofMember reg m =
      ⟨m.text, (ArgumentsGuard.ofMember reg p).params ++ [.ofType reg p.valueType]⟩ := by
    rw [ArgumentsGuard.ofMember, hm, List.map_append]
    rfl
  have hlength : m.params.length = (ArgumentsGuard.ofMember reg p).params.length + 1 := by
    simp [hm, ArgumentsGuard.ofMember]
  have hmethod : ∀ native receiver vs,
      discard ((IndexParts.asMethod reg m (script, g)).run ⟨reg, native⟩ receiver vs) =
        (Run.ofExcept (g.check receiver) >>= fun _ =>
          Run.ofExcept ((ArgumentsGuard.ofMember reg m).check vs) >>= fun _ =>
            discard (script.run ⟨reg, native⟩ receiver vs)) := by
    intro native receiver vs
    simp [IndexParts.run_asMethod, Functor.discard, LawfulFunctor.map_const]
  -- with the right number of indices the checks are made in the same order
  have hrun : ∀ native receiver indices v, indices.length + 1 = m.params.length →
      ¬ g.RefusesCopy receiver →
      discard ((IndexParts.asMethod reg m (script, g)).run ⟨reg, native⟩ receiver
        (indices ++ [v])) =
      (IndexWriter.indexer g (.ofMember reg p) (.ofType reg p.valueType) script).run
        ⟨reg, native⟩ receiver indices v := by
    intro native receiver indices v hindices hcopy
    have hright : indices.length = (ArgumentsGuard.ofMember reg p).params.length :=
      Nat.succ.inj (hindices.trans hlength)
    rw [hmethod, IndexWriter.run, ReceiverGuard.checkMutable_eq_check hcopy, hguard,
      ArgumentsGuard.check_of_length_eq (by simp [hright]),
      ArgumentsGuard.checkEach_concat hright, Run.ofExcept_andThen,
      ← ArgumentsGuard.check_of_length_eq hright]
    simp only [bind_assoc]
  refine ⟨fun receiver indices v => ⟨fun halike hcopy => ?_, fun hcopy native => ?_⟩, hrun⟩
  · -- a body that takes a wrapper shows that only the writer refuses a copy
    obtain ⟨d, hd⟩ := halive
    have hrun := congrFun (halike takesWrapper) {}
    rw [hmethod, IndexWriter.run, hcopy.checkMutable, hcopy.check] at hrun
    cases hcheck : (ArgumentsGuard.ofMember reg m).check (indices ++ [v]) with
    | error e =>
      rw [hcheck] at hrun
      rcases ArgumentsGuard.fault_cases hcheck with ⟨_, _, rfl⟩ | ⟨_, _, _, rfl⟩ <;> cases hrun
    | ok u =>
      have hscript : script.run ⟨reg, takesWrapper⟩ receiver (indices ++ [v]) =
          takesWrapper _ _ receiver (indices ++ [v]) := BoundScript.run_of_get? hd _ _
      rw [hcheck, hscript] at hrun
      change Run.uncounted (discard (takesWrapper _ _ _ _)) {} = _ at hrun
      unfold takesWrapper at hrun
      split at hrun <;> cases hrun
  · by_cases hindices : indices.length + 1 = m.params.length
    · rw [hrun native receiver indices v hindices hcopy]
    · -- both refuse the number of indices once the receiver has been accepted
      have hwrong : indices.length ≠ (ArgumentsGuard.ofMember reg p).params.length := by omega
      rw [hmethod, IndexWriter.run, ReceiverGuard.checkMutable_eq_check hcopy, hguard,
        ArgumentsGuard.check_of_length_ne (by simp [hwrong]),
        ArgumentsGuard.check_of_length_ne hwrong]
      cases g.check receiver <;> rfl

end Indexers

end LateBinding
