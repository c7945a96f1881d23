import LateBinding.Invoker.OfMember
import LateBinding.Invoker.Run
import LateBinding.Proofs.Registry.Accessors

/-!
# Accessor methods

A property or indexer brings a method for each accessor, and so there are two invokers for it. They
are made of the same parts, or fail alike: the method of a getter or setter has the receiver's guard
and goes where the getter or setter goes, and its only argument is the value that is written.

What the two do is compared in `Run.Accessors`.

Main statements: `Method.ofMember_reader`, `Method.ofMember_writer` and `Method.ofMember_indexer`.
-/

namespace LateBinding

variable {reg : Registry} {target : TypeId} {p : Member} {a : Accessor} {body : Script}

/-! ### What is made -/

/-- Two things are made alike if both fail at the same fault or both are made and go together. -/
inductive MadeAlike {α β : Type} (R : α → β → Prop) : Except Fault α → Except Fault β → Prop where
  | error (e : Fault) : MadeAlike R (.error e) (.error e)
  | ok {a : α} {b : β} (h : R a b) : MadeAlike R (.ok a) (.ok b)

lemma MadeAlike.of_map {α β γ : Type} {R : α → β → Prop} {x : Except Fault γ} {f : γ → α}
    {g : γ → β} (h : ∀ c, x = .ok c → R (f c) (g c)) : MadeAlike R (f <$> x) (g <$> x) := by
  cases x with
  | error e => exact .error e
  | ok c => exact .ok (h c rfl)

lemma MadeAlike.map_right {α β : Type} {R : α → β → Prop} {x : Except Fault α} {g : α → β}
    (h : ∀ a, x = .ok a → R a (g a)) : MadeAlike R x (g <$> x) := by
  cases x with
  | error e => exact .error e
  | ok a => exact .ok (h a rfl)

lemma MadeAlike.rel {α β : Type} {R : α → β → Prop} {a : α} {b : β}
    (h : MadeAlike R (.ok a) (.ok b)) : R a b := by
  cases h with
  | ok h => exact h

/-! ### Getters and setters as methods -/

/-- The body of the method that reads what the access goes to. -/
def Access.readBody : Access → MethodBody
  | place p => .read p
  | native script => .native script

/-- The body of the method that writes what the access goes to. -/
def Access.writeBody (storesValueType : Bool) : Access → MethodBody
  | place p => .write p storesValueType
  | native script => .native script

/-- The method that is made of the parts of a getter. -/
def Getter.asMethod (text : String) (g : Getter) : Method where
  receiver := g.receiver
  arguments := ⟨text, []⟩
  body := g.access.readBody
  params := []

/-- The method that is made of the parts of a setter. -/
def Setter.asMethod (text : String) (s : Setter) : Method where
  receiver := s.receiver
  arguments := ⟨text, [s.value]⟩
  body := s.access.writeBody s.value.isValueType
  params := [⟨s.value.type, false⟩]

lemma Method.ofMember_reader {setter : Option Accessor} (hbody : p.body = .property (some a) setter)
    (hparams : p.params = []) : ofMember reg target (p.reader a) =
      Getter.asMethod (p.reader a).text <$> Getter.ofMember reg target p := by
  have haccess : Getter.accessOf reg p = Access.ofAccessor reg p a := by
    rw [Getter.accessOf, hbody]
  have hmade : MethodBody.ofAccessor reg (p.reader a) a =
      Access.readBody <$> Access.ofAccessor reg p a := by
    cases a with
    | slot index =>
      have hlast : (p.reader (.slot index)).params.getLast? = none := by
        rw [Member.reader, Layout.getterMethod, hparams]
        rfl
      rw [MethodBody.ofAccessor, Access.ofAccessor, hlast]
      change (Place.ofSlot reg p index >>= _) = _
      cases Place.ofSlot reg p index <;> rfl
    | native body =>
      change MethodBody.native <$> BoundScript.ofMember reg p body = _
      rw [Access.ofAccessor]
      cases BoundScript.ofMember reg p body <;> rfl
  have harguments : ArgumentsGuard.ofMember reg (p.reader a) = ⟨(p.reader a).text, []⟩ := by
    rw [ArgumentsGuard.ofMember]
    exact congrArg (ArgumentsGuard.mk _) (congrArg (List.map _) hparams)
  change (MethodBody.ofAccessor reg (p.reader a) a >>= fun body =>
    ReceiverGuard.ofMember reg target p >>= fun receiver =>
      pure { receiver, arguments := .ofMember reg (p.reader a), body,
             params := p.params : Method }) = _
  rw [hmade, harguments, hparams, Getter.ofMember, haccess]
  cases Access.ofAccessor reg p a with
  | error e => rfl
  | ok access => cases ReceiverGuard.ofMember reg target p <;> rfl

lemma Method.ofMember_writer {getter : Option Accessor} (hbody : p.body = .property getter (some a))
    (hparams : p.params = []) : ofMember reg target (p.writer a) =
      Setter.asMethod (p.writer a).text <$> Setter.ofMember reg target p := by
  have hparams' : (p.writer a).params = [⟨p.valueType, false⟩] := by
    rw [Member.writer, Layout.setterMethod, hparams]
    rfl
  have haccess : Setter.accessOf reg p = Access.ofAccessor reg p a := by
    rw [Setter.accessOf, hbody]
  have hmade : MethodBody.ofAccessor reg (p.writer a) a =
      Access.writeBody (reg.isValueType p.valueType) <$> Access.ofAccessor reg p a := by
    cases a with
    | slot index =>
      rw [MethodBody.ofAccessor, Access.ofAccessor, hparams']
      change (Place.ofSlot reg p index >>= _) = _
      cases Place.ofSlot reg p index <;> rfl
    | native body =>
      change MethodBody.native <$> BoundScript.ofMember reg p body = _
      rw [Access.ofAccessor]
      cases BoundScript.ofMember reg p body <;> rfl
  have harguments : ArgumentsGuard.ofMember reg (p.writer a) =
      ⟨(p.writer a).text, [.ofType reg p.valueType]⟩ := by
    rw [ArgumentsGuard.ofMember, hparams']
    rfl
  change (MethodBody.ofAccessor reg (p.writer a) a >>= fun body =>
    ReceiverGuard.ofMember reg target p >>= fun receiver =>
      pure { receiver, arguments := .ofMember reg (p.writer a), body,
             params := (p.writer a).params : Method }) = _
  rw [hmade, harguments, hparams', Setter.ofMember, haccess]
  cases Access.ofAccessor reg p a with
  | error e => rfl
  | ok access => cases ReceiverGuard.ofMember reg target p <;> rfl

/-! ### Indexers as methods -/

/-- What an indexer's accessor goes to, and the guard of its receivers. -/
def IndexParts (reg : Registry) (target : TypeId) (p : Member) (body : Script) :
    Except Fault (BoundScript × ReceiverGuard) := do
  let script ← BoundScript.ofMember reg p body
  let receiver ← ReceiverGuard.ofTarget reg target
  pure (script, receiver)

/-- The method that calls the script behind an accessor of an indexer. -/
def IndexParts.asMethod (reg : Registry) (m : Member) (parts : BoundScript × ReceiverGuard) :
    Method where
  receiver := some parts.2
  arguments := .ofMember reg m
  body := .native parts.1
  params := m.params

lemma IndexReader.ofMember_eq {setter : Option Script}
    (hbody : p.body = .indexer (some body) setter) : ofMember reg target p =
      (fun parts => .indexer parts.2 (.ofMember reg p) parts.1) <$>
        IndexParts reg target p body := by
  simp only [ofMember, hbody, IndexParts]
  cases BoundScript.ofMember reg p body with
  | error e => rfl
  | ok script => cases ReceiverGuard.ofTarget reg target <;> rfl

lemma IndexWriter.ofMember_eq {getter : Option Script}
    (hbody : p.body = .indexer getter (some body)) : ofMember reg target p =
      (fun parts => .indexer parts.2 (.ofMember reg p) (.ofType reg p.valueType) parts.1) <$>
        IndexParts reg target p body := by
  simp only [ofMember, hbody, IndexParts]
  cases BoundScript.ofMember reg p body with
  | error e => rfl
  | ok script => cases ReceiverGuard.ofTarget reg target <;> rfl

/-- A method that is declared where the indexer is goes to the same script with the same guard. -/
lemma Method.ofMember_indexer {m : Member} (hm : m.body = .method (.native body))
    (hdeclaring : m.declaring = p.declaring) (hstatic : m.isStatic = false) :
    ofMember reg target m = IndexParts.asMethod reg m <$> IndexParts reg target p body := by
  rw [ofMember, hm, IndexParts]
  simp only [MethodBody.ofAccessor, ReceiverGuard.ofMember, hstatic, BoundScript.ofMember,
    hdeclaring]
  cases reg.known p.declaring with
  | error e => rfl
  | ok d => cases ReceiverGuard.ofTarget reg target <;> rfl

end LateBinding
