import LateBinding.Proofs.Run.InPlace
import LateBinding.Script.Eval

/-!
# How many arguments a script leaves

A script may set the arguments that it gets, and never adds or drops one, whatever it does in
between.

Main statement: `Script.keepsLength`.
-/

namespace LateBinding

variable {α β : Type} {P Q : α → Prop} {x : Run α}

/-! ### Rules -/

/-- If the run succeeds, its result is as it should be. -/
def Run.Gives (Q : α → Prop) (x : Run α) : Prop := ∀ s a t, x s = .ok a t → Q a

namespace Run.Gives

lemma pure {a : α} (hq : Q a) : Gives Q (Pure.pure a) := by
  intro s b t h
  cases h
  exact hq

lemma throw (e : Fault) : Gives Q (MonadExcept.throw e : Run α) := by
  intro s a t h
  cases h

lemma bind {f : α → Run β} {Q : β → Prop} (hx : Gives P x) (hf : ∀ a, P a → Gives Q (f a)) :
    Gives Q (x >>= f) := by
  intro s b t h
  obtain ⟨a, s', hxs, hfs⟩ := exists_of_ok h
  exact hf a (hx s a s' hxs) s' b t hfs

/-- The result does not depend on what is done before. -/
lemma after {f : α → Run β} {Q : β → Prop} (hf : ∀ a, Gives Q (f a)) : Gives Q (x >>= f) :=
  bind (P := fun _ => True) (fun _ _ _ _ => trivial) fun a _ => hf a

end Run.Gives

/-! ### Statements -/

section Statements

variable (b : Binder) (frame : Frame)

mutual

/-- A statement leaves as many arguments as there were. -/
lemma Stmt.exec_length (arguments : List Value) (stmt : Stmt) :
    Run.Gives (fun r => r.2.length = arguments.length) (stmt.exec b frame arguments) := by
  match stmt with
  | .setField _ _ | .setStaticField _ _ | .setOwnField _ _ | .log _ =>
    simp only [Stmt.exec]
    exact .after fun _ => .after fun _ => .pure rfl
  | .setArgument i _ =>
    simp only [Stmt.exec]
    exact .after fun v => .pure List.length_set
  | .setElement _ _ _ =>
    simp only [Stmt.exec]
    exact .after fun _ => .after fun _ => .after fun _ => .after fun _ => .after fun _ => .pure rfl
  | .setMember _ _ _ =>
    simp only [Stmt.exec]
    exact .after fun _ => .after fun _ => .after fun _ => .pure rfl
  | .ifNull _ whenNull otherwise =>
    simp only [Stmt.exec]
    refine .after fun v => ?_
    split
    · exact Stmt.execAll_length arguments whenNull
    · exact Stmt.execAll_length arguments otherwise
  | .refuse _ | .mismatch _ _ =>
    simp only [Stmt.exec]
    exact .throw _
  | .result _ =>
    simp only [Stmt.exec]
    exact .after fun _ => .pure rfl

/-- And so do statements one after the other. -/
lemma Stmt.execAll_length (arguments : List Value) (stmts : List Stmt) :
    Run.Gives (fun r => r.2.length = arguments.length)
      (Stmt.execAll b frame arguments stmts) := by
  match stmts with
  | [] =>
    simp only [Stmt.execAll]
    exact .pure rfl
  | stmt :: stmts =>
    simp only [Stmt.execAll]
    refine (Stmt.exec_length arguments stmt).bind fun r hr => ?_
    obtain ⟨result, left⟩ := r
    cases result with
    | some v => exact .pure hr
    | none =>
      exact fun s a t h => (Stmt.execAll_length left stmts s a t h).trans hr

end

end Statements

/-- Native bodies that are run as scripts keep the number of their arguments. -/
theorem Script.keepsLength (registry : Registry) (config : Config) (depth : Nat) :
    (Script.run registry config depth).KeepsLength := by
  intro body declaring receiver arguments s v left s' h
  cases depth with
  | zero => cases h
  | succ depth =>
    have hgives : Run.Gives (fun r => r.2.length = arguments.length)
        (Script.run registry config (depth + 1) body declaring receiver arguments) :=
      (Stmt.execAll_length _ _ arguments body).bind fun r hr => .pure hr
    exact hgives s _ s' h

end LateBinding
