import LateBinding.Proofs.Run.Binder
import LateBinding.Proofs.Store.Basic
import LateBinding.Script.Eval

/-!
# Scripts in step

A script works on the store and through the binder. Under a concord it therefore goes in step, and
so does whatever the binder does when native bodies are run as scripts.
-/

namespace LateBinding

open Run

variable {reg : Registry} {config : Config} {r₁ r₂ : Bool} {R : Bond}
  {n₁ n₂ : Native}

/-! ### Expressions -/

mutual

lemma Expr.eval_inStep (hR : Concord reg config r₁ r₂ R) (hn : Native.InStep R n₁ n₂)
    (frame : Frame) (arguments : List Value) (e : Expr) : Run.InStep R (fun _ => True)
      (e.eval (.of reg (config.remembering r₁) n₁) frame arguments)
      (e.eval (.of reg (config.remembering r₂) n₂) frame arguments) := by
  match e with
  | .literal _ | .argument _ | .argumentCount | .receiver | .declaringName =>
    simp only [Expr.eval]
    exact .pure trivial
  | .field _ | .staticField _ | .ownField _ =>
    simp only [Expr.eval]
    exact hR.ask _
  | .add left right =>
    simp only [Expr.eval]
    apply (Expr.eval_inStep hR hn frame arguments left).bind
    intro _ _
    exact (Expr.eval_inStep hR hn frame arguments right).bind fun _ _ => .pure trivial
  | .typeName e =>
    simp only [Expr.eval]
    exact (Expr.eval_inStep hR hn frame arguments e).bind fun _ _ => .pure trivial
  | .element array index =>
    simp only [Expr.eval]
    apply (Expr.eval_inStep hR hn frame arguments array).bind
    intro _ _
    apply (Expr.eval_inStep hR hn frame arguments index).bind
    intro _ _
    exact (InStep.ofExcept _).bind fun _ _ => hR.ask _
  | .member target name =>
    simp only [Expr.eval]
    apply (Expr.eval_inStep hR hn frame arguments target).bind
    intro v _
    exact hR.get (.instance v) .fieldsAndProperties name none n₁ n₂ hn
  | .call target name operands =>
    simp only [Expr.eval]
    apply (Expr.eval_inStep hR hn frame arguments target).bind
    intro v _
    apply (Expr.evalAll_inStep hR hn frame arguments operands).bind
    intro vs _
    exact (hR.call _ name none vs n₁ n₂ hn).bind fun _ _ => .pure trivial
  | .wrap e =>
    simp only [Expr.eval]
    exact (Expr.eval_inStep hR hn frame arguments e).bind fun v _ =>
      hR.step fun st => st.nextType_wrap v
  | .newArray type isValueType length fill =>
    simp only [Expr.eval]
    exact hR.step fun st => st.nextType_newArray _ fill
  | .construct type operands =>
    simp only [Expr.eval]
    apply (Expr.evalAll_inStep hR hn frame arguments operands).bind
    intro vs _
    exact (hR.create type none vs n₁ n₂ hn).bind fun _ _ => .pure trivial

lemma Expr.evalAll_inStep (hR : Concord reg config r₁ r₂ R) (hn : Native.InStep R n₁ n₂)
    (frame : Frame) (arguments : List Value) (es : List Expr) : Run.InStep R (fun _ => True)
      (Expr.evalAll (.of reg (config.remembering r₁) n₁) frame arguments es)
      (Expr.evalAll (.of reg (config.remembering r₂) n₂) frame arguments es) := by
  match es with
  | [] =>
    simp only [Expr.evalAll]
    exact .pure trivial
  | e :: es =>
    simp only [Expr.evalAll]
    apply (Expr.eval_inStep hR hn frame arguments e).bind
    intro _ _
    exact (Expr.evalAll_inStep hR hn frame arguments es).bind fun _ _ => .pure trivial

end

/-! ### Statements -/

mutual

lemma Stmt.exec_inStep (hR : Concord reg config r₁ r₂ R) (hn : Native.InStep R n₁ n₂)
    (frame : Frame) (arguments : List Value) (s : Stmt) : Run.InStep R (fun _ => True)
      (s.exec (.of reg (config.remembering r₁) n₁) frame arguments)
      (s.exec (.of reg (config.remembering r₂) n₂) frame arguments) := by
  match s with
  | .setField name e =>
    simp only [Stmt.exec]
    apply (e.eval_inStep hR hn frame arguments).bind
    intro _ _
    exact (hR.update Store.nextType_writeFieldOf).bind fun _ _ => .pure trivial
  | .setStaticField name e =>
    simp only [Stmt.exec]
    apply (e.eval_inStep hR hn frame arguments).bind
    intro _ _
    exact (hR.update Store.nextType_writeStaticField).bind fun _ _ => .pure trivial
  | .setOwnField name e =>
    simp only [Stmt.exec]
    apply (e.eval_inStep hR hn frame arguments).bind
    intro _ _
    exact (hR.update Store.nextType_writeField).bind fun _ _ => .pure trivial
  | .setArgument i e =>
    simp only [Stmt.exec]
    exact (e.eval_inStep hR hn frame arguments).bind fun _ _ => .pure trivial
  | .setElement array index e =>
    simp only [Stmt.exec]
    apply (array.eval_inStep hR hn frame arguments).bind
    intro _ _
    apply (index.eval_inStep hR hn frame arguments).bind
    intro _ _
    apply (e.eval_inStep hR hn frame arguments).bind
    intro _ _
    apply (InStep.ofExcept _).bind
    intro _ _
    exact (hR.update Store.nextType_writeCell).bind fun _ _ => .pure trivial
  | .setMember target name e =>
    simp only [Stmt.exec]
    apply (target.eval_inStep hR hn frame arguments).bind
    intro v _
    apply (e.eval_inStep hR hn frame arguments).bind
    intro new _
    apply (hR.set (.instance v) .fieldsAndProperties name new none n₁ n₂ hn).bind
    intro _ _
    exact .pure trivial
  | .log e =>
    simp only [Stmt.exec]
    apply (e.eval_inStep hR hn frame arguments).bind
    intro v _
    refine (hR.update fun {st st'} h => ?_).bind fun _ _ => .pure trivial
    cases h
    exact st.nextType_logValue v
  | .ifNull e whenNull otherwise =>
    simp only [Stmt.exec]
    apply (e.eval_inStep hR hn frame arguments).bind
    intro v _
    split
    · exact Stmt.execAll_inStep hR hn frame arguments whenNull
    · exact Stmt.execAll_inStep hR hn frame arguments otherwise
  | .refuse _ | .mismatch _ _ =>
    simp only [Stmt.exec]
    exact .throw _
  | .result e =>
    simp only [Stmt.exec]
    exact (e.eval_inStep hR hn frame arguments).bind fun _ _ => .pure trivial

lemma Stmt.execAll_inStep (hR : Concord reg config r₁ r₂ R) (hn : Native.InStep R n₁ n₂)
    (frame : Frame) (arguments : List Value) (ss : List Stmt) : Run.InStep R (fun _ => True)
      (Stmt.execAll (.of reg (config.remembering r₁) n₁) frame arguments ss)
      (Stmt.execAll (.of reg (config.remembering r₂) n₂) frame arguments ss) := by
  match ss with
  | [] =>
    simp only [Stmt.execAll]
    exact .pure trivial
  | s :: ss =>
    simp only [Stmt.execAll]
    apply (Stmt.exec_inStep hR hn frame arguments s).bind
    intro progress _
    obtain ⟨result, arguments⟩ := progress
    cases result with
    | none => exact Stmt.execAll_inStep hR hn frame arguments ss
    | some v => exact .pure trivial

end

/-! ### Nested scripts -/

variable (hR : Concord reg config r₁ r₂ R)
include hR

/-- Native bodies that are run as scripts go in step, however deeply they may be nested. -/
lemma Script.run_inStep (depth : Nat) :
    Native.InStep R (Script.run reg (config.remembering r₁) depth)
      (Script.run reg (config.remembering r₂) depth) := by
  induction depth with
  | zero => exact fun _ _ _ _ => .throw _
  | succ depth ih =>
    intro script declaring receiver arguments
    apply (Stmt.execAll_inStep hR ih ⟨declaring, receiver⟩ arguments script).bind
    intro _ _
    exact .pure trivial

/-- What goes in step as soon as native bodies do goes in step with scripts for native bodies. -/
lemma Concord.scripted {α : Type} {operation : Binder → Run α}
    (h : Binder.InStep reg config r₁ r₂ R operation) : Run.InStep R (fun _ => True)
      (operation (.scripted reg (config.remembering r₁)))
      (operation (.scripted reg (config.remembering r₂))) :=
  h _ _ (Script.run_inStep hR Script.maxDepth)

omit hR in
lemma Accord.scripted {α : Type} (hR : Accord reg config r₁ r₂ R) {operation : Binder → Run α}
    (h : Binder.InStep reg config r₁ r₂ R operation) : Run.InStep R (fun _ => True)
      (operation (.scripted reg (config.remembering r₁)))
      (operation (.scripted reg (config.remembering r₂))) :=
  hR.toConcord.scripted h

end LateBinding
