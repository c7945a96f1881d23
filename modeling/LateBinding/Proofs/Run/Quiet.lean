import LateBinding.Proofs.Invoker.Bodiless
import LateBinding.Proofs.Invoker.Jobs
import LateBinding.Proofs.Run.PlainInvokers

/-!
# Invokers that run no body

An invoker that runs no native body but the empty one does the same whatever native bodies do. So it
does what it does where they do nothing at all, and there every invoker goes in step with itself
under every steady relation.

Main statement: `Category.relates_of_bodiless`.
-/

namespace LateBinding

open Run

variable {reg : Registry} {n₁ n₂ native : Native}

/-- Native bodies do nothing. -/
def Native.quiet : Native := fun _ _ _ arguments => pure (.null, arguments)

lemma Native.idle_quiet : quiet.Idle := fun _ _ _ => rfl

lemma Native.inStep_quiet (R : Bond) : Native.InStep R quiet quiet :=
  fun _ _ _ _ => .pure trivial

/-! ### Whatever native bodies do -/

lemma Place.read_congr (p : Place) (receiver : Value) :
    p.read ⟨reg, n₁⟩ receiver = p.read ⟨reg, n₂⟩ receiver := by
  cases p <;> rfl

lemma Place.store_congr (p : Place) (receiver new : Value) (storesValueType : Bool) :
    p.store ⟨reg, n₁⟩ receiver new storesValueType =
      p.store ⟨reg, n₂⟩ receiver new storesValueType := by
  cases p <;> rfl

lemma BoundScript.run_congr {script : BoundScript} (h : script.body = []) (hn₁ : n₁.Idle)
    (hn₂ : n₂.Idle) (receiver : Value) (arguments : List Value) :
    script.run ⟨reg, n₁⟩ receiver arguments = script.run ⟨reg, n₂⟩ receiver arguments := by
  have hscript : ∀ {n : Native}, n.Idle → script.run ⟨reg, n⟩ receiver arguments =
      Run.alive ⟨reg, n⟩ script.declaring.id >>= fun _ => pure (.null, arguments) := by
    intro n hn
    rw [run, h]
    exact congrArg _ (funext fun _ => hn _ receiver arguments)
  exact (hscript hn₁).trans (hscript hn₂).symm

lemma Getter.Bodiless.run_congr {g : Getter} (h : g.Bodiless) (receiver : Value) :
    g.run ⟨reg, n₁⟩ receiver = g.run ⟨reg, n₂⟩ receiver := by
  obtain ⟨p, haccess⟩ := h
  rw [run, run, haccess]
  exact congrArg _ (funext fun r => p.read_congr r)

lemma Setter.Bodiless.run_congr {s : Setter} (h : s.Bodiless) (receiver new : Value) :
    s.run ⟨reg, n₁⟩ receiver new = s.run ⟨reg, n₂⟩ receiver new := by
  obtain ⟨p, haccess⟩ := h
  rw [run, run, haccess]
  exact congrArg _ (funext fun r => congrArg _ (funext fun _ => p.store_congr r new _))

lemma BatchSetter.runEach_congr {setters : List Setter} (h : ∀ s ∈ setters, s.Bodiless)
    (receiver : Value) (values : List Value) :
    runEach ⟨reg, n₁⟩ receiver setters values = runEach ⟨reg, n₂⟩ receiver setters values := by
  induction setters generalizing values with
  | nil => rfl
  | cons s setters ih =>
    obtain ⟨hs, hsetters⟩ := List.forall_mem_cons.mp h
    cases values with
    | nil => rfl
    | cons v values =>
      rw [runEach, runEach, Setter.Bodiless.run_congr hs, ih hsetters]

lemma BatchSetter.Bodiless.run_congr {b : BatchSetter} (h : ∀ s ∈ b.setters, s.Bodiless)
    (receiver : Value) (values : List Value) :
    b.run ⟨reg, n₁⟩ receiver values = b.run ⟨reg, n₂⟩ receiver values := by
  rw [run, run, runEach_congr h]

lemma Copier.runEach_congr {steps : List (Getter × Setter)}
    (h : ∀ step ∈ steps, step.1.Bodiless ∧ step.2.Bodiless) (source target : Value) :
    runEach ⟨reg, n₁⟩ source target steps = runEach ⟨reg, n₂⟩ source target steps := by
  induction steps with
  | nil => rfl
  | cons step steps ih =>
    obtain ⟨⟨hgetter, hsetter⟩, hsteps⟩ := List.forall_mem_cons.mp h
    rw [runEach, runEach, Getter.Bodiless.run_congr hgetter, ih hsteps]
    exact congrArg _ (funext fun v => by rw [Setter.Bodiless.run_congr hsetter])

lemma Method.Bodiless.run_congr {m : Method} (h : m.Bodiless) (receiver : Value)
    (arguments : List Value) :
    m.run ⟨reg, n₁⟩ receiver arguments = m.run ⟨reg, n₂⟩ receiver arguments := by
  have hperform : ∀ r, m.perform ⟨reg, n₁⟩ r arguments = m.perform ⟨reg, n₂⟩ r arguments := by
    intro r
    cases h with
    | @read p hbody =>
      have hread : p.read ⟨reg, n₁⟩ r = p.read ⟨reg, n₂⟩ r := p.read_congr r
      rw [perform, perform, hbody]
      simp only [hread]
    | @write p storesValueType hbody =>
      have hstore : ∀ new, p.store ⟨reg, n₁⟩ r new storesValueType =
          p.store ⟨reg, n₂⟩ r new storesValueType := fun new => p.store_congr r new _
      rw [perform, perform, hbody]
      simp only [hstore]
  rw [run, run]
  simp only [hperform]

lemma Construction.inherit_congr {scripts : List BoundScript}
    (h : ∀ script ∈ scripts, script.body = []) (hn₁ : n₁.Idle) (hn₂ : n₂.Idle) (made : Value) :
    inherit ⟨reg, n₁⟩ made scripts = inherit ⟨reg, n₂⟩ made scripts := by
  induction scripts with
  | nil => rfl
  | cons script scripts ih =>
    obtain ⟨hscript, hscripts⟩ := List.forall_mem_cons.mp h
    rw [inherit, inherit, script.run_congr hscript hn₁ hn₂, ih hscripts]

lemma Construction.Bodiless.run_congr {c : Construction} (h : c.Bodiless) (hn₁ : n₁.Idle)
    (hn₂ : n₂.Idle) (arguments : List Value) :
    c.run ⟨reg, n₁⟩ arguments = c.run ⟨reg, n₂⟩ arguments := by
  rw [run, run]
  simp only [inherit_congr h.inherited hn₁ hn₂, c.body.run_congr h.body hn₁ hn₂]
  rfl

/-! ### In step -/

/-- Between idle native bodies an invoker without bodies sees no difference. -/
lemma Category.relates_eq {c : Category} {x : c.Item} (h : c.Bodiless x) (hn₁ : n₁.Idle)
    (hn₂ : n₂.Idle) : c.Relates (· = ·) ⟨reg, n₁⟩ ⟨reg, n₂⟩ x := by
  cases c with
  | lookups => trivial
  | getters => exact Getter.Bodiless.run_congr h
  | setters => exact Setter.Bodiless.run_congr h
  | constructors => exact Construction.Bodiless.run_congr h hn₁ hn₂
  | methods => exact Method.Bodiless.run_congr h
  | indexReaders =>
    obtain ⟨rank, rfl⟩ := h
    exact fun _ _ => rfl
  | indexWriters =>
    obtain ⟨rank, rfl⟩ := h
    exact fun _ _ _ => rfl
  | batchSetters => exact BatchSetter.Bodiless.run_congr h
  | copiers => exact Copier.runEach_congr h

/-- What goes in step with itself in one context does so in a context where it does the same. -/
lemma Category.Relates.congr {rel : ∀ {α : Type}, Run α → Run α → Prop} {ctx₁ ctx₂ : Context}
    {c : Category} {x : c.Item} (heq : c.Relates (· = ·) ctx₁ ctx₂ x)
    (h : c.Relates rel ctx₂ ctx₂ x) : c.Relates rel ctx₁ ctx₁ x := by
  cases c with
  | lookups => trivial
  | getters => exact fun v => heq v ▸ h v
  | setters => exact fun v new => heq v new ▸ h v new
  | constructors => exact fun vs => heq vs ▸ h vs
  | methods => exact fun v vs => heq v vs ▸ h v vs
  | indexReaders => exact fun v vs => heq v vs ▸ h v vs
  | indexWriters => exact fun v vs new => heq v vs new ▸ h v vs new
  | batchSetters => exact fun v vs => heq v vs ▸ h v vs
  | copiers => exact fun v w => heq v w ▸ h v w

/-- An invoker without bodies goes in step with itself, whatever native bodies do. -/
lemma Category.relates_of_bodiless {R : Bond} (hR : Steady R) (hn : native.Idle) {c : Category}
    {x : c.Item} (h : c.Bodiless x) :
    c.Relates (Run.InStep R fun _ => True) ⟨reg, native⟩ ⟨reg, native⟩ x :=
  (relates_eq h hn Native.idle_quiet).congr
    (relates (hR.contexts reg (Native.inStep_quiet R)) c x fun _ _ => trivial)

end LateBinding
