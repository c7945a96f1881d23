import LateBinding.Proofs.Run.Atomic
import LateBinding.Proofs.Session.Arguments

/-!
# Requests that fail

In a session in which no type brings a native body, whatever has been unloaded and cached, a request
about one member that fails has changed nothing: no slot of an instance or a wrapper, no static
slot, no element of an array, and not the arguments of the caller.

Main statement: `Bodiless.atomic`.
-/

namespace LateBinding

/-- An invoker that an answer hands out has no body. -/
def Answer.Bodiless : Answer → Prop
  | getter g => g.value.Bodiless
  | setter s => s.value.Bodiless
  | method m => m.value.Bodiless
  | constructor c => c.value.Bodiless
  | _ => True

namespace Session

/-! ### Sessions without bodies -/

/-- Sessions in which no type that is registered brings a body. -/
inductive Bodiless : Session → Prop where
  | start (config : Config) : Bodiless { config }
  | register {s s' : Session} {spec : TypeSpec} {type : TypeId} (h : Bodiless s)
      (hspec : spec.Allocated s.state.store.nextType) (hbodiless : spec.Bodiless)
      (hs : s.register spec = .ok (type, s')) : Bodiless s'
  | unload {s s' : Session} {type : TypeId} {removed : Nat} (h : Bodiless s)
      (hs : s.unload type = .ok (removed, s')) : Bodiless s'
  | request {s : Session} (h : Bodiless s) (r : Request) :
      Bodiless (s.run fun b => r.perform b).2
  | outside {s : Session} (h : Bodiless s) (change : Store → Store)
      (hchange : s.state.store.nextType.code ≤ (change s.state.store).nextType.code) :
      Bodiless (s.changeStore change)

variable {s s' : Session}

namespace Bodiless

lemma exists_reached (h : Bodiless s) : ∃ gone, Reached gone s := by
  induction h with
  | start config => exact ⟨[], .start config⟩
  | register _ hspec _ hs ih =>
    obtain ⟨gone, h⟩ := ih
    exact ⟨gone, h.register hspec hs⟩
  | unload _ hs ih =>
    obtain ⟨gone, h⟩ := ih
    exact ⟨_, h.unload hs⟩
  | request _ r ih =>
    obtain ⟨gone, h⟩ := ih
    exact ⟨gone, h.request r⟩
  | outside _ change hchange ih =>
    obtain ⟨gone, h⟩ := ih
    exact ⟨gone, h.outside change hchange⟩

lemma step_register (h : Bodiless s) {spec : TypeSpec}
    (hspec : spec.Allocated s.state.store.nextType) (hbodiless : spec.Bodiless) :
    Bodiless (s.step (.register spec)).2 := by
  rcases s.step_register_cases spec with heq | ⟨type, s', hs, heq⟩ <;> rw [heq]
  · exact h
  · exact h.register hspec hbodiless hs

lemma allBodiless (h : Bodiless s) : s.registry.AllBodiless := by
  induction h with
  | start config => exact Registry.allBodiless_initial
  | register _ _ hbodiless hs ih =>
    obtain ⟨reg', st', hr, rfl⟩ := register_eq_ok hs
    exact ih.register hbodiless hr
  | unload _ hs ih =>
    obtain ⟨reg', hr, rfl⟩ := unload_eq_ok hs
    exact ih.unload hr
  | request _ r ih =>
    rw [run_snd]
    exact ih
  | outside _ _ _ ih => exact ih

/-- No invoker that is remembered has a body, also if it was made for a type that is gone. -/
lemma holds (h : Bodiless s) : s.state.caches.Holds s.registry Category.Bodiless := by
  obtain ⟨gone, hreached⟩ := h.exists_reached
  refine ⟨hreached.sound.caches.lookups, ?_⟩
  clear hreached
  induction h with
  | start config =>
    have hempty : Caches.Holds .initial Category.Bodiless {} := Caches.holds_empty
    exact fun {c k held} hc hk => hempty.invokers hc hk
  | register _ _ _ hs ih =>
    obtain ⟨reg', st', -, rfl⟩ := register_eq_ok hs
    exact ih
  | unload _ hs ih =>
    obtain ⟨reg', -, rfl⟩ := unload_eq_ok hs
    exact fun hc hk => ih hc (Caches.get?_of_get?_purge hk).1
  | @request s h r ih =>
    obtain ⟨gone, hreached⟩ := h.exists_reached
    have hkept := kept_holds h.allBodiless.built s.config s.state.store.nextType
    have hafter := hkept.scripted ((hkept.accord _).perform r)
      ⟨rfl, hreached.sound.caches.lookups, ih⟩
    rw [run_snd]
    intro c k held hc hk
    exact hafter.2.invokers hc hk
  | outside _ _ _ ih => exact ih

/-- Whatever invoker such a session hands out has no body. -/
lemma answer (h : Bodiless s) {r : Request} {a : Answer}
    (ha : (s.run fun b => r.perform b).1 = .ok a) : a.Bodiless := by
  rw [run_fst] at ha
  have hend := Run.answer_eq_ok ha
  have hP := h.allBodiless.built
  cases r with
  | getter type kinds name flags =>
    obtain ⟨g, t, hg, rfl⟩ := Run.exists_of_bind_pure hend
    exact (Binder.getter_looks hP type kinds name flags).of_ok h.holds hg
  | setter type kinds name flags =>
    obtain ⟨x, t, hx, rfl⟩ := Run.exists_of_bind_pure hend
    exact (Binder.setter_looks hP type kinds name flags).of_ok h.holds hx
  | method type name params flags =>
    obtain ⟨m, t, hm, rfl⟩ := Run.exists_of_bind_pure hend
    exact (Binder.method_looks hP (.method type name params flags)).of_ok h.holds hm
  | constructor type params =>
    obtain ⟨c, t, hc, rfl⟩ := Run.exists_of_bind_pure hend
    exact (Binder.constructor_looks hP (.constructor type params)).of_ok h.holds hc
  | _ =>
    obtain ⟨x, t, -, rfl⟩ := Run.exists_of_bind_pure hend
    trivial

/-- A request about one member that fails has left all that was stored as it was. If an instance was
to be made, new cells may have been added. It does not matter which invokers are remembered, nor
where an invoker comes from that is run itself, if only it has no body. If the request is a call, it
fails in the same way on the caller's list of arguments, and this list is as it was. -/
theorem atomic (h : Bodiless s) {r : Request} (hsingle : r.Single) (hbodiless : r.Bodiless)
    {e : Fault} (he : (s.run fun b => r.perform b).1 = .error e) :
    (∃ made, (made ≠ [] → r.Makes) ∧ (s.run fun b => r.perform b).2.state.store =
      { s.state.store with cells := s.state.store.cells ++ made }) ∧
    ∀ (call : Call) arguments, r = call.toRequest arguments → call.Genuine →
      call.inPlace s.binder (arguments, s.state) =
        .error e (arguments, (s.run fun b => r.perform b).2.state) := by
  have hrun : (r.perform s.binder).Atomic s.registry Category.Bodiless r.Makes :=
    Request.perform_atomic h.allBodiless (Script.idle_run s.registry s.config) hsingle hbodiless
  rw [run_fst] at he
  rw [run_snd]
  have hend : ∃ t, r.perform s.binder s.state = .error e t := by
    generalize r.perform s.binder s.state = result at he
    cases result with
    | ok a t => cases he
    | error e' t => exact ⟨t, by rw [Except.error.inj he]⟩
  obtain ⟨t, ht⟩ := hend
  rw [ht]
  refine ⟨hrun s.state h.holds e t ht, ?_⟩
  rintro call arguments rfl hcall
  obtain ⟨gone, hreached⟩ := h.exists_reached
  have hn := Script.keepsLength s.registry s.config Script.maxDepth
  refine (hreached.inPlace_eq hcall hn arguments).trans ?_
  rw [show call.run (.of s.registry s.config _) arguments s.state = _ from Call.run_eq_error ht]
  rfl

/-! ### A counter and a value that does not fit -/

/-- A type with an automatic property and a constructor that does nothing with its argument. -/
def counterSpec : TypeSpec :=
  { name := "Counter"
    members := [.property { name := "Count", type := TypeId.int, body := .auto false },
                .constructor { params := [⟨TypeId.string, true⟩], body := [] }] }

def counterShape : Shape :=
  ⟨⟨64⟩, "Counter", some TypeId.object, false, [⟨64⟩, TypeId.object],
    ["<Count>k__BackingField"], []⟩

/-- A counter has been made and set. -/
def countedSession : Session :=
  let s := (({} : Session).step (.register counterSpec)).2
  let s := (s.run fun b =>
    (Request.create ⟨64⟩ (some [⟨TypeId.string, true⟩]) [.str "first"]).perform b).2
  (s.run fun b => (Request.set (.instance (.object counterShape 0)) .fieldsAndProperties "Count"
    (.int 7) none).perform b).2

lemma bodiless_countedSession : Bodiless countedSession := by
  have hspec : counterSpec.Bodiless := by
    rintro _ (_ | ⟨_, _ | ⟨_, ⟨⟩⟩⟩)
    · exact .auto rfl
    · exact .constructor rfl
  exact (((Bodiless.start {}).step_register (by decide) hspec).request _).request _

/-- The setter of the property is asked for and kept. When it is run with a text it fails, and the
counter still holds its number. A constructor that gets a number for its text by reference leaves
the number in the caller's list. -/
theorem atomic_countedSession : ∃ (x : Stamped Setter) (t : State),
    let asked := countedSession.run fun b =>
      (Request.setter ⟨64⟩ .fieldsAndProperties "Count" .instanceAny).perform b
    let failed := asked.2.run fun b =>
      (Request.useSetter x.value (.object counterShape 0) (.str "many")).perform b
    Bodiless asked.2 ∧ asked.1 = .ok (.setter x) ∧ x.value.Bodiless ∧
      failed.1 = .error (.mismatch "int" "string") ∧
      failed.2.state.store.readSlot (.object counterShape 0) 0 = .ok (.int 7) ∧
      (Call.create ⟨64⟩ (some [⟨TypeId.string, true⟩])).inPlace countedSession.binder
        ([.int 1], countedSession.state) = .error (.mismatch "string" "int") ([.int 1], t) ∧
      t.store = countedSession.state.store := by
  have hasked : Bodiless (countedSession.run fun b =>
    (Request.setter ⟨64⟩ .fieldsAndProperties "Count" .instanceAny).perform b).2 :=
    bodiless_countedSession.request _
  have hkept := bodiless_countedSession.answer
    (r := .setter ⟨64⟩ .fieldsAndProperties "Count" .instanceAny) rfl
  obtain ⟨⟨made, hmade, hstore⟩, -⟩ := hasked.atomic (r := .useSetter _ (.object counterShape 0)
    (.str "many")) trivial hkept rfl
  obtain ⟨-, hcalls⟩ := bodiless_countedSession.atomic
    (r := .create ⟨64⟩ (some [⟨TypeId.string, true⟩]) [.int 1]) trivial trivial rfl
  have hcall := hcalls (.create ⟨64⟩ (some [⟨TypeId.string, true⟩])) [.int 1] rfl (.create _ _)
  refine ⟨_, _, hasked, rfl, hkept, rfl, ?_, hcall, rfl⟩
  obtain rfl : made = [] := by_contra hmade
  rw [hstore]
  rfl

end Bodiless

end Session

end LateBinding
