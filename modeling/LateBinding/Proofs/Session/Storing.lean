import LateBinding.Proofs.Run.PlainBinder
import LateBinding.Proofs.Session.Reached

/-!
# Storage stays well typed

Sessions in which plain types are registered, and in which values are stored, copied, wrapped and
unwrapped by those who know no more than what the session has given them. Whatever they do, every
slot of every instance and every static slot holds what suits its field.

Main statement: `Storing.slots_suit`.
-/

namespace LateBinding

open Registry

/-- The values that come with the end of a request. -/
def Answer.given : Except Fault Answer → List Value
  | .ok a => a.values
  | .error _ => []

namespace Session

/-- A value that a caller can hand over: one that refers to nothing, or one of those that the
session has given. -/
def AtHand (hand : List Value) (v : Value) : Prop := v.IsBasic ∨ v ∈ hand

/-- Sessions without unloads and without access to slots by position, with the values that they have
given. -/
inductive Storing : List Value → Session → Prop where
  | start (config : Config) : Storing [] { config }
  | register {hand : List Value} {s s' : Session} {spec : TypeSpec} {type : TypeId}
      (h : Storing hand s) (hspec : spec.Allocated s.state.store.nextType) (hplain : spec.Plain)
      (hs : s.register spec = .ok (type, s')) : Storing hand s'
  | request {hand : List Value} {s : Session} {r : Request} (h : Storing hand s) (hr : r.ByName)
      (hvalues : ∀ v ∈ r.values, AtHand hand v) :
      Storing (Answer.given (s.run fun b => r.perform b).1 ++ hand)
        (s.run fun b => r.perform b).2
  | wrap {hand : List Value} {s : Session} {v : Value} (h : Storing hand s)
      (hv : AtHand hand v) :
      Storing ((s.state.store.wrap v).1 :: hand) (s.changeStore fun st => (st.wrap v).2)
  | unwrap {hand : List Value} {s : Session} {v : Value} (h : Storing hand s)
      (hv : AtHand hand v) : Storing (s.state.store.unwrap v :: hand) s
  /-- An instance is made without a constructor. -/
  | instantiate {hand : List Value} {s : Session} {type : TypeId} {d : Descriptor}
      (h : Storing hand s) (hd : s.registry.get? type = some d) :
      Storing ((s.state.store.instantiate d).1 :: hand)
        (s.changeStore fun st => (st.instantiate d).2)
  | array {hand : List Value} {s : Session} {elements : List Value} (h : Storing hand s)
      (shape : ArrayShape) (helements : ∀ v ∈ elements, AtHand hand v) :
      Storing (.array shape s.state.store.nextRef :: hand) (s.changeStore (·.addCell elements))

/-- The value has been given, or it is stored somewhere: in a cell, in a static slot, as what a slot
starts with, or in a copy that occurs. -/
inductive Occurs (hand : List Value) (s : Session) : Value → Prop where
  | given {v : Value} (h : v ∈ hand) : Occurs hand s v
  | cell {r : Ref} {v : Value} (h : v ∈ s.state.store.cell r) : Occurs hand s v
  | static {type : TypeId} {v : Value} (h : v ∈ s.state.store.staticsOf type) : Occurs hand s v
  | default {type : TypeId} {d : Descriptor} {v : Value} (hd : s.registry.get? type = some d)
      (h : v ∈ d.defaults) : Occurs hand s v
  | field {shape : Shape} {fields : List Value} {v : Value}
      (h : Occurs hand s (.struct shape fields)) (hv : v ∈ fields) : Occurs hand s v

/-! ### The invariant -/

/-- What holds of such sessions: all types are plain, and the state is well typed. -/
structure WellTyped (plan : Plan) (s : Session) : Prop where
  settled : s.registry.Settled s.state.store
  plain : s.registry.AllPlain
  state : s.state.WellTyped s.registry s.state.store.nextType plan

variable {hand : List Value} {s s' : Session} {plan plan' : Plan} {v : Value}

lemma AtHand.sound (h : AtHand hand v) (hhand : ∀ v ∈ hand, v.Sound s.registry plan) :
    v.Sound s.registry plan :=
  h.elim Value.IsBasic.sound (hhand v)

namespace WellTyped

lemma filled_start : Store.Filled .initial [] {} where
  length_eq := rfl
  instances := fun hr => by cases hr
  held := fun _ h => by cases h
  statics := by
    intro t d hd
    obtain ⟨name, isValueType, -, rfl⟩ := get?_initial_eq_some hd
    exact .nil
  heldStatic := fun _ _ h => by cases h

lemma start (config : Config) : WellTyped [] { config } where
  settled := .initial
  plain := allPlain_initial
  state := by
    refine ⟨filled_start, rfl, fun _ _ h => ?_, fun c _ _ h => ?_⟩
    · cases h
    · cases c <;> cases h

/-- A well-typed state may follow that no type has been registered in. -/
lemma next (h : WellTyped plan s) {state : State}
    (hstate : state.WellTyped s.registry s.state.store.nextType plan') :
    WellTyped plan' { s with state } := by
  refine ⟨h.settled.congr hstate.next fun hd => ?_, h.plain, hstate.next.symm ▸ hstate⟩
  rw [← (h.state.filled.statics hd).length_eq, ← (hstate.filled.statics hd).length_eq]

lemma register (h : WellTyped plan s) {spec : TypeSpec} {type : TypeId}
    (hspec : spec.Allocated s.state.store.nextType) (hplain : spec.Plain)
    (hs : s.register spec = .ok (type, s')) :
    WellTyped plan s' ∧ ∀ v : Value, v.Sound s.registry plan → v.Sound s'.registry plan := by
  obtain ⟨reg', st', hr, rfl⟩ := register_eq_ok hs
  obtain ⟨base, d, hreg⟩ := registeredPlain_of_register hplain hr
  refine ⟨⟨h.settled.register hspec hr, hreg.allPlain h.settled hspec h.plain, ?_⟩,
    fun v => hreg.sound h.settled⟩
  refine ⟨hreg.filled h.settled hspec h.plain h.state.filled, rfl, ?_, fun c k held hk => ?_⟩
  · exact h.state.lookups.registered h.settled.valid hreg.toRegistered
  · exact (h.state.invokers c k held hk).registered hreg.toRegistered h.settled

lemma request (h : WellTyped plan s) {r : Request} (hr : r.ByName)
    (hvalues : ∀ v ∈ r.values, v.Sound s.registry plan) :
    ∃ plan', plan <+: plan' ∧ WellTyped plan' (s.run fun b => r.perform b).2 ∧
      (s.run fun b => r.perform b).2.registry = s.registry ∧
        ∀ v ∈ Answer.given (s.run fun b => r.perform b).1, v.Sound s.registry plan' := by
  have hend : EndsWell s.registry s.state.store.nextType plan
      (fun plan' a => ∀ v ∈ a.values, v.Sound s.registry plan') (r.perform s.binder s.state) :=
    Request.perform_safe h.settled h.plain (Script.idle_run s.registry s.config) hr hvalues s.state
      h.state
  rw [Session.run]
  generalize r.perform s.binder s.state = result at hend
  cases hend with
  | ok hplan hs hq => exact ⟨_, hplan, h.next hs, rfl, hq⟩
  | error hplan hs => exact ⟨_, hplan, h.next hs, rfl, List.forall_mem_nil _⟩

/-- A change of the store alone that keeps it filled. -/
lemma changeStore (h : WellTyped plan s) {change : Store → Store}
    (hnext : (change s.state.store).nextType = s.state.store.nextType)
    (hfilled : (change s.state.store).Filled s.registry plan') :
    WellTyped plan' (s.changeStore change) :=
  h.next ⟨hfilled, hnext, h.state.lookups, h.state.invokers⟩

end WellTyped

lemma Storing.step_register (h : Storing hand s) {spec : TypeSpec}
    (hspec : spec.Allocated s.state.store.nextType) (hplain : spec.Plain) :
    Storing hand (s.step (.register spec)).2 := by
  rcases s.step_register_cases spec with heq | ⟨type, s', hs, heq⟩ <;> rw [heq]
  · exact h
  · exact h.register hspec hplain hs

lemma Storing.exists_wellTyped (h : Storing hand s) :
    ∃ plan, WellTyped plan s ∧ ∀ v ∈ hand, v.Sound s.registry plan := by
  induction h with
  | start config => exact ⟨[], .start config, nofun⟩
  | register _ hspec hplain hs ih =>
    obtain ⟨plan, hw, hhand⟩ := ih
    obtain ⟨hw', hsound⟩ := hw.register hspec hplain hs
    exact ⟨plan, hw', fun v hv => hsound v (hhand v hv)⟩
  | request _ hr hvalues ih =>
    obtain ⟨plan, hw, hhand⟩ := ih
    -- the request may have made instances, of which the answer can speak
    obtain ⟨plan', hplan, hw', hreg, hgiven⟩ :=
      hw.request hr fun v hv => (hvalues v hv).sound hhand
    refine ⟨plan', hw', ?_⟩
    rw [hreg]
    exact List.forall_mem_append.mpr ⟨hgiven, fun v hv => (hhand v hv).mono hplan⟩
  | wrap _ hv ih =>
    obtain ⟨plan, hw, hhand⟩ := ih
    obtain ⟨plan', hplan, hfilled, hsound⟩ := hw.state.filled.wrap (hv.sound hhand)
    exact ⟨plan', hw.changeStore (Store.nextType_wrap _ _) hfilled,
      List.forall_mem_cons.mpr ⟨hsound, fun v hv => (hhand v hv).mono hplan⟩⟩
  | unwrap _ hv ih =>
    obtain ⟨plan, hw, hhand⟩ := ih
    exact ⟨plan, hw, List.forall_mem_cons.mpr
      ⟨hw.state.filled.unwrap (hv.sound hhand), hhand⟩⟩
  | instantiate _ hd ih =>
    obtain ⟨plan, hw, hhand⟩ := ih
    obtain ⟨plan', hplan, hfilled, hsound⟩ := hw.state.filled.instantiate (hw.plain.fills hd)
      fun v hv => (hw.plain.held hd v hv).mono List.nil_prefix
    exact ⟨plan', hw.changeStore (Store.nextType_instantiate _ _) hfilled,
      List.forall_mem_cons.mpr ⟨hsound, fun v hv => (hhand v hv).mono hplan⟩⟩
  | array _ shape helements ih =>
    obtain ⟨plan, hw, hhand⟩ := ih
    obtain ⟨plan', hplan, hfilled, hsound⟩ := hw.state.filled.addArray shape fun v hv =>
      (helements v hv).sound hhand
    exact ⟨plan', hw.changeStore rfl hfilled,
      List.forall_mem_cons.mpr ⟨hsound, fun v hv => (hhand v hv).mono hplan⟩⟩

lemma Occurs.sound (h : Occurs hand s v) (hw : WellTyped plan s)
    (hhand : ∀ v ∈ hand, v.Sound s.registry plan) : v.Sound s.registry plan := by
  induction h with
  | given h => exact hhand _ h
  | cell h => exact hw.state.filled.sound_of_mem_cell h
  | static h => exact hw.state.filled.heldStatic _ _ h
  | default hd h => exact (hw.plain.held hd _ h).mono List.nil_prefix
  | field _ hv ih =>
    obtain ⟨_, -, -, hfields⟩ := hw.state.filled.of_slots? ih rfl
    exact hfields _ hv

/-- In every such session, the slots of each instance that occurs anywhere are those of the
fields along the chain of its type, and the value in each slot suits the declared type of its
field: it is assignable to the type, and where this is a value type it is neither null nor a
wrapper. Likewise for the static slots of each type. -/
theorem Storing.slots_suit (h : Storing hand s) :
    (∀ v slots, Occurs hand s v → s.state.store.slots? v = some slots →
      ∃ shape levels, v.shape? = some shape ∧ s.registry.HasShape shape ∧
        s.registry.Chain shape.id levels ∧ Occupy (chainFields levels) 0 shape.slotNames ∧
          s.registry.Fits (chainFields levels) slots) ∧
    ∀ type d, s.registry.get? type = some d →
      Occupy (fieldsOf true d.members) 0 d.staticNames ∧
        s.registry.Fits (fieldsOf true d.members) (s.state.store.staticsOf type) := by
  obtain ⟨plan, hw, hhand⟩ := h.exists_wellTyped
  refine ⟨fun v slots hv hslots => ?_, fun type d hd => ?_⟩
  · -- instances
    obtain ⟨shape, hshape, ⟨levels, hhas, hc, hfits⟩, -⟩ :=
      hw.state.filled.of_slots? (hv.sound hw hhand) hslots
    obtain ⟨d, farther, hd, rfl, hlaid⟩ := hw.settled.archive.laidOut_of_chain hc
    obtain ⟨e, he, rfl⟩ := id hhas
    obtain rfl := Option.some.inj (hd.symm.trans he)
    exact ⟨_, _, hshape, hhas, hc, hlaid.occupy, hfits⟩
  · -- static slots; the root has none
    have hfits := hw.state.filled.statics hd
    refine ⟨?_, hfits⟩
    obtain ⟨farther, -, hlaid⟩ := hw.settled.archive.laidOut hd
    cases hlaid with
    | root h =>
      have hlength := hfits.length_eq.trans (hw.settled.archive.statics hd)
      rw [h.members] at hlength ⊢
      rw [List.eq_nil_of_length_eq_zero hlength.symm]
      exact .nil 0
    | derived _ h =>
      obtain ⟨_, hover⟩ := h.laid
      exact hover.statics

/-! ### A segment in a drawing -/

/-- A value type. -/
def cornerSpec : TypeSpec :=
  { name := "Corner", isValueType := true, members := [.field { name := "x", type := TypeId.int }] }

/-- A value type with two fields of that type, the second of them behind a property. -/
def segmentSpec : TypeSpec :=
  { name := "Segment", isValueType := true
    members := [.field { name := "start", type := ⟨64⟩ },
                .property { name := "Stop", type := ⟨64⟩, body := .auto true }] }

/-- A type with a property of the one type and a static field of the other. -/
def drawingSpec : TypeSpec :=
  { name := "Drawing"
    members := [.property { name := "Line", type := ⟨65⟩, body := .auto false },
                .field { name := "origin", type := ⟨64⟩, isStatic := true }] }

/-- What a place for corners starts with. -/
def emptyCorner : Value :=
  .struct ⟨⟨64⟩, "Corner", some TypeId.object, true, [⟨64⟩, TypeId.object], ["x"], []⟩ [.int 0]

def segmentShape : Shape :=
  ⟨⟨65⟩, "Segment", some TypeId.object, true, [⟨65⟩, TypeId.object],
    ["start", "<Stop>k__BackingField"], []⟩

def drawingShape : Shape :=
  ⟨⟨66⟩, "Drawing", some TypeId.object, false, [⟨66⟩, TypeId.object],
    ["<Line>k__BackingField"], ["origin"]⟩

def emptySegment : Value := .struct segmentShape [emptyCorner, emptyCorner]

/-- A drawing and a segment have been made. -/
def madeSession : Session :=
  let s := (({} : Session).step (.register cornerSpec)).2
  let s := (s.step (.register segmentSpec)).2
  let s := (s.step (.register drawingSpec)).2
  let s := (s.run fun b => (Request.create ⟨66⟩ none []).perform b).2
  (s.run fun b => (Request.create ⟨65⟩ none []).perform b).2

/-- The segment has been wrapped, and the wrapper been written to the property of the drawing. -/
def drawnSession : Session :=
  let s := madeSession.changeStore fun st => (st.wrap emptySegment).2
  (s.run fun b => (Request.set (.instance (.object drawingShape 0)) .fieldsAndProperties "Line"
    (.wrapped segmentShape 2) none).perform b).2

lemma storing_madeSession : Storing [emptySegment, .object drawingShape 0] madeSession := by
  have hcorner : cornerSpec.Plain := by
    rintro _ (_ | ⟨_, ⟨⟩⟩)
    exact .field rfl
  have hsegment : segmentSpec.Plain := by
    rintro _ (_ | ⟨_, _ | ⟨_, ⟨⟩⟩⟩)
    · exact .field rfl
    · exact .property rfl
  have hdrawing : drawingSpec.Plain := by
    rintro _ (_ | ⟨_, _ | ⟨_, ⟨⟩⟩⟩)
    · exact .property rfl
    · exact .field rfl
  have htypes := ((((Storing.start {}).step_register (by decide) hcorner).step_register (by decide)
    hsegment).step_register (by decide) hdrawing)
  exact (htypes.request (r := .create ⟨66⟩ none []) trivial nofun).request
    (r := .create ⟨65⟩ none []) trivial nofun

lemma storing_drawnSession :
    Storing [.wrapped segmentShape 2, emptySegment, .object drawingShape 0] drawnSession := by
  have hwrapped := storing_madeSession.wrap (v := emptySegment) (.inr List.mem_cons_self)
  refine hwrapped.request (r := .set (.instance (.object drawingShape 0)) .fieldsAndProperties
    "Line" (.wrapped segmentShape 2) none) trivial fun v hv => .inr ?_
  rcases List.mem_cons.mp hv with rfl | hv
  · exact List.mem_cons_self
  · exact List.mem_singleton.mp hv ▸ List.mem_of_getElem? (rfl : _[2]? = some _)

/-- The drawing holds a copy of the segment, which suits its slot, and a corner suits the static
slot. -/
theorem Storing.slots_suit_drawnSession :
    Storing [.wrapped segmentShape 2, emptySegment, .object drawingShape 0] drawnSession ∧
      drawnSession.state.store.slots? (.object drawingShape 0) = some [emptySegment] ∧
        (∃ levels, drawnSession.registry.Chain ⟨66⟩ levels ∧
          drawnSession.registry.Fits (chainFields levels) [emptySegment]) ∧
          ∃ d, drawnSession.registry.get? ⟨66⟩ = some d ∧
            drawnSession.registry.Fits (fieldsOf true d.members) [emptyCorner] := by
  obtain ⟨hslots, hstatics⟩ := Storing.slots_suit storing_drawnSession
  obtain ⟨_, levels, ⟨⟩, -, hc, -, hfits⟩ := hslots (.object drawingShape 0) [emptySegment]
    (.given (List.mem_of_getElem? (rfl : _[2]? = some _))) rfl
  obtain ⟨-, hstatic⟩ := hstatics ⟨66⟩ _ rfl
  exact ⟨storing_drawnSession, rfl, ⟨levels, hc, hfits⟩, _, rfl, hstatic⟩

end Session

end LateBinding
