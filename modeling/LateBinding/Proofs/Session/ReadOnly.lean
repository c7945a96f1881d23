import Mathlib.Logic.Relation
import LateBinding.Proofs.Run.ReadOnlyBinder
import LateBinding.Proofs.Session.Storing

/-!
# Read-only slots are never written

Types without native bodies are registered, and a caller asks for whatever can be asked for, with
values and invokers that the session has given or that can be made of those. In the meantime no slot
of a read-only field, and none behind an automatic property that can only be read, changes. Whether
a slot may be written is looked at only when an invoker is made, and invokers are remembered, handed
out, and run on instances of derived types, which may have declared the same name anew.

Main statement: `Dialogue.slots_kept`.
-/

namespace LateBinding

open Registry

/-- A session together with the answers that it has given. -/
structure Dialogue where
  session : Session
  answers : List Answer := []

namespace Dialogue

abbrev registry (x : Dialogue) : Registry := x.session.registry

abbrev store (x : Dialogue) : Store := x.session.state.store

/-- The values that have been given. -/
def hand (x : Dialogue) : List Value := x.answers.flatMap Answer.values

/-- A value that the caller can hand over: one that refers to nothing, one that has been given or is
stored somewhere, or a copy made of such values. -/
inductive Offers (x : Dialogue) : Value → Prop where
  | basic {v : Value} (h : v.IsBasic) : Offers x v
  | occurs {v : Value} (h : Session.Occurs x.hand x.session v) : Offers x v
  | copy {shape : Shape} {fields : List Value} (h : x.registry.HasShape shape)
      (hlength : fields.length = shape.slotNames.length) (hfields : ∀ v ∈ fields, Offers x v) :
      Offers x (.struct shape fields)

/-- The request is performed, and what is answered has been given. -/
def ask (x : Dialogue) (r : Request) : Dialogue where
  session := (x.session.run fun b => r.perform b).2
  answers := (x.session.run fun b => r.perform b).1.toOption.toList ++ x.answers

/-- The caller changes the store by itself and has a value from this. -/
def make (x : Dialogue) (change : Store → Store) (v : Value) : Dialogue where
  session := x.session.changeStore change
  answers := .value v :: x.answers

/-- The invoker has been handed out. -/
def HasHanded (x : Dialogue) (c : Category) (i : c.Item) : Prop := ∃ a ∈ x.answers, a.Hands c i

/-- What can come next: a type is registered, something is asked, or the caller makes an instance or
an array by itself. -/
inductive Next (x : Dialogue) : Dialogue → Prop where
  | register {spec : TypeSpec} {type : TypeId} {s : Session}
      (hspec : spec.Allocated x.store.nextType) (hbodiless : spec.Bodiless)
      (hinitials : ∀ v ∈ spec.initials, x.Offers v) (hs : x.session.register spec = .ok (type, s)) :
      Next x { x with session := s }
  | request {r : Request} (hoperands : ∀ v ∈ r.operands, x.Offers v)
      (hbrings : r.Brings x.HasHanded) : Next x (x.ask r)
  | wrap {v : Value} (hv : x.Offers v) :
      Next x (x.make (fun st => (st.wrap v).2) (x.store.wrap v).1)
  /-- An instance is made without a constructor. -/
  | instantiate {type : TypeId} {d : Descriptor} (hd : x.registry.get? type = some d) :
      Next x (x.make (fun st => (st.instantiate d).2) (x.store.instantiate d).1)
  | array {elements : List Value} (shape : ArrayShape) (helements : ∀ v ∈ elements, x.Offers v) :
      Next x (x.make (·.addCell elements) (.array shape x.store.nextRef))

/-! ### The invariant -/

/-- What holds of such dialogues: no type has a body, the store is charted, and all invokers that
are remembered or have been handed out keep off read-only slots. -/
structure Careful (plan : Plan) (x : Dialogue) : Prop where
  settled : x.registry.Settled x.store
  bodiless : x.registry.AllBodiless
  charted : x.store.Charted x.registry plan
  caches : x.session.state.caches.Holds x.registry (Category.Careful x.registry)
  answers : ∀ a ∈ x.answers, a.Careful x.registry plan

/-- From the one dialogue to the other, what cannot be written is kept, and no slot that could not
be written can be written now. -/
structure Leads (x : Dialogue) (plan : Plan) (y : Dialogue) (plan' : Plan) : Prop where
  grown : plan <+: plan'
  keeps : x.store.Keeps x.registry plan y.store
  instances : ∀ {type i writable}, x.registry.InstanceSlot type i writable →
    y.registry.InstanceSlot type i writable
  statics : ∀ {type i writable}, x.registry.StaticSlot type i writable →
    y.registry.StaticSlot type i writable

variable {x y z : Dialogue} {plan plan' plan'' : Plan} {v : Value}

lemma Leads.refl (x : Dialogue) (plan : Plan) : Leads x plan x plan :=
  ⟨List.prefix_refl _, .refl _ _ _, id, id⟩

lemma Leads.trans (h : Leads x plan y plan') (h' : Leads y plan' z plan'') :
    Leads x plan z plan'' where
  grown := h.grown.trans h'.grown
  keeps := by
    refine ⟨fun hv hshape hi => ?_, fun hi => ?_⟩
    · exact (h'.keeps.instances (hv.mono h.grown) hshape (h.instances hi)).trans
        (h.keeps.instances hv hshape hi)
    · exact (h'.keeps.statics (h.statics hi)).trans (h.keeps.statics hi)
  instances := h'.instances ∘ h.instances
  statics := h'.statics ∘ h.statics

namespace Careful

lemma start (config : Config) : Careful [] { session := { config } } where
  settled := .initial
  bodiless := allBodiless_initial
  charted := .initial
  caches := Caches.holds_empty
  answers := nofun

lemma built (h : Careful plan x) :
    Category.Built x.registry (Category.Careful x.registry) :=
  h.bodiless.built.and h.settled.built_open

lemma known (h : Careful plan x) (hv : x.Offers v) : v.Known x.registry plan := by
  induction hv with
  | basic h => exact h.known
  | copy hshape hlength _ ih => exact .copy hshape hlength ih
  | occurs ho =>
    induction ho with
    | given hv =>
      obtain ⟨a, ha, hv⟩ := List.mem_flatMap.mp hv
      exact (h.answers a ha).values _ hv
    | cell hv => exact h.charted.known_of_mem_cell hv
    | static hv => exact h.charted.heldStatic _ _ hv
    | default hd hv => exact h.charted.defaults hd _ hv
    | field _ hv ih =>
      cases ih with
      | known _ hcopy => exact absurd rfl (hcopy _ _)
      | copy _ _ hfields => exact hfields _ hv

/-! ### One step -/

lemma register (h : Careful plan x) {spec : TypeSpec} {type : TypeId} {s : Session}
    (hspec : spec.Allocated x.store.nextType) (hbodiless : spec.Bodiless)
    (hinitials : ∀ v ∈ spec.initials, x.Offers v) (hs : x.session.register spec = .ok (type, s)) :
    Careful plan { x with session := s } ∧ Leads x plan { x with session := s } plan := by
  obtain ⟨reg', st', hr, rfl⟩ := Session.register_eq_ok hs
  have hinitials' := fun v hv => h.known (hinitials v hv)
  have hcharted := h.charted.register h.settled hspec hinitials' hr
  obtain ⟨rfl, -, base, d, hreg⟩ := registered_of_register hr
  have hopen : ∀ {c : Category} {i : c.Item}, Category.Careful x.registry c i →
      Category.Careful reg' c i := fun hi => ⟨hi.1, hi.2.registered hreg h.settled.valid⟩
  refine ⟨⟨h.settled.register hspec hr, h.bodiless.register hbodiless hr, hcharted,
    ⟨h.caches.lookups.registered h.settled.valid hreg, ?_⟩, fun a ha => ⟨?_, ?_⟩⟩,
    List.prefix_refl _, Store.keeps_register h.settled hr, ?_, ?_⟩
  · exact fun hc hk => hopen (h.caches.invokers hc hk)
  · exact fun v hv => ((h.answers a ha).values v hv).registered hreg h.settled.valid
  · exact fun hi => hopen ((h.answers a ha).invoker hi)
  · exact fun hi => hi.registered hreg h.settled.valid
  · exact fun hi => hi.registered hreg h.settled.valid

/-- A dialogue goes on in which no type has been registered. -/
lemma next (h : Careful plan x) {state : State} {answers : List Answer}
    (hs : state.Since x.registry plan x.store plan')
    (hnext : state.store.nextType = x.store.nextType)
    (hanswers : ∀ a ∈ answers, a.Careful x.registry plan') :
    let y : Dialogue := ⟨{ x.session with state }, answers⟩
    Careful plan' y ∧ Leads x plan y plan' := by
  refine ⟨⟨h.settled.congr hnext fun hd => ?_, h.bodiless, hs.charted, hs.caches, hanswers⟩,
    hs.grown, hs.keeps, id, id⟩
  rw [h.charted.statics hd, hs.charted.statics hd]

lemma answers_mono (h : Careful plan x) (hplan : plan <+: plan') :
    ∀ a ∈ x.answers, a.Careful x.registry plan' :=
  fun a ha => ⟨fun v hv => ((h.answers a ha).values v hv).mono hplan, (h.answers a ha).invoker⟩

/-- The caller makes something that has a cell of its own. -/
lemma make (h : Careful plan x) {change : Store → Store} (hplan : plan <+: plan')
    (hnext : (change x.store).nextType = x.store.nextType)
    (hcharted : (change x.store).Charted x.registry plan')
    (hkeeps : x.store.Keeps x.registry plan (change x.store)) (hv : v.Known x.registry plan') :
    Careful plan' (x.make change v) ∧ Leads x plan (x.make change v) plan' :=
  h.next ⟨hcharted, h.caches, hplan, hkeeps⟩ hnext
    (List.forall_mem_cons.mpr ⟨.value hv, h.answers_mono hplan⟩)

lemma request (h : Careful plan x) {r : Request} (hoperands : ∀ v ∈ r.operands, x.Offers v)
    (hbrings : r.Brings x.HasHanded) :
    ∃ plan', Careful plan' (x.ask r) ∧ Leads x plan (x.ask r) plan' := by
  have hbrings' : r.Brings (Category.Careful x.registry) :=
    hbrings.mono fun ⟨a, ha, hands⟩ => (h.answers a ha).invoker hands
  have hend : EndsSince x.registry plan x.store plan
      (fun plan' a => a.Careful x.registry plan') (r.perform x.session.binder x.session.state) :=
    Request.perform_careful h.built h.settled (Script.idle_run x.registry x.session.config) hbrings'
      (fun v hv => h.known (hoperands v hv)) x.session.state
      ⟨h.charted, h.caches, List.prefix_refl _, .refl _ _ _⟩
  have hnext : (Run.after (r.perform x.session.binder x.session.state)).store.nextType =
      x.store.nextType := by
    have hkept := kept_holds h.built x.session.config x.store.nextType
    exact (hkept.scripted ((hkept.accord _).perform r) ⟨rfl, h.caches⟩).1
  rw [ask, Session.run]
  generalize r.perform x.session.binder x.session.state = result at hend hnext
  cases hend with
  | ok hplan hs ha =>
    exact ⟨_, h.next hs hnext (List.forall_mem_cons.mpr ⟨ha, h.answers_mono hplan⟩)⟩
  | error hplan hs => exact ⟨_, h.next hs hnext (h.answers_mono hplan)⟩

/-- Whatever comes next, the dialogue stays careful and what cannot be written is kept. -/
lemma step (h : Careful plan x) (hnext : Next x y) :
    ∃ plan', Careful plan' y ∧ Leads x plan y plan' := by
  have hkeeps : x.store.Keeps x.registry plan x.store := .refl _ _ _
  have hrefl := List.prefix_refl plan
  cases hnext with
  | register hspec hbodiless hinitials hs =>
    exact ⟨plan, h.register hspec hbodiless hinitials hs⟩
  | request hoperands hbrings => exact h.request hoperands hbrings
  | wrap hv =>
    obtain ⟨plan', hplan, hcharted, hknown⟩ := h.charted.wrap (h.known hv)
    exact ⟨plan', h.make hplan (Store.nextType_wrap _ _) hcharted
      (hkeeps.wrap hrefl h.charted _) hknown⟩
  | @instantiate type d hd =>
    have hid := h.settled.valid.id hd
    obtain ⟨plan', hplan, hcharted, hknown⟩ := h.charted.instantiate h.settled (hid ▸ hd)
    exact ⟨plan', h.make hplan (Store.nextType_instantiate _ _) hcharted
      (hkeeps.instantiate hrefl h.charted d) hknown⟩
  | array shape helements =>
    obtain ⟨plan', hplan, hcharted, hknown⟩ := h.charted.addArray shape fun v hv =>
      h.known (helements v hv)
    exact ⟨plan', h.make hplan rfl hcharted (hkeeps.addCell hrefl h.charted.toArranged _) hknown⟩

lemma steps (h : Careful plan x) (hnext : Relation.ReflTransGen Next x y) :
    ∃ plan', Careful plan' y ∧ Leads x plan y plan' := by
  induction hnext with
  | refl => exact ⟨plan, h, .refl x plan⟩
  | tail _ hstep ih =>
    obtain ⟨plan₁, h₁, hleads⟩ := ih
    obtain ⟨plan₂, h₂, hleads'⟩ := h₁.step hstep
    exact ⟨plan₂, h₂, hleads.trans hleads'⟩

end Careful

/-- However a dialogue goes on, the slot that a member fixes, a read-only field or an automatic
property that can only be read, holds what it has held: in every instance that the caller can hand
over, if the member is one of instances, and for the type that declares the member, if it is
static. -/
theorem slots_kept {config : Config}
    (hx : Relation.ReflTransGen Next { session := { config } } x)
    (hy : Relation.ReflTransGen Next x y) :
    (∀ v shape m i, x.Offers v → v.shape? = some shape → x.registry.Along shape.id m →
      m.isStatic = false → m.Fixes i →
        ∃ held, x.store.readSlot v i = .ok held ∧ y.store.readSlot v i = .ok held) ∧
    ∀ type m i, x.registry.Along type m → m.isStatic = true → m.Fixes i →
      ∃ held, x.store.readStatic m.declaring i = .ok held ∧
        y.store.readStatic m.declaring i = .ok held := by
  obtain ⟨plan, h, -⟩ := (Careful.start config).steps hx
  obtain ⟨plan', -, hleads⟩ := h.steps hy
  constructor
  · -- an instance that is offered is in the plan, which only grows
    intro v shape m i hv hshape hm hinstance hfixes
    have hslot := hm.exists_slot h.settled (.fixes hfixes)
    rw [hinstance] at hslot
    have hknown := h.known hv
    obtain ⟨held, hheld⟩ := h.charted.exists_readSlot h.settled hknown hshape hslot
    exact ⟨held, hheld, (hleads.keeps.instances hknown.knows hshape hslot).trans hheld⟩
  · intro type m i hm hstatic hfixes
    have hslot := hm.exists_slot h.settled (.fixes hfixes)
    rw [hstatic] at hslot
    obtain ⟨held, hheld⟩ := h.charted.exists_readStatic h.settled hslot
    exact ⟨held, hheld, (hleads.keeps.statics hslot).trans hheld⟩

/-! ### A pass with two numbers -/

/-- A type with a read-only field, a property that can only be read and a read-only static field. -/
def badgeSpec : TypeSpec :=
  { name := "Badge"
    members := [.field { name := "number", type := TypeId.int, readonly := true,
                         initial := some (.int 7) },
                .property { name := "Holder", type := TypeId.string, body := .auto true },
                .field { name := "series", type := TypeId.int, isStatic := true, readonly := true,
                         initial := some (.int 3) }] }

/-- A type that declares the name of the read-only field anew, as a field that may be written. -/
def passSpec : TypeSpec :=
  { name := "Pass", base := ⟨64⟩
    members := [.field { name := "number", type := TypeId.int }] }

def passShape : Shape :=
  ⟨⟨65⟩, "Pass", some ⟨64⟩, false, [⟨65⟩, ⟨64⟩, TypeId.object],
    ["number", "<Holder>k__BackingField", "number"], []⟩

/-- A pass has been made. -/
def passDialogue : Dialogue :=
  let s := (({} : Session).step (.register badgeSpec)).2
  ask { session := (s.step (.register passSpec)).2 } (.create ⟨65⟩ none [])

/-- The number of the pass has been written, and a setter for that of the badge been asked for. -/
def stampedDialogue : Dialogue :=
  let x := passDialogue.ask
    (.set (.instance (.object passShape 0)) .fieldsAndProperties "number" (.int 9) none)
  x.ask (.setter ⟨64⟩ .fieldsAndProperties "number" .instanceAny)

lemma offers_pass {x : Dialogue} (h : Answer.call (.object passShape 0) [] ∈ x.answers) :
    x.Offers (.object passShape 0) :=
  .occurs (.given (List.mem_flatMap.mpr ⟨_, h, List.mem_cons_self⟩))

lemma reached_passDialogue :
    Relation.ReflTransGen Next { session := { config := {} } } passDialogue := by
  have hbadge : badgeSpec.Bodiless := by
    rintro _ (_ | ⟨_, _ | ⟨_, _ | ⟨_, ⟨⟩⟩⟩⟩)
    · exact .field _
    · exact .auto rfl
    · exact .field _
  have hpass : passSpec.Bodiless := by
    rintro _ (_ | ⟨_, ⟨⟩⟩)
    exact .field _
  have hinitials : ∀ v ∈ badgeSpec.initials, Offers { session := {} } v := by
    rintro _ (_ | ⟨_, _ | ⟨_, ⟨⟩⟩⟩) <;> exact .basic ⟨rfl, rfl⟩
  refine .tail (.tail (.tail .refl (.register (by decide) hbadge hinitials rfl))
    (.register (by decide) hpass nofun rfl)) (.request (r := .create ⟨65⟩ none []) nofun trivial)

lemma steps_stampedDialogue : Relation.ReflTransGen Next passDialogue stampedDialogue := by
  refine .tail (.tail .refl (.request (r := .set (.instance (.object passShape 0))
    .fieldsAndProperties "number" (.int 9) none) ?_ trivial)) (.request nofun trivial)
  rintro _ (_ | ⟨_, _ | ⟨_, ⟨⟩⟩⟩)
  · exact .basic ⟨rfl, rfl⟩
  · exact offers_pass List.mem_cons_self

/-- The pass has a new number, and as a badge it has the number that it has got. -/
theorem slots_kept_stampedDialogue :
    Relation.ReflTransGen Next { session := { config := {} } } passDialogue ∧
      Relation.ReflTransGen Next passDialogue stampedDialogue ∧
        stampedDialogue.store.readSlot (.object passShape 0) 2 = .ok (.int 9) ∧
          stampedDialogue.store.readSlot (.object passShape 0) 0 = .ok (.int 7) ∧
            stampedDialogue.store.readStatic ⟨64⟩ 0 = .ok (.int 3) := by
  obtain ⟨hinstances, hstatics⟩ := slots_kept reached_passDialogue steps_stampedDialogue
  let levels (types : List TypeId) := types.filterMap passDialogue.registry.get?
  have hnumber : passDialogue.registry.Along ⟨65⟩ _ :=
    ⟨levels [⟨65⟩, ⟨64⟩, TypeId.object], ⟨_, rfl, rfl⟩, _,
      List.mem_of_getElem? (rfl : _[1]? = some _), List.mem_of_getElem? (rfl : _[0]? = some _)⟩
  have hseries : passDialogue.registry.Along ⟨64⟩ _ :=
    ⟨levels [⟨64⟩, TypeId.object], ⟨_, rfl, rfl⟩, _,
      List.mem_of_getElem? (rfl : _[0]? = some _), List.mem_of_getElem? (rfl : _[4]? = some _)⟩
  obtain ⟨held, hbefore, hafter⟩ := hinstances (.object passShape 0) passShape _ 0
    (offers_pass List.mem_cons_self) rfl hnumber rfl (.field rfl)
  obtain ⟨held', hbefore', hafter'⟩ := hstatics ⟨64⟩ _ 0 hseries rfl (.field rfl)
  have hseven : held = .int 7 := Except.ok.inj (hbefore.symm.trans rfl)
  have hthree : held' = .int 3 := Except.ok.inj (hbefore'.symm.trans rfl)
  subst hseven hthree
  exact ⟨reached_passDialogue, steps_stampedDialogue, rfl, hafter, hafter'⟩

end Dialogue

end LateBinding
