import LateBinding.Proofs.Invoker.Jobs
import LateBinding.Proofs.Run.Accessors
import LateBinding.Proofs.Session.Reached

/-!
# Accessor methods of known types

Every property and indexer of a known type comes with a method for each of its accessors. For any
target type, the invoker of the property or indexer and that of the method are either both made or
both refused for the same reason, and reading through the one comes to the same as calling the
other. Writing comes to the same if a slot is written, and also where a native body is called, but
for the unwrapped copies that the setter refuses and the wrappers that it copies.

Main statement: `accessor_methods`.
-/

namespace LateBinding.Session

variable {gone : List TypeId} {s : Session} {t target : TypeId} {d : Descriptor} {p : Member}

lemma Reached.accompanied (h : Reached gone s) (hd : s.registry.get? t = some d)
    (hp : p ∈ d.members) : p.Accompanied d.members :=
  h.forall_members (P := fun ms => ∀ p ∈ ms, p.Accompanied ms) (List.forall_mem_nil _)
    Layout.accompanied_ofSpec hd p hp

/-- The invoker of a property or indexer and that of the method for its accessor are made alike.
They do the same where they read, and where they write a slot. Where they call a native body to
write, the setter of a property and the method do the same for all bodies exactly if the setter
neither refuses the receiver as an unwrapped copy nor copies a wrapper; and the writer of an indexer
and the method exactly if the receiver is no unwrapped copy. -/
theorem accessor_methods (h : Reached gone s) (hd : s.registry.get? t = some d)
    (hp : p ∈ d.members) (target : TypeId) :
    (∀ a setter, p.body = .property (some a) setter → p.reader a ∈ d.members ∧
      MadeAlike Getter.AgreesWith (Getter.ofMember s.registry target p)
        (Method.ofMember s.registry target (p.reader a))) ∧
    (∀ a getter, p.body = .property getter (some a) → p.writer a ∈ d.members ∧
      MadeAlike (Setter.AgreesWith s.registry) (Setter.ofMember s.registry target p)
        (Method.ofMember s.registry target (p.writer a))) ∧
    (∀ body setter, p.body = .indexer (some body) setter →
      p.reader (.native body) ∈ d.members ∧
      MadeAlike IndexReader.AgreesWith (IndexReader.ofMember s.registry target p)
        (Method.ofMember s.registry target (p.reader (.native body)))) ∧
    ∀ body getter, p.body = .indexer getter (some body) →
      p.writer (.native body) ∈ d.members ∧
      MadeAlike (IndexWriter.AgreesWith s.registry) (IndexWriter.ofMember s.registry target p)
        (Method.ofMember s.registry target (p.writer (.native body))) := by
  have hv := h.sound.valid
  obtain ⟨hmethods, hstatic⟩ := h.accompanied hd hp
  refine ⟨fun a setter hbody => ⟨hmethods _ ?_, ?_⟩, fun a getter hbody => ⟨hmethods _ ?_, ?_⟩,
    fun body setter hbody => ⟨hmethods _ ?_, ?_⟩, fun body getter hbody => ⟨hmethods _ ?_, ?_⟩⟩
  · simp [Member.accessorMethods, hbody]
  · have hparams := hv.params hd hp (by rw [Member.kind, hbody]; rfl)
    rw [Method.ofMember_reader hbody hparams]
    exact .map_right fun g _ => g.agreesWith_asMethod _
  · simp [Member.accessorMethods, hbody]
  · have hparams := hv.params hd hp (by rw [Member.kind, hbody]; rfl)
    rw [Method.ofMember_writer hbody hparams]
    refine .map_right fun f hf => f.agreesWith_asMethod _ fun script hscript => ?_
    -- the type whose body the setter runs is known
    refine f.known_owners hv hf ?_
    rw [Setter.owners, hscript]
    exact List.mem_singleton_self _
  · simp [Member.accessorMethods, hbody]
  · have hisStatic := hstatic (by rw [Member.kind, hbody]; rfl)
    rw [IndexReader.ofMember_eq hbody,
      Method.ofMember_indexer (p := p) (m := p.reader (.native body)) rfl rfl hisStatic]
    exact .of_map fun parts _ => IndexReader.agreesWith_asMethod rfl
  · simp [Member.accessorMethods, hbody]
  · have hisStatic := hstatic (by rw [Member.kind, hbody]; rfl)
    rw [IndexWriter.ofMember_eq hbody,
      Method.ofMember_indexer (p := p) (m := p.writer (.native body)) rfl rfl hisStatic]
    refine .of_map fun parts hparts => IndexWriter.agreesWith_asMethod rfl ?_
    obtain ⟨script, hscript, hparts⟩ := exists_of_bind_eq_ok hparts
    obtain ⟨guard, -, hparts⟩ := exists_of_bind_eq_ok hparts
    cases hparts
    exact script.known_declaring hv hscript

/-! ### A value type with both kinds of properties -/

/-- A property whose setter logs what it gets. -/
def turnSpec : PropertySpec where
  name := "Turn"
  type := TypeId.int
  body := .native (some [.result (.literal (.int 0))]) (some [.log (.argument 0)])

/-- A value type with an automatic property, one with native accessors, and an indexer. -/
def dialSpec : TypeSpec where
  name := "Dial"
  isValueType := true
  members := [.property { name := "Mark", type := TypeId.int, body := .auto false },
    .property turnSpec,
    .indexer { type := TypeId.int, params := [⟨TypeId.int, false⟩], setter := some [] }]

/-- The session in which the value type is known. -/
def dialSession : Session := (({} : Session).step (.register dialSpec)).2

lemma reached_dialSession : Reached [] dialSession :=
  (Reached.start {}).step_register (by decide)

/-- The shape of the value type. -/
def dialShape : Shape where
  id := ⟨64⟩
  name := "Dial"
  base := some TypeId.object
  isValueType := true
  ancestors := [⟨64⟩, TypeId.object]
  slotNames := ["<Mark>k__BackingField"]
  staticNames := []

/-- The property of the value type that goes to a slot. -/
def markProperty : Member where
  name := "Mark"
  declaring := ⟨64⟩
  isStatic := false
  visibility := .everywhere
  params := []
  valueType := TypeId.int
  isSynthesized := false
  body := .property (some (.slot 0)) (some (.slot 0))

/-- The property of the value type whose accessors are native. -/
def turnProperty : Member where
  name := "Turn"
  declaring := ⟨64⟩
  isStatic := false
  visibility := .everywhere
  params := []
  valueType := TypeId.int
  isSynthesized := false
  body := .property (some (.native [.result (.literal (.int 0))]))
    (some (.native [.log (.argument 0)]))

/-- On an unwrapped copy, the method of the automatic property does what the setter does, and that
of the native one does not; on a wrapper it does. -/
theorem accessor_methods_dialSession : ∃ d f m f' m',
    dialSession.registry.get? ⟨64⟩ = some d ∧ markProperty ∈ d.members ∧ turnProperty ∈ d.members ∧
    Setter.ofMember dialSession.registry ⟨64⟩ markProperty = .ok f ∧
    Method.ofMember dialSession.registry ⟨64⟩ (markProperty.writer (.slot 0)) = .ok m ∧
    f.AgreesOn dialSession.registry m (.struct dialShape [.int 0]) (.int 1) ∧
    Setter.ofMember dialSession.registry ⟨64⟩ turnProperty = .ok f' ∧
    Method.ofMember dialSession.registry ⟨64⟩ (turnProperty.writer (.native [.log (.argument 0)])) =
      .ok m' ∧
    ¬ f'.AgreesOn dialSession.registry m' (.struct dialShape [.int 0]) (.int 1) ∧
    f'.AgreesOn dialSession.registry m' (.wrapped dialShape 0) (.int 1) := by
  obtain ⟨d, hd⟩ : ∃ d, dialSession.registry.get? ⟨64⟩ = some d := ⟨_, rfl⟩
  have hmark : markProperty ∈ d.members := by
    cases hd
    exact List.mem_cons_of_mem _ List.mem_cons_self
  have hturn : turnProperty ∈ d.members := by
    cases hd
    iterate 4 refine List.mem_cons_of_mem _ ?_
    exact List.mem_cons_self
  obtain ⟨-, h, -⟩ := accessor_methods reached_dialSession hd hmark ⟨64⟩
  obtain ⟨-, h', -⟩ := accessor_methods reached_dialSession hd hturn ⟨64⟩
  have hagrees := (h _ _ rfl).2.rel
  have hagrees' := (h' _ _ rfl).2.rel
  refine ⟨d, _, _, _, _, hd, hmark, hturn, rfl, rfl, (hagrees _ _).mpr (Or.inl ⟨_, rfl⟩), rfl, rfl,
    fun hon => ?_, (hagrees' _ _).mpr (Or.inr ?_)⟩
  · -- on a copy the native setter departs from its method
    rcases (hagrees' _ _).mp hon with ⟨place, hplace⟩ | hdeparts
    · cases hplace
    · exact hdeparts (.unwrapped rfl ⟨rfl, rfl, _, _, rfl⟩)
  · -- on a wrapper it does not, and the value is refused by neither
    rintro (⟨hg, -, -, shape, fields, hcopy⟩ | ⟨-, -, -, hv⟩)
    · cases hcopy
    · cases hv

/-- Native setters and their methods do not always agree: here the setter refuses the copy, and the
method takes it and calls the body. -/
theorem native_setter_departs_dialSession :
    Reached [] dialSession ∧ ∃ d f m st,
      dialSession.registry.get? ⟨64⟩ = some d ∧ turnProperty ∈ d.members ∧
      turnProperty.writer (.native [.log (.argument 0)]) ∈ d.members ∧
      Setter.ofMember dialSession.registry ⟨64⟩ turnProperty = .ok f ∧
      Method.ofMember dialSession.registry ⟨64⟩
        (turnProperty.writer (.native [.log (.argument 0)])) = .ok m ∧
      f.run dialSession.binder.toContext (.struct dialShape [.int 0]) (.int 1) dialSession.state =
        .error (.refused (.unwrappedCopy "Dial")) dialSession.state ∧
      m.run dialSession.binder.toContext (.struct dialShape [.int 0]) [.int 1] dialSession.state =
        .ok (.null, [.int 1])
          { dialSession.state with store := dialSession.state.store.logValue (.int 1) } ∧
      discard (m.run dialSession.binder.toContext (.struct dialShape [.int 0]) [.int 1]) st ≠
        f.run dialSession.binder.toContext (.struct dialShape [.int 0]) (.int 1) st := by
  refine ⟨reached_dialSession, _, _, _, dialSession.state, rfl, ?_, ?_, rfl, rfl, rfl, rfl, ?_⟩
  · iterate 4 refine List.mem_cons_of_mem _ ?_
    exact List.mem_cons_self
  · iterate 6 refine List.mem_cons_of_mem _ ?_
    exact List.mem_cons_self
  · nofun

end LateBinding.Session
