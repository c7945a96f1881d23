import LateBinding.Proofs.Run.InPlace
import LateBinding.Proofs.Run.WellTyped

/-!
# Invokers of plain members keep storage well typed

A setter or a method that writes checks the value against the type of the field at the place, and
the receiver against the target type. So the slot that is written, counted along the chain of the
target, is the slot of the same field in the receiver, and the stored value suits it. What an
invoker gives is what some slot has held, or an instance that it has made.
-/

namespace LateBinding

open Registry Run

variable {reg : Registry} {st₀ : Store} {next type : TypeId} {plan : Plan} {ctx : Context}
  {guard : Option ReceiverGuard} {receiver new : Value} {p : Place}

/-- The empty body does nothing. -/
def Native.Idle (native : Native) : Prop :=
  ∀ declaring receiver arguments, native [] declaring receiver arguments = pure (.null, arguments)

/-- Scripts do nothing if they are empty. -/
lemma Script.idle_run (reg : Registry) (config : Config) :
    (Script.run reg config Script.maxDepth).Idle := fun _ _ _ => rfl

/-! ### Receivers -/

lemma Store.Filled.hasShape {st : Store} (h : st.Filled reg plan) {v : Value}
    (hv : v.Sound reg plan) {shape : Shape} (hshape : v.shape? = some shape) :
    reg.HasShape shape := by
  obtain ⟨slots, hslots⟩ : ∃ slots, st.slots? v = some slots := by
    cases v <;> first | exact ⟨_, rfl⟩ | cases hshape
  obtain ⟨shape', hshape', ⟨levels, hhas, -⟩, -⟩ := h.of_slots? hv hslots
  obtain rfl := Option.some.inj (hshape.symm.trans hshape')
  exact hhas

/-- A type that has fields along its chain is not one that all values are assignable to. -/
lemma Registry.Settled.not_wildcard (hv : Settled reg st₀) {levels : List Descriptor} {i : Nat}
    {f : Member} (hc : reg.Chain type levels) (hf : (chainFields levels)[i]? = some f) :
    type ≠ TypeId.object ∧ type ≠ TypeId.any := by
  obtain ⟨d, hd, -⟩ := id hc
  constructor
  · rintro rfl
    have hbuiltin := hv.valid.builtin (t := TypeId.object) rfl
    have hroot : reg.Chain TypeId.object [.builtin TypeId.object "object" false] := by
      refine ⟨_, hbuiltin.trans rfl, ?_⟩
      exact congrArg (· :: []) hbuiltin
    rw [hc.unique hroot] at hf
    cases hf
  · rintro rfl
    have hbuiltin := hv.valid.builtin (t := TypeId.any) rfl
    rw [hbuiltin] at hd
    cases hd

/-- A slot along the chain of the target is the slot of the same field in every receiver that the
guard of the target lets pass. -/
lemma Registry.Settled.field_of_receiver (hv : Settled reg st₀) {shape : Shape}
    (hshape : receiver.shape? = some shape) (hhas : reg.HasShape shape) {isValueType : Bool}
    (hr : receiver.isAssignableTo type isValueType = true) {levels levels' : List Descriptor}
    (hc : reg.Chain type levels) (hc' : reg.Chain shape.id levels') {i : Nat} {f : Member}
    (hf : (chainFields levels)[i]? = some f) : (chainFields levels')[i]? = some f := by
  obtain ⟨hobject, hany⟩ := hv.not_wildcard hc hf
  obtain ⟨d, hd, rfl⟩ := hhas
  -- an object may be of a type that derives from the target, a copy or a wrapper may not
  have htype : type ∈ d.ancestors := by
    have hself : d.id = type → type ∈ d.ancestors := fun h => h ▸ hv.valid.self hd
    cases receiver with
    | object s r =>
      cases hshape
      simpa [Value.isAssignableTo, hobject, hany, Shape.derivesFrom] using hr
    | struct s fields =>
      cases hshape
      exact hself (by simpa [Value.isAssignableTo, hobject, hany, Value.typeId] using hr)
    | wrapped s r =>
      cases hshape
      exact hself (by simpa [Value.isAssignableTo, hobject, hany, Value.typeId] using hr)
    | _ => cases hshape
  obtain ⟨e, farther, he, rfl, hlaid⟩ := hv.archive.laidOut_of_chain hc'
  obtain ⟨b, rest, -, rfl, -⟩ := hv.archive.laidOut_of_chain hc
  -- the fields of the target come first among those of the receiver
  have hend := hv.archive.chain_of_ancestor hd htype hc' hc
  obtain ⟨more, hmore⟩ := (hlaid.within hend).2.2.2
  rw [← hmore, List.getElem?_append_left (List.getElem?_eq_some_iff.mp hf).1, hf]

lemma ReceiverGuard.assignable_of_check {g : ReceiverGuard} {v : Value} (h : g.check v = .ok ()) :
    v.isAssignableTo g.target g.isValueType = true := by
  rw [check] at h
  split at h
  · cases h
  split at h
  · assumption
  · cases h

lemma ReceiverGuard.assignable_of_checkMutable {g : ReceiverGuard} {v : Value}
    (h : g.checkMutable v = .ok ()) : v.isAssignableTo g.target g.isValueType = true := by
  obtain ⟨_, hcheck, -⟩ := exists_of_bind_eq_ok h
  exact assignable_of_check hcheck

/-- A receiver that is handed on has passed the guard, if there is one. -/
lemma Run.receive_safe {demand : ReceiverGuard → Value → Except Fault Unit}
    (hdemand : ∀ {g v}, demand g v = .ok () → v.isAssignableTo g.target g.isValueType = true)
    (hr : receiver.Sound reg plan) :
    (Run.receive demand receiver guard).Safe reg next plan fun plan' v => v.Sound reg plan' ∧
      ∀ g, guard = some g → v.isAssignableTo g.target g.isValueType = true := by
  cases guard with
  | none => exact .pure ⟨Value.IsBasic.sound ⟨rfl, rfl⟩, nofun⟩
  | some g =>
    refine (Safe.ofExcept _).bind fun plan' _ hplan hcheck => .pure ⟨hr.mono hplan, ?_⟩
    rintro _ ⟨⟩
    exact hdemand hcheck

/-! ### Places -/

lemma Run.alive_safe (type : TypeId) : (Run.alive ctx type).Safe reg next plan fun _ _ => True := by
  refine Safe.get_bind fun s _ => ?_
  change Safe reg next plan _ (if ctx.registry.isAlive s.store type then _ else _)
  split
  · exact .pure trivial
  · exact .throw _

lemma Place.read_safe (p : Place) (hr : receiver.Sound reg plan) :
    (p.read ctx receiver).Safe reg next plan fun plan' v => v.Sound reg plan' := by
  cases p with
  | receiver slot => exact .ask fun hst hread => hst.readSlot hr hread
  | static owner slot =>
    exact (Run.alive_safe owner).bind fun _ _ _ _ => .ask fun hst hread => hst.readStatic hread

/-- A value that fits the type of the field is stored as it has to be. -/
lemma Place.store_safe (hv : Settled reg st₀) (hp : p.Holds reg guard type)
    (hr : receiver.Sound reg plan)
    (hguard : ∀ g, guard = some g → receiver.isAssignableTo g.target g.isValueType = true)
    (hnew : new.Sound reg plan) (hfits : new.isAssignableTo type (reg.isValueType type) = true) :
    (p.store ctx receiver new (reg.isValueType type)).Safe reg next plan fun _ _ => True := by
  refine Safe.get_bind fun s hs => ?_
  have hsound := hs.filled.toStored hnew (reg.isValueType type)
  have hsuits := hv.suits_toStored hfits s.store
  cases hp with
  | @receiver g levels slot f hg hc hf htype =>
    refine .change Store.nextType_writeSlot fun hst hwrite => ?_
    refine hst.writeSlot hr hsound (fun hshape hc' => ⟨f, ?_, htype ▸ hsuits⟩) hwrite
    exact hv.field_of_receiver hshape (hst.hasShape hr hshape) (hguard g hg) hc hc' hf
  | @static owner d slot f hd hf htype =>
    refine (Run.alive_safe owner).bind fun plan' _ hplan _ => ?_
    refine .change Store.nextType_writeStatic fun hst hwrite => ?_
    refine hst.writeStatic (hsound.mono hplan) (fun hd' => ⟨f, ?_, htype ▸ hsuits⟩) hwrite
    obtain rfl := Option.some.inj (hd.symm.trans hd')
    exact hf

/-! ### Fields and properties -/

lemma Getter.run_safe {g : Getter} (h : g.Plain) (hr : receiver.Sound reg plan) :
    (g.run ctx receiver).Safe reg next plan fun plan' v => v.Sound reg plan' := by
  obtain ⟨p, haccess⟩ := h
  refine (Run.receive_safe ReceiverGuard.assignable_of_check hr).bind fun plan₁ r _ hr₁ => ?_
  rw [haccess]
  exact p.read_safe hr₁.1

lemma Setter.run_safe (hv : Settled reg st₀) {s : Setter} (h : s.Plain reg)
    (hr : receiver.Sound reg plan) (hnew : new.Sound reg plan) :
    (s.run ctx receiver new).Safe reg next plan fun _ _ => True := by
  obtain ⟨hvalue, p, haccess, hp⟩ := h
  apply (Run.receive_safe ReceiverGuard.assignable_of_checkMutable hr).bind
  rintro plan₁ r hplan₁ ⟨hr₁, hguard⟩
  refine (Safe.ofExcept _).bind fun plan₂ _ hplan₂ hcheck => ?_
  rw [haccess]
  have hisValueType : s.value.isValueType = reg.isValueType s.value.type :=
    congrArg ValueGuard.isValueType hvalue
  have hfits : new.isAssignableTo s.value.type (reg.isValueType s.value.type) = true := by
    rw [hvalue, ValueGuard.check_ofType] at hcheck
    split at hcheck
    · assumption
    · cases hcheck
  simp only [hisValueType]
  exact Place.store_safe hv hp (hr₁.mono hplan₂) hguard (hnew.mono (hplan₁.trans hplan₂)) hfits

/-- One setter after the other: the plan may have grown when the next one is run. -/
lemma BatchSetter.runEach_safe (hv : Settled reg st₀) {setters : List Setter} {values : List Value}
    (h : ∀ s ∈ setters, s.Plain reg) (hr : receiver.Sound reg plan)
    (hvalues : ∀ v ∈ values, v.Sound reg plan) :
    (runEach ctx receiver setters values).Safe reg next plan fun _ _ => True := by
  induction setters generalizing plan values with
  | nil => exact .pure trivial
  | cons s setters ih =>
    cases values with
    | nil => exact .pure trivial
    | cons v values =>
      obtain ⟨hs, hsetters⟩ := List.forall_mem_cons.mp h
      obtain ⟨hv₁, hvalues⟩ := List.forall_mem_cons.mp hvalues
      have hfirst : (s.run ctx receiver v).Safe reg next plan fun _ _ => True :=
        s.run_safe hv hs hr hv₁
      exact hfirst.bind fun plan' _ hplan _ =>
        ih hsetters (hr.mono hplan) fun w hw => (hvalues w hw).mono hplan

lemma BatchSetter.run_safe (hv : Settled reg st₀) {b : BatchSetter}
    (h : ∀ s ∈ b.setters, s.Plain reg) (hr : receiver.Sound reg plan) {values : List Value}
    (hvalues : ∀ v ∈ values, v.Sound reg plan) :
    (b.run ctx receiver values).Safe reg next plan fun _ _ => True := by
  rw [BatchSetter.run]
  split
  · exact runEach_safe hv h hr hvalues
  · exact .throw _

lemma Copier.runEach_safe (hv : Settled reg st₀) {steps : List (Getter × Setter)}
    (h : ∀ step ∈ steps, step.1.Plain ∧ step.2.Plain reg) {source target : Value}
    (hsource : source.Sound reg plan) (htarget : target.Sound reg plan) :
    (runEach ctx source target steps).Safe reg next plan fun _ _ => True := by
  induction steps generalizing plan with
  | nil => exact .pure trivial
  | cons step steps ih =>
    obtain ⟨⟨hgetter, hsetter⟩, hsteps⟩ := List.forall_mem_cons.mp h
    refine (step.1.run_safe hgetter hsource).bind fun plan₁ v hplan₁ hv₁ => ?_
    have hset : (step.2.run ctx target v).Safe reg next plan₁ fun _ _ => True :=
      step.2.run_safe hv hsetter (htarget.mono hplan₁) hv₁
    refine hset.bind fun plan₂ _ hplan₂ _ => ?_
    have hplan := hplan₁.trans hplan₂
    exact ih hsteps (hsource.mono hplan) (htarget.mono hplan)

lemma Copier.run_safe (hv : Settled reg st₀) {c : Copier}
    (h : ∀ step ∈ c.steps, step.1.Plain ∧ step.2.Plain reg) {source target : Value}
    (hsource : source.Sound reg plan) (htarget : target.Sound reg plan) :
    (c.run ctx source target).Safe reg next plan fun _ _ => True :=
  runEach_safe hv h hsource htarget

/-! ### Methods -/

/-- What a call gives is sound, and so are the arguments after it. -/
def SoundCall (reg : Registry) (plan : Plan) (r : Value × List Value) : Prop :=
  r.1.Sound reg plan ∧ ∀ v ∈ r.2, v.Sound reg plan

lemma SoundCall.writeBack {arguments : List Value} {r : Value × List Value}
    (h : SoundCall reg plan r) (ha : ∀ v ∈ arguments, v.Sound reg plan) (params : List Param) :
    SoundCall reg plan (r.1, writeBack params arguments r.2) :=
  ⟨h.1, fun v hv => (mem_writeBack hv).elim (ha v) (h.2 v)⟩

lemma ArgumentsGuard.check_singleton {g : ArgumentsGuard} {v : ValueGuard} {arguments : List Value}
    (hg : g.params = [v]) (h : g.check arguments = .ok ()) :
    ∃ a, arguments = [a] ∧ v.check a = .ok () := by
  rw [check, hg] at h
  split at h
  · rename_i hlength
    obtain ⟨a, rfl⟩ := List.length_eq_one_iff.mp hlength
    obtain ⟨_, ha, -⟩ := exists_of_bind_eq_ok h
    exact ⟨a, rfl, ha⟩
  · cases h

lemma Method.assignable_of_demand {m : Method} {g : ReceiverGuard} {v : Value}
    (h : m.demand g v = .ok ()) : v.isAssignableTo g.target g.isValueType = true := by
  rw [demand] at h
  generalize m.body = body at h
  cases body with
  | write p storesValueType => exact ReceiverGuard.assignable_of_checkMutable h
  | _ => exact ReceiverGuard.assignable_of_check h

/-- What a method does once its receiver and its arguments have passed. -/
lemma Method.perform_safe (hv : Settled reg st₀) {m : Method} (h : m.Plain reg)
    (hr : receiver.Sound reg plan)
    (hguard : ∀ g, m.receiver = some g → receiver.isAssignableTo g.target g.isValueType = true)
    {arguments : List Value} (ha : ∀ v ∈ arguments, v.Sound reg plan)
    (hcheck : m.arguments.check arguments = .ok ()) :
    (m.perform ctx receiver arguments).Safe reg next plan fun plan' r => SoundCall reg plan' r := by
  rw [perform]
  cases h with
  | @read p hbody =>
    rw [hbody]
    exact (p.read_safe hr).bind fun plan' v hplan hv' =>
      .pure ⟨hv', fun w hw => (ha w hw).mono hplan⟩
  | @write p type hbody hparams hp =>
    obtain ⟨a, rfl, hfits⟩ := ArgumentsGuard.check_singleton hparams hcheck
    rw [ValueGuard.check_ofType] at hfits
    split at hfits
    case isFalse => cases hfits
    rw [hbody]
    refine (Place.store_safe hv hp hr hguard (ha a List.mem_cons_self) ‹_›).bind ?_
    exact fun plan' _ hplan _ => .pure ⟨Value.IsBasic.sound ⟨rfl, rfl⟩, List.forall_mem_nil _⟩

lemma Method.run_safe (hv : Settled reg st₀) {m : Method} (h : m.Plain reg)
    (hr : receiver.Sound reg plan) {arguments : List Value}
    (ha : ∀ v ∈ arguments, v.Sound reg plan) :
    (m.run ctx receiver arguments).Safe reg next plan fun plan' r => SoundCall reg plan' r := by
  apply (Run.receive_safe assignable_of_demand hr).bind
  rintro plan₁ r hplan₁ ⟨hr₁, hguard⟩
  refine (Safe.ofExcept _).bind fun plan₂ _ hplan₂ hcheck => ?_
  have ha₂ : ∀ v ∈ arguments, v.Sound reg plan₂ := fun v hmem =>
    (ha v hmem).mono (hplan₁.trans hplan₂)
  refine (perform_safe hv h (hr₁.mono hplan₂) hguard ha₂ hcheck).bind fun plan₃ r₃ hplan₃ hr₃ => ?_
  exact .pure (hr₃.writeBack (fun v hmem => (ha₂ v hmem).mono hplan₃) m.params)

/-! ### Constructors -/

lemma BoundScript.run_safe (hn : ctx.native.Idle) {script : BoundScript} (h : script.body = [])
    (receiver : Value) (arguments : List Value) :
    (script.run ctx receiver arguments).Safe reg next plan fun _ r => r = (.null, arguments) := by
  refine (Run.alive_safe script.declaring.id).bind fun _ _ _ _ => ?_
  rw [h, hn]
  exact .pure rfl

lemma Construction.blank_safe (hall : reg.AllPlain) {c : Construction} (h : c.Plain reg) :
    c.blank.Safe reg next plan fun plan' v => v.Sound reg plan' := by
  refine .step (fun st => by simp) fun {st} hst => ?_
  obtain ⟨plan₁, hplan₁, hst₁, hmade⟩ := hst.instantiate (hall.fills h.owner) fun v hv =>
    (hall.held h.owner v hv).mono List.nil_prefix
  obtain ⟨plan₂, hplan₂, hst₂, hwrapped⟩ := hst₁.wrap hmade
  exact ⟨plan₂, hplan₁.trans hplan₂, hst₂, hwrapped⟩

lemma Construction.inherit_safe (hn : ctx.native.Idle) {scripts : List BoundScript}
    (h : ∀ script ∈ scripts, script.body = []) (made : Value) :
    (inherit ctx made scripts).Safe reg next plan fun _ _ => True := by
  induction scripts generalizing plan with
  | nil => exact .pure trivial
  | cons script scripts ih =>
    refine (script.run_safe hn (h script List.mem_cons_self) made []).discard.bind ?_
    exact fun _ _ _ _ => ih fun s hs => h s (List.mem_cons_of_mem script hs)

/-- The new instance has all its slots at their defaults. -/
lemma Construction.run_safe (hall : reg.AllPlain) (hn : ctx.native.Idle) {c : Construction}
    (h : c.Plain reg) {arguments : List Value} (ha : ∀ v ∈ arguments, v.Sound reg plan) :
    (c.run ctx arguments).Safe reg next plan fun plan' r => SoundCall reg plan' r := by
  refine (Safe.ofExcept _).bind fun plan₁ _ hplan₁ _ => ?_
  refine (Run.alive_safe c.body.declaring.id).bind fun plan₂ _ hplan₂ _ => ?_
  refine (c.blank_safe hall h).bind fun plan₃ made hplan₃ hmade => ?_
  refine (inherit_safe hn h.inherited made).bind fun plan₄ _ hplan₄ _ => ?_
  refine (c.body.run_safe hn h.body made arguments).bind fun plan₅ r hplan₅ hr => ?_
  subst hr
  have hplan := ((hplan₁.trans hplan₂).trans hplan₃).trans (hplan₄.trans hplan₅)
  have ha₅ : ∀ v ∈ arguments, v.Sound reg plan₅ := fun v hv => (ha v hv).mono hplan
  refine Safe.get_bind fun s hs => .pure ?_
  have hunwrapped := hs.filled.unwrap (hmade.mono (hplan₄.trans hplan₅))
  exact SoundCall.writeBack (r := (_, arguments)) ⟨hunwrapped, ha₅⟩ ha₅ c.params

end LateBinding
