import LateBinding.Proofs.Invoker.ReadOnly
import LateBinding.Proofs.Run.Looks
import LateBinding.Proofs.Run.PlainInvokers
import LateBinding.Proofs.Store.Keeps

/-!
# Runs that keep read-only slots

A run starts in a charted store, with a plan of its own. On the way the plan may grow, but whatever
could not be written at the start still holds the same at the end, whether the run succeeds or
fails. All invokers without bodies that keep off read-only slots run like this, if they are given
known values: the receiver passes the guard of the target, so the slot that is written is the slot
of the same field in the receiver, and this field may be written.
-/

namespace LateBinding

open Registry Run

variable {α β : Type} {reg : Registry} {plan₀ plan : Plan} {st₀ st₁ : Store} {ctx : Context}
  {guard : Option ReceiverGuard} {receiver new : Value} {p : Place}

/-! ### Rules -/

/-- The invoker has no body and writes nothing that may not be written. -/
abbrev Category.Careful (reg : Registry) (c : Category) (x : c.Item) : Prop :=
  c.Bodiless x ∧ c.Open reg x

/-- The store is charted and still holds what could not be written at the start, when the plan and
the store were the given ones; and all invokers that are remembered are careful. -/
structure State.Since (reg : Registry) (plan₀ : Plan) (st₀ : Store) (plan : Plan) (s : State) :
    Prop where
  charted : s.store.Charted reg plan
  caches : s.caches.Holds reg (Category.Careful reg)
  grown : plan₀ <+: plan
  keeps : st₀.Keeps reg plan₀ s.store

/-- A run has ended with all that it had to keep, and with a result as it should be if it has
succeeded. -/
inductive EndsSince (reg : Registry) (plan₀ : Plan) (st₀ : Store) (plan : Plan)
    (Q : Plan → α → Prop) : EStateM.Result Fault State α → Prop where
  | ok {plan' : Plan} {a : α} {s : State} (hplan : plan <+: plan')
      (hs : s.Since reg plan₀ st₀ plan') (hq : Q plan' a) : EndsSince reg plan₀ st₀ plan Q (.ok a s)
  | error {plan' : Plan} {e : Fault} {s : State} (hplan : plan <+: plan')
      (hs : s.Since reg plan₀ st₀ plan') : EndsSince reg plan₀ st₀ plan Q (.error e s)

/-- From every state that has kept what was to be kept the run goes on to keep it. -/
def Run.Careful (reg : Registry) (plan₀ : Plan) (st₀ : Store) (plan : Plan) (Q : Plan → α → Prop)
    (x : Run α) : Prop :=
  ∀ s : State, s.Since reg plan₀ st₀ plan → EndsSince reg plan₀ st₀ plan Q (x s)

namespace Run.Careful

variable {Q R : Plan → α → Prop} {x : Run α}

lemma pure {a : α} (hq : Q plan a) : Careful reg plan₀ st₀ plan Q (Pure.pure a) :=
  fun _ hs => .ok (List.prefix_refl _) hs hq

lemma throw (e : Fault) : Careful reg plan₀ st₀ plan Q (MonadExcept.throw e : Run α) :=
  fun _ hs => .error (List.prefix_refl _) hs

lemma bind {f : α → Run β} {R : Plan → β → Prop} (hx : x.Careful reg plan₀ st₀ plan Q)
    (hf : ∀ plan' a, plan <+: plan' → Q plan' a → (f a).Careful reg plan₀ st₀ plan' R) :
    (x >>= f).Careful reg plan₀ st₀ plan R := by
  intro s hs
  change EndsSince reg plan₀ st₀ plan R (EStateM.bind x f s)
  unfold EStateM.bind
  have hend := hx s hs
  generalize x s = r at hend
  cases hend with
  | error hplan hs => exact .error hplan hs
  | @ok plan' a s' hplan hs hq =>
    have hend' := hf _ a hplan hq s' hs
    change EndsSince reg plan₀ st₀ plan R (f a s')
    generalize f a s' = r' at hend'
    cases hend' with
    | ok hplan' hs' hr => exact .ok (hplan.trans hplan') hs' hr
    | error hplan' hs' => exact .error (hplan.trans hplan') hs'

/-- What only looks things up changes nothing. -/
lemma of_looks {Q : α → Prop} (h : x.Looks reg (Category.Careful reg) Q) :
    x.Careful reg plan₀ st₀ plan fun _ => Q := by
  intro s hs
  have hend := h s hs.caches
  generalize x s = r at hend
  cases hend with
  | ok hstore hcaches hq =>
    refine .ok (List.prefix_refl _) ⟨?_, hcaches, hs.grown, ?_⟩ hq
    · exact hstore.symm ▸ hs.charted
    · exact hstore.symm ▸ hs.keeps
  | error hstore hcaches =>
    refine .error (List.prefix_refl _) ⟨?_, hcaches, hs.grown, ?_⟩
    · exact hstore.symm ▸ hs.charted
    · exact hstore.symm ▸ hs.keeps

lemma ofExcept (r : Except Fault α) :
    (Run.ofExcept r).Careful reg plan₀ st₀ plan fun _ a => r = .ok a :=
  of_looks (.ofExcept r)

/-- What follows a question for the whole state may use that all has been kept. -/
lemma get_bind {f : State → Run α}
    (h : ∀ s : State, s.Since reg plan₀ st₀ plan → (f s).Careful reg plan₀ st₀ plan Q) :
    (get >>= f).Careful reg plan₀ st₀ plan Q :=
  fun s hs => h s hs s hs

lemma ask {question : Store → Except Fault α}
    (h : ∀ {st a}, st.Charted reg plan → question st = .ok a → Q plan a) :
    (Run.ask question).Careful reg plan₀ st₀ plan Q := by
  intro s hs
  rw [Run.ask]
  cases hq : question s.store with
  | ok a => exact .ok (List.prefix_refl _) hs (h hs.charted hq)
  | error e => exact .error (List.prefix_refl _) hs

lemma change {update : Store → Except Fault Store}
    (h : ∀ {st st'}, st.Charted reg plan → plan₀ <+: plan → st₀.Keeps reg plan₀ st →
      update st = .ok st' → st'.Charted reg plan ∧ st₀.Keeps reg plan₀ st') :
    (Run.change update).Careful reg plan₀ st₀ plan fun _ _ => True := by
  intro s hs
  rw [Run.change]
  cases hu : update s.store with
  | ok st =>
    obtain ⟨hcharted, hkeeps⟩ := h hs.charted hs.grown hs.keeps hu
    exact .ok (List.prefix_refl _) ⟨hcharted, hs.caches, hs.grown, hkeeps⟩ trivial
  | error e => exact .error (List.prefix_refl _) hs

lemma step {step : Store → α × Store}
    (h : ∀ {st}, st.Charted reg plan → plan₀ <+: plan → st₀.Keeps reg plan₀ st →
      ∃ plan', plan <+: plan' ∧ (step st).2.Charted reg plan' ∧ st₀.Keeps reg plan₀ (step st).2 ∧
        Q plan' (step st).1) :
    (Run.step step).Careful reg plan₀ st₀ plan Q := by
  intro s hs
  obtain ⟨plan', hplan, hcharted, hkeeps, hq⟩ := h hs.charted hs.grown hs.keeps
  exact .ok hplan ⟨hcharted, hs.caches, hs.grown.trans hplan, hkeeps⟩ hq

end Run.Careful

/-! ### Receivers and places -/

/-- A receiver that is handed on has passed the guard, if there is one. -/
lemma Run.receive_careful {demand : ReceiverGuard → Value → Except Fault Unit}
    (hdemand : ∀ {g v}, demand g v = .ok () → v.isAssignableTo g.target g.isValueType = true)
    (hr : receiver.Known reg plan) :
    (Run.receive demand receiver guard).Careful reg plan₀ st₀ plan fun plan' v =>
      v.Known reg plan' ∧
        ∀ g, guard = some g → v.isAssignableTo g.target g.isValueType = true := by
  cases guard with
  | none => exact .pure ⟨Value.IsBasic.known ⟨rfl, rfl⟩, nofun⟩
  | some g =>
    refine (Careful.ofExcept _).bind fun plan' _ hplan hcheck => .pure ⟨hr.mono hplan, ?_⟩
    rintro _ ⟨⟩
    exact hdemand hcheck

/-- A slot of the target that may be written may be written in every receiver that the guard lets
pass. -/
lemma Registry.Settled.slot_of_receiver (hv : Settled reg st₁) {shape : Shape} {g : ReceiverGuard}
    {slot : Nat} (hshape : receiver.shape? = some shape) (hhas : reg.HasShape shape)
    (hr : receiver.isAssignableTo g.target g.isValueType = true)
    (hslot : reg.InstanceSlot g.target slot true) : reg.InstanceSlot shape.id slot true := by
  obtain ⟨levels, f, hc, hf, hw⟩ := hslot
  obtain ⟨d, hd, -⟩ := id hhas
  obtain ⟨farther, hc', -⟩ := hv.archive.laidOut hd
  exact ⟨_, f, hc', hv.field_of_receiver hshape hhas hr hc hc' hf, hw⟩

lemma Run.alive_careful (type : TypeId) :
    (Run.alive ctx type).Careful reg plan₀ st₀ plan fun _ _ => True :=
  .of_looks (alive_looks type)

namespace Place

lemma read_careful (p : Place) (hr : receiver.Known reg plan) :
    (p.read ctx receiver).Careful reg plan₀ st₀ plan fun plan' v => v.Known reg plan' := by
  cases p with
  | receiver slot => exact .ask fun hst hread => hst.readSlot hr hread
  | static owner slot =>
    exact (Run.alive_careful owner).bind fun _ _ _ _ => .ask fun hst hread => hst.readStatic hread

lemma store_careful (hv : Settled reg st₁) (hp : p.Open reg guard) (hr : receiver.Known reg plan)
    (hguard : ∀ g, guard = some g → receiver.isAssignableTo g.target g.isValueType = true)
    (hnew : new.Known reg plan) (storesValueType : Bool) :
    (p.store ctx receiver new storesValueType).Careful reg plan₀ st₀ plan fun _ _ => True := by
  refine Careful.get_bind fun s hs => ?_
  have hknown := hs.charted.toStored hnew storesValueType
  cases hp with
  | receiver hg hslot =>
    refine .change fun hst hgrown hkeeps hwrite => ⟨hst.writeSlot hknown hwrite, ?_⟩
    refine hkeeps.writeSlot hgrown hr (fun hshape => ?_) hwrite
    exact hv.slot_of_receiver hshape (hst.hasShape hr hshape) (hguard _ hg) hslot
  | @static owner slot hslot =>
    refine (Run.alive_careful owner).bind fun plan' _ hplan _ => ?_
    exact .change fun hst hgrown hkeeps hwrite =>
      ⟨hst.writeStatic (hknown.mono hplan) hwrite, hkeeps.writeStatic hslot hwrite⟩

end Place

/-! ### Fields and properties -/

lemma Getter.run_careful {g : Getter} (h : g.Bodiless) (hr : receiver.Known reg plan) :
    (g.run ctx receiver).Careful reg plan₀ st₀ plan fun plan' v => v.Known reg plan' := by
  obtain ⟨p, haccess⟩ := h
  refine (receive_careful ReceiverGuard.assignable_of_check hr).bind fun plan₁ r _ hr₁ => ?_
  rw [haccess]
  exact p.read_careful hr₁.1

lemma Setter.run_careful (hv : Settled reg st₁) {s : Setter} (h : s.Bodiless) (hopen : s.Open reg)
    (hr : receiver.Known reg plan) (hnew : new.Known reg plan) :
    (s.run ctx receiver new).Careful reg plan₀ st₀ plan fun _ _ => True := by
  obtain ⟨p, haccess⟩ := h
  apply (receive_careful ReceiverGuard.assignable_of_checkMutable hr).bind
  rintro plan₁ r hplan₁ ⟨hr₁, hguard⟩
  refine (Careful.ofExcept _).bind fun plan₂ _ hplan₂ _ => ?_
  rw [haccess]
  exact Place.store_careful hv (hopen p haccess) (hr₁.mono hplan₂) hguard
    (hnew.mono (hplan₁.trans hplan₂)) _

/-- One setter after the other: the plan may have grown when the next one is run. -/
lemma BatchSetter.runEach_careful (hv : Settled reg st₁) {setters : List Setter}
    {values : List Value} (h : ∀ s ∈ setters, s.Bodiless ∧ s.Open reg)
    (hr : receiver.Known reg plan) (hvalues : ∀ v ∈ values, v.Known reg plan) :
    (runEach ctx receiver setters values).Careful reg plan₀ st₀ plan fun _ _ => True := by
  induction setters generalizing plan values with
  | nil => exact .pure trivial
  | cons s setters ih =>
    cases values with
    | nil => exact .pure trivial
    | cons v values =>
      obtain ⟨⟨hs, hopen⟩, hsetters⟩ := List.forall_mem_cons.mp h
      obtain ⟨hv₁, hvalues⟩ := List.forall_mem_cons.mp hvalues
      have hfirst : (s.run ctx receiver v).Careful reg plan₀ st₀ plan fun _ _ => True :=
        s.run_careful hv hs hopen hr hv₁
      exact hfirst.bind fun plan' _ hplan _ =>
        ih hsetters (hr.mono hplan) fun w hw => (hvalues w hw).mono hplan

lemma BatchSetter.run_careful (hv : Settled reg st₁) {b : BatchSetter}
    (h : ∀ s ∈ b.setters, s.Bodiless ∧ s.Open reg) (hr : receiver.Known reg plan)
    {values : List Value} (hvalues : ∀ v ∈ values, v.Known reg plan) :
    (b.run ctx receiver values).Careful reg plan₀ st₀ plan fun _ _ => True := by
  rw [BatchSetter.run]
  split
  · exact runEach_careful hv h hr hvalues
  · exact .throw _

lemma Copier.run_careful (hv : Settled reg st₁) {steps : List (Getter × Setter)}
    (h : ∀ step ∈ steps, (step.1.Bodiless ∧ step.2.Bodiless) ∧ step.2.Open reg)
    {source target : Value} (hsource : source.Known reg plan) (htarget : target.Known reg plan) :
    (runEach ctx source target steps).Careful reg plan₀ st₀ plan fun _ _ => True := by
  induction steps generalizing plan with
  | nil => exact .pure trivial
  | cons step steps ih =>
    obtain ⟨⟨⟨hgetter, hsetter⟩, hopen⟩, hsteps⟩ := List.forall_mem_cons.mp h
    refine (step.1.run_careful hgetter hsource).bind fun plan₁ v hplan₁ hv₁ => ?_
    have hset : (step.2.run ctx target v).Careful reg plan₀ st₀ plan₁ fun _ _ => True :=
      step.2.run_careful hv hsetter hopen (htarget.mono hplan₁) hv₁
    refine hset.bind fun plan₂ _ hplan₂ _ => ?_
    have hplan := hplan₁.trans hplan₂
    exact ih hsteps (hsource.mono hplan) (htarget.mono hplan)

/-! ### Methods and constructors -/

/-- What a call gives is known, and so are the arguments after it. -/
def KnownCall (reg : Registry) (plan : Plan) (r : Value × List Value) : Prop :=
  r.1.Known reg plan ∧ ∀ v ∈ r.2, v.Known reg plan

lemma KnownCall.writeBack {arguments : List Value} {r : Value × List Value}
    (h : KnownCall reg plan r) (ha : ∀ v ∈ arguments, v.Known reg plan) (params : List Param) :
    KnownCall reg plan (r.1, writeBack params arguments r.2) :=
  ⟨h.1, fun v hv => (mem_writeBack hv).elim (ha v) (h.2 v)⟩

lemma Method.perform_careful (hv : Settled reg st₁) {m : Method} (h : m.Bodiless)
    (hopen : m.Open reg) (hr : receiver.Known reg plan)
    (hguard : ∀ g, m.receiver = some g → receiver.isAssignableTo g.target g.isValueType = true)
    {arguments : List Value} (ha : ∀ v ∈ arguments, v.Known reg plan) :
    (m.perform ctx receiver arguments).Careful reg plan₀ st₀ plan fun plan' r =>
      KnownCall reg plan' r := by
  rw [perform]
  cases h with
  | @read p hbody =>
    rw [hbody]
    exact (p.read_careful hr).bind fun plan' v hplan hv' =>
      .pure ⟨hv', fun w hw => (ha w hw).mono hplan⟩
  | @write p storesValueType hbody =>
    have hlast : (arguments.getLast?.getD .null).Known reg plan := by
      cases hlast : arguments.getLast? with
      | none => exact Value.IsBasic.known ⟨rfl, rfl⟩
      | some v => exact ha v (List.mem_of_getLast? hlast)
    rw [hbody]
    have hstore : (p.store ctx receiver (arguments.getLast?.getD .null) storesValueType).Careful
        reg plan₀ st₀ plan fun _ _ => True :=
      Place.store_careful hv (hopen p storesValueType hbody) hr hguard hlast storesValueType
    exact hstore.bind fun plan' _ hplan _ => .pure ⟨Value.IsBasic.known ⟨rfl, rfl⟩,
      fun w hw => (ha w ((List.dropLast_subset _) hw)).mono hplan⟩

lemma Method.run_careful (hv : Settled reg st₁) {m : Method} (h : m.Bodiless) (hopen : m.Open reg)
    (hr : receiver.Known reg plan) {arguments : List Value}
    (ha : ∀ v ∈ arguments, v.Known reg plan) :
    (m.run ctx receiver arguments).Careful reg plan₀ st₀ plan fun plan' r =>
      KnownCall reg plan' r := by
  apply (receive_careful assignable_of_demand hr).bind
  rintro plan₁ r hplan₁ ⟨hr₁, hguard⟩
  refine (Careful.ofExcept _).bind fun plan₂ _ hplan₂ _ => ?_
  have ha₂ : ∀ v ∈ arguments, v.Known reg plan₂ := fun v hmem =>
    (ha v hmem).mono (hplan₁.trans hplan₂)
  have hr₂ := hr₁.mono hplan₂
  refine (perform_careful hv h hopen hr₂ hguard ha₂).bind fun plan₃ r₃ hplan₃ hr₃ => ?_
  exact .pure (hr₃.writeBack (fun v hmem => (ha₂ v hmem).mono hplan₃) m.params)

namespace Construction

variable {c : Construction}

lemma blank_careful (hv : Settled reg st₁) (h : reg.get? c.owner.id = some c.owner) :
    c.blank.Careful reg plan₀ st₀ plan fun plan' v => v.Known reg plan' := by
  refine .step fun {st} hst hgrown hkeeps => ?_
  obtain ⟨plan₁, hplan₁, hst₁, hmade⟩ := hst.instantiate hv h
  obtain ⟨plan₂, hplan₂, hst₂, hwrapped⟩ := hst₁.wrap hmade
  refine ⟨plan₂, hplan₁.trans hplan₂, hst₂, ?_, hwrapped⟩
  exact (hkeeps.instantiate hgrown hst c.owner).wrap (hgrown.trans hplan₁) hst₁ _

/-- The constructors do nothing, so they write nothing. -/
lemma run_careful (hv : Settled reg st₁) (hn : ctx.native.Idle) (h : c.Bodiless)
    (howner : reg.get? c.owner.id = some c.owner) {arguments : List Value}
    (ha : ∀ v ∈ arguments, v.Known reg plan) :
    (c.run ctx arguments).Careful reg plan₀ st₀ plan fun plan' r => KnownCall reg plan' r := by
  refine (Careful.ofExcept _).bind fun plan₁ _ hplan₁ _ => ?_
  refine (alive_careful c.body.declaring.id).bind fun plan₂ _ hplan₂ _ => ?_
  refine (blank_careful hv howner).bind fun plan₃ made hplan₃ hmade => ?_
  refine (Careful.of_looks (inherit_looks hn h.inherited made)).bind fun plan₄ _ hplan₄ _ => ?_
  refine (Careful.of_looks (c.body.run_looks hn h.body made arguments)).bind
    fun plan₅ r hplan₅ hr => ?_
  subst hr
  have hplan := ((hplan₁.trans hplan₂).trans hplan₃).trans (hplan₄.trans hplan₅)
  have ha₅ : ∀ v ∈ arguments, v.Known reg plan₅ := fun v hv => (ha v hv).mono hplan
  refine Careful.get_bind fun s hs => .pure ?_
  have hunwrapped := hs.charted.unwrap (hmade.mono (hplan₄.trans hplan₅))
  exact KnownCall.writeBack (r := (_, arguments)) ⟨hunwrapped, ha₅⟩ ha₅ c.params

end Construction

/-! ### Array elements -/

lemma locateElement_eq_ok {rank : Nat} {indices : List Value} {shape : ArrayShape} {r : Ref}
    {offset : Nat} (h : locateElement rank receiver indices = .ok (shape, r, offset)) :
    receiver = .array shape r := by
  cases receiver with
  | array shape' r' =>
    rw [locateElement] at h
    split at h
    · obtain ⟨whole, -, h⟩ := exists_of_bind_eq_ok h
      obtain ⟨offset, -, h⟩ := exists_of_bind_eq_ok h
      cases h
      rfl
    · cases h
  | _ => cases h

lemma IndexReader.run_careful {x : IndexReader} (h : ∃ rank, x = .element rank)
    (indices : List Value) : (x.run ctx receiver indices).Careful reg plan₀ st₀ plan
      fun plan' v => v.Known reg plan' := by
  obtain ⟨rank, rfl⟩ := h
  exact (Careful.ofExcept _).bind fun _ _ _ _ => .ask fun hst hread => hst.readElement hread

lemma IndexWriter.run_careful {x : IndexWriter} (h : ∃ rank, x = .element rank)
    (hr : receiver.Known reg plan) (hnew : new.Known reg plan) (indices : List Value) :
    (x.run ctx receiver indices new).Careful reg plan₀ st₀ plan fun _ _ => True := by
  obtain ⟨rank, rfl⟩ := h
  refine (Careful.ofExcept _).bind fun plan₁ ⟨shape, r, offset⟩ hplan₁ hlocated => ?_
  obtain rfl := locateElement_eq_ok hlocated
  change Careful reg plan₀ st₀ plan₁ _
    (if new.isAssignableTo shape.element shape.elementIsValueType then _ else _)
  split
  · refine .change fun {st _} hst hgrown hkeeps hwrite => ?_
    have hstored := hst.toStored (hnew.mono hplan₁) shape.elementIsValueType
    exact ⟨hst.writeCell hstored hwrite, hkeeps.writeElement hgrown (hr.mono hplan₁) hwrite⟩
  · exact .throw _

end LateBinding
