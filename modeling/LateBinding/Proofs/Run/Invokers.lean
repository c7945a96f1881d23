import LateBinding.Invoker.Run
import LateBinding.Proofs.Run.InStep

/-!
# Invokers in step

An invoker never asks the caches. All that it sees of the store are the cells, the static slots of
the types that own its places, and whether these types still exist. In two contexts in which these
are alike an invoker therefore goes in step with itself, as soon as native bodies do; and so it does
under a steady relation in contexts with one registry.
-/

namespace LateBinding

open Run

/-! ### Contexts in step -/

/-- A relation that sees the cells and the static slots of some types, and is kept when both stores
change them in the same way. -/
structure Framed (P : TypeId → Prop) (R : Bond) : Prop where
  cells : ∀ {s t}, R s t → s.store.cells = t.store.cells
  statics : ∀ {s t u}, R s t → P u → s.store.staticsOf u = t.store.staticsOf u
  setCells : ∀ {s t} cells, R s t →
    R { s with store := { s.store with cells } } { t with store := { t.store with cells } }
  setStatics : ∀ {s t u} slots, R s t → P u →
    R { s with store := { s.store with statics := s.store.statics.insert u slots } }
      { t with store := { t.store with statics := t.store.statics.insert u slots } }

/-- Every native body goes in step. -/
def Native.InStep (R : Bond) (n₁ n₂ : Native) : Prop :=
  ∀ script declaring receiver arguments, Run.InStep R (fun _ => True)
    (n₁ script declaring receiver arguments) (n₂ script declaring receiver arguments)

/-- Two contexts in which some types exist alike and native bodies go in step. -/
structure Context.InStep (P : TypeId → Prop) (R : Bond) (ctx₁ ctx₂ : Context) : Prop where
  framed : Framed P R
  alive : ∀ t, P t → Run.InStep R (fun _ => True) (Run.alive ctx₁ t) (Run.alive ctx₂ t)
  native : Native.InStep R ctx₁.native ctx₂.native

namespace Run.Steady

variable {R : Bond} (hR : Steady R)
include hR

lemma framed : Framed (fun _ => True) R where
  cells := fun hst => by rw [hR.store_eq hst]
  statics := fun hst _ => by rw [hR.store_eq hst]
  setCells := fun {s t} cells hst => by
    rw [hR.store_eq hst]
    exact hR.change hst (by rw [hR.store_eq hst])
  setStatics := fun {s t u} slots hst _ => by
    rw [hR.store_eq hst]
    exact hR.change hst (by rw [hR.store_eq hst])

lemma alive (reg : Registry) (n₁ n₂ : Native) (type : TypeId) : Run.InStep R (fun _ => True)
    (Run.alive ⟨reg, n₁⟩ type) (Run.alive ⟨reg, n₂⟩ type) := by
  refine hR.get_bind fun s t hst => ?_
  rw [hst]
  change Run.InStep R _ (if reg.isAlive t.store type then _ else _)
    (if reg.isAlive t.store type then _ else _)
  split
  · exact .pure trivial
  · exact .throw _

/-- In contexts with one registry all types exist alike. -/
lemma contexts (reg : Registry) {n₁ n₂ : Native} (hn : Native.InStep R n₁ n₂) :
    Context.InStep (fun _ => True) R ⟨reg, n₁⟩ ⟨reg, n₂⟩ :=
  ⟨hR.framed, fun t _ => hR.alive reg n₁ n₂ t, hn⟩

end Run.Steady

/-! ### Reading and writing -/

namespace Framed

variable {P : TypeId → Prop} {R : Bond} (hR : Framed P R)
include hR

lemma cell {s t : State} (hst : R s t) (r : Ref) : s.store.cell r = t.store.cell r := by
  rw [Store.cell, Store.cell, hR.cells hst]

lemma unwrap {s t : State} (hst : R s t) (v : Value) : s.store.unwrap v = t.store.unwrap v := by
  cases v with
  | wrapped shape r => exact congrArg (Value.struct shape) (hR.cell hst r)
  | _ => rfl

lemma toStored {s t : State} (hst : R s t) (placeIsValueType : Bool) (v : Value) :
    s.store.toStored placeIsValueType v = t.store.toStored placeIsValueType v := by
  rw [Store.toStored, Store.toStored, hR.unwrap hst]

lemma readSlot (v : Value) (slot : Nat) : InStep R (fun _ => True)
    (ask fun st => st.readSlot v slot) (ask fun st => st.readSlot v slot) := by
  intro s t hst
  have hslots : s.store.slots? v = t.store.slots? v := by
    cases v with
    | object shape r => exact congrArg some (hR.cell hst r)
    | wrapped shape r => exact congrArg some (hR.cell hst r)
    | _ => rfl
  rw [ask, ask, Store.readSlot, Store.readSlot, hslots]
  exact (InStep.ofExcept _).mono (fun _ _ => trivial) s t hst

lemma readElement (r : Ref) (offset : Nat) : InStep R (fun _ => True)
    (ask fun st => st.readElement r offset) (ask fun st => st.readElement r offset) := by
  intro s t hst
  rw [ask, ask, Store.readElement, Store.readElement, hR.cell hst]
  exact (InStep.ofExcept _).mono (fun _ _ => trivial) s t hst

lemma readStatic {owner : TypeId} (howner : P owner) (slot : Nat) : InStep R (fun _ => True)
    (ask fun st => st.readStatic owner slot) (ask fun st => st.readStatic owner slot) := by
  intro s t hst
  rw [ask, ask, Store.readStatic, Store.readStatic, hR.statics hst howner]
  exact (InStep.ofExcept _).mono (fun _ _ => trivial) s t hst

lemma setCell {s t : State} (hst : R s t) (r : Ref) (slots : List Value) :
    R { s with store := s.store.setCell r slots } { t with store := t.store.setCell r slots } := by
  unfold Store.setCell
  rw [hR.cells hst]
  exact hR.setCells _ hst

lemma writeCell (r : Ref) (slot : Nat) (new : Value) : InStep R (fun _ => True)
    (change fun st => st.writeCell r slot new) (change fun st => st.writeCell r slot new) := by
  intro s t hst
  rw [change, change, Store.writeCell, Store.writeCell, hR.cell hst]
  by_cases hslot : slot < (t.store.cell r).length
  · rw [if_pos hslot, if_pos hslot]
    exact .ok trivial (hR.setCell hst r _)
  · rw [if_neg hslot, if_neg hslot]
    exact .error hst

lemma writeSlot (v : Value) (slot : Nat) (new : Value) : InStep R (fun _ => True)
    (change fun st => st.writeSlot v slot new) (change fun st => st.writeSlot v slot new) := by
  cases v with
  | object shape r => exact hR.writeCell r slot new
  | wrapped shape r => exact hR.writeCell r slot new
  | _ => exact fun _ _ hst => .error hst

lemma writeStatic {owner : TypeId} (howner : P owner) (slot : Nat) (new : Value) :
    InStep R (fun _ => True) (change fun st => st.writeStatic owner slot new)
      (change fun st => st.writeStatic owner slot new) := by
  intro s t hst
  rw [change, change, Store.writeStatic, Store.writeStatic, hR.statics hst howner]
  by_cases hslot : slot < (t.store.staticsOf owner).length
  · rw [if_pos hslot, if_pos hslot]
    exact .ok trivial (hR.setStatics _ hst howner)
  · rw [if_neg hslot, if_neg hslot]
    exact .error hst

lemma addCell {s t : State} (hst : R s t) (slots : List Value) :
    R { s with store := s.store.addCell slots } { t with store := t.store.addCell slots } := by
  rw [Store.addCell, Store.addCell, hR.cells hst]
  exact hR.setCells _ hst

lemma blank (c : Construction) : InStep R (fun _ => True) c.blank c.blank := by
  intro s t hst
  have hnext : s.store.nextRef = t.store.nextRef := congrArg List.length (hR.cells hst)
  simp only [Construction.blank, Run.step, Store.instantiate]
  split <;> simp only [Store.wrap, hnext] <;> exact .ok trivial (hR.addCell hst _)

end Framed

/-! ### Types that own places -/

/-- The types that must still exist for the place to be used. -/
def Place.owners : Place → List TypeId
  | receiver _ => []
  | static owner _ => [owner]

/-- The types that must still exist for the access, and likewise below. -/
def Access.owners : Access → List TypeId
  | place p => p.owners
  | native script => [script.declaring.id]

def Getter.owners (g : Getter) : List TypeId := g.access.owners

def Setter.owners (s : Setter) : List TypeId := s.access.owners

def BatchSetter.owners (b : BatchSetter) : List TypeId := b.setters.flatMap Setter.owners

def Copier.owners (c : Copier) : List TypeId :=
  c.steps.flatMap fun step => step.1.owners ++ step.2.owners

def MethodBody.owners : MethodBody → List TypeId
  | read p => p.owners
  | write p _ => p.owners
  | native script => [script.declaring.id]

def Method.owners (m : Method) : List TypeId := m.body.owners

def Construction.owners (c : Construction) : List TypeId :=
  c.body.declaring.id :: c.inherited.map (·.declaring.id)

def IndexReader.owners : IndexReader → List TypeId
  | element _ => []
  | indexer _ _ script => [script.declaring.id]

def IndexWriter.owners : IndexWriter → List TypeId
  | element _ => []
  | indexer _ _ _ script => [script.declaring.id]

/-! ### Invokers -/

lemma Run.receive_inStep {R : Bond} (demand : ReceiverGuard → Value → Except Fault Unit)
    (receiver : Value) (guard : Option ReceiverGuard) : Run.InStep R (fun _ => True)
      (Run.receive demand receiver guard) (Run.receive demand receiver guard) := by
  cases guard with
  | none => exact .pure trivial
  | some g => exact (InStep.ofExcept _).bind fun _ _ => .pure trivial

section Invokers

variable {P : TypeId → Prop} {R : Bond} {ctx₁ ctx₂ : Context} (h : Context.InStep P R ctx₁ ctx₂)
include h

lemma Place.read_inStep (p : Place) (hp : ∀ t ∈ p.owners, P t) (receiver : Value) :
    Run.InStep R (fun _ => True) (p.read ctx₁ receiver) (p.read ctx₂ receiver) := by
  cases p with
  | receiver slot => exact h.framed.readSlot receiver slot
  | static owner slot =>
    have howner := hp owner List.mem_cons_self
    exact (h.alive owner howner).bind fun _ _ => h.framed.readStatic howner slot

lemma Place.write_inStep (p : Place) (hp : ∀ t ∈ p.owners, P t) (receiver new : Value) :
    Run.InStep R (fun _ => True) (p.write ctx₁ receiver new) (p.write ctx₂ receiver new) := by
  cases p with
  | receiver slot => exact h.framed.writeSlot receiver slot new
  | static owner slot =>
    have howner := hp owner List.mem_cons_self
    exact (h.alive owner howner).bind fun _ _ => h.framed.writeStatic howner slot new

lemma Place.store_inStep (p : Place) (hp : ∀ t ∈ p.owners, P t) (receiver new : Value)
    (storesValueType : Bool) : Run.InStep R (fun _ => True)
      (p.store ctx₁ receiver new storesValueType) (p.store ctx₂ receiver new storesValueType) := by
  intro s t hst
  have hnew := h.framed.toStored hst storesValueType new
  change Agree R _ (p.write ctx₁ receiver (s.store.toStored storesValueType new) s)
    (p.write ctx₂ receiver (t.store.toStored storesValueType new) t)
  rw [hnew]
  exact p.write_inStep h hp receiver _ s t hst

lemma BoundScript.run_inStep (s : BoundScript) (hs : P s.declaring.id) (receiver : Value)
    (arguments : List Value) : Run.InStep R (fun _ => True) (s.run ctx₁ receiver arguments)
      (s.run ctx₂ receiver arguments) :=
  (h.alive s.declaring.id hs).bind fun _ _ => h.native s.body s.declaring receiver arguments

/-! #### Fields and properties -/

lemma Getter.run_inStep (g : Getter) (hg : ∀ t ∈ g.owners, P t) (receiver : Value) :
    Run.InStep R (fun _ => True) (g.run ctx₁ receiver) (g.run ctx₂ receiver) := by
  obtain ⟨guard, access⟩ := g
  apply (Run.receive_inStep _ receiver guard).bind
  intro receiver _
  cases access with
  | place p => exact p.read_inStep h hg receiver
  | native script =>
    exact (script.run_inStep h (hg _ List.mem_cons_self) receiver []).bind fun _ _ => .pure trivial

lemma Setter.run_inStep (s : Setter) (hs : ∀ t ∈ s.owners, P t) (receiver new : Value) :
    Run.InStep R (fun _ => True) (s.run ctx₁ receiver new) (s.run ctx₂ receiver new) := by
  obtain ⟨guard, value, access⟩ := s
  apply (Run.receive_inStep _ receiver guard).bind
  intro receiver _
  apply (InStep.ofExcept _).bind
  intro _ _
  cases access with
  | place p => exact p.store_inStep h hs receiver new _
  | native script =>
    intro s t hst
    have hnew := h.framed.toStored hst value.isValueType new
    change Agree R _
      (discard (script.run ctx₁ receiver [s.store.toStored value.isValueType new]) s)
      (discard (script.run ctx₂ receiver [t.store.toStored value.isValueType new]) t)
    rw [hnew]
    exact (script.run_inStep h (hs _ List.mem_cons_self) receiver _).discard s t hst

lemma BatchSetter.runEach_inStep (receiver : Value) (setters : List Setter) (values : List Value)
    (hs : ∀ s ∈ setters, ∀ t ∈ s.owners, P t) : Run.InStep R (fun _ => True)
      (runEach ctx₁ receiver setters values) (runEach ctx₂ receiver setters values) := by
  induction setters generalizing values with
  | nil => exact .pure trivial
  | cons s ss ih =>
    cases values with
    | nil => exact .pure trivial
    | cons v vs =>
      exact (s.run_inStep h (hs s List.mem_cons_self) receiver v).bind fun _ _ =>
        ih vs fun s' hs' => hs s' (List.mem_cons_of_mem s hs')

lemma BatchSetter.run_inStep (b : BatchSetter) (hb : ∀ t ∈ b.owners, P t) (receiver : Value)
    (values : List Value) : Run.InStep R (fun _ => True) (b.run ctx₁ receiver values)
      (b.run ctx₂ receiver values) := by
  simp only [BatchSetter.run]
  split
  · exact runEach_inStep h receiver b.setters values fun s hs t ht =>
      hb t (List.mem_flatMap_of_mem hs ht)
  · exact .throw _

lemma Copier.runEach_inStep (source target : Value) (steps : List (Getter × Setter))
    (hs : ∀ step ∈ steps, ∀ t ∈ step.1.owners ++ step.2.owners, P t) :
    Run.InStep R (fun _ => True) (runEach ctx₁ source target steps)
      (runEach ctx₂ source target steps) := by
  induction steps with
  | nil => exact .pure trivial
  | cons step steps ih =>
    have hstep := hs step List.mem_cons_self
    apply (step.1.run_inStep h (fun t ht => hstep t (List.mem_append_left _ ht)) source).bind
    intro v _
    apply (step.2.run_inStep h (fun t ht => hstep t (List.mem_append_right _ ht)) target v).bind
    intro _ _
    exact ih fun step' hs' => hs step' (List.mem_cons_of_mem step hs')

lemma Copier.run_inStep (c : Copier) (hc : ∀ t ∈ c.owners, P t) (source target : Value) :
    Run.InStep R (fun _ => True) (c.run ctx₁ source target) (c.run ctx₂ source target) :=
  runEach_inStep h source target c.steps fun _ hs t ht => hc t (List.mem_flatMap_of_mem hs ht)

/-! #### Methods and constructors -/

lemma Method.perform_inStep (m : Method) (hm : ∀ t ∈ m.owners, P t) (receiver : Value)
    (arguments : List Value) : Run.InStep R (fun _ => True) (m.perform ctx₁ receiver arguments)
      (m.perform ctx₂ receiver arguments) := by
  obtain ⟨guard, demands, body, params⟩ := m
  cases body with
  | read p => exact (p.read_inStep h hm receiver).bind fun _ _ => .pure trivial
  | write p vt => exact (p.store_inStep h hm receiver _ vt).bind fun _ _ => .pure trivial
  | native script => exact script.run_inStep h (hm _ List.mem_cons_self) receiver arguments

lemma Method.run_inStep (m : Method) (hm : ∀ t ∈ m.owners, P t) (receiver : Value)
    (arguments : List Value) : Run.InStep R (fun _ => True) (m.run ctx₁ receiver arguments)
      (m.run ctx₂ receiver arguments) := by
  apply (Run.receive_inStep _ receiver m.receiver).bind
  intro receiver _
  apply (InStep.ofExcept _).bind
  intro _ _
  exact (m.perform_inStep h hm receiver arguments).bind fun _ _ => .pure trivial

lemma Construction.inherit_inStep (made : Value) (scripts : List BoundScript)
    (hs : ∀ script ∈ scripts, P script.declaring.id) : Run.InStep R (fun _ => True)
      (inherit ctx₁ made scripts) (inherit ctx₂ made scripts) := by
  induction scripts with
  | nil => exact .pure trivial
  | cons script scripts ih =>
    apply (script.run_inStep h (hs script List.mem_cons_self) made []).discard.bind
    intro _ _
    exact ih fun script' hs' => hs script' (List.mem_cons_of_mem script hs')

lemma Construction.run_inStep (c : Construction) (hc : ∀ t ∈ c.owners, P t)
    (arguments : List Value) :
    Run.InStep R (fun _ => True) (c.run ctx₁ arguments) (c.run ctx₂ arguments) := by
  have hbody : P c.body.declaring.id := hc _ List.mem_cons_self
  apply (InStep.ofExcept _).bind
  intro _ _
  apply (h.alive c.body.declaring.id hbody).bind
  intro _ _
  apply (h.framed.blank c).bind
  intro made _
  apply (inherit_inStep h made c.inherited fun script hs =>
    hc _ (List.mem_cons_of_mem _ (List.mem_map_of_mem hs))).bind
  intro _ _
  apply (c.body.run_inStep h hbody made arguments).bind
  intro r _ s t hst
  have hmade := h.framed.unwrap hst made
  change Agree R _ (.ok (s.store.unwrap made, writeBack c.params arguments r.2) s)
    (.ok (t.store.unwrap made, writeBack c.params arguments r.2) t)
  rw [hmade]
  exact .ok trivial hst

/-! #### Indexers and array elements -/

lemma IndexReader.run_inStep (x : IndexReader) (hx : ∀ t ∈ x.owners, P t) (receiver : Value)
    (indices : List Value) : Run.InStep R (fun _ => True) (x.run ctx₁ receiver indices)
      (x.run ctx₂ receiver indices) := by
  cases x with
  | element rank => exact (InStep.ofExcept _).bind fun _ _ => h.framed.readElement _ _
  | indexer guard arguments script =>
    apply (InStep.ofExcept _).bind
    intro _ _
    apply (InStep.ofExcept _).bind
    intro _ _
    exact (script.run_inStep h (hx _ List.mem_cons_self) receiver indices).bind
      fun _ _ => .pure trivial

lemma IndexWriter.run_inStep (x : IndexWriter) (hx : ∀ t ∈ x.owners, P t) (receiver : Value)
    (indices : List Value) (new : Value) : Run.InStep R (fun _ => True)
      (x.run ctx₁ receiver indices new) (x.run ctx₂ receiver indices new) := by
  cases x with
  | element rank =>
    apply (InStep.ofExcept _).bind
    intro located _
    obtain ⟨shape, r, offset⟩ := located
    change Run.InStep R _ (if _ then _ else _) (if _ then _ else _)
    split
    · -- a place for a value type stores a copy, which both stores make alike
      intro s t hst
      have hnew := h.framed.toStored hst shape.elementIsValueType new
      have hwrite := h.framed.writeCell r offset
        (t.store.toStored shape.elementIsValueType new) s t hst
      simp only [Run.change] at hwrite ⊢
      rwa [hnew]
    · exact .throw _
  | indexer guard arguments value script =>
    apply (InStep.ofExcept _).bind
    intro _ _
    apply (InStep.ofExcept _).bind
    intro _ _
    apply (InStep.ofExcept _).bind
    intro _ _
    exact (script.run_inStep h (hx _ List.mem_cons_self) receiver _).discard

end Invokers

end LateBinding
