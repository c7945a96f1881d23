import LateBinding.Proofs.Invoker.Bodiless
import LateBinding.Proofs.Run.Kept
import LateBinding.Proofs.Run.PlainInvokers

/-!
# Runs that only look things up

Before the binder runs an invoker it looks for members and asks the caches for invokers. It leaves
the store as it is meanwhile, and what it gets is a member as it is found now, or an invoker that
has been remembered or is made now. So if something is said of all invokers that the binder makes,
and it holds of all that are remembered, it holds of what the binder gets and goes on to hold of
what is remembered.
-/

namespace LateBinding

open Run

variable {α β : Type} {reg : Registry} {P : (c : Category) → c.Item → Prop} {cs : Caches}
  {st : Store}

/-! ### What is remembered -/

/-- What is remembered are members as they are found, and invokers of which something holds. -/
structure Caches.Holds (reg : Registry) (P : (c : Category) → c.Item → Prop) (cs : Caches) :
    Prop where
  lookups : LookupsSound reg cs
  invokers : ∀ {c : Category} {k : c.Key} {held : Stamped c.Item}, c ≠ .lookups →
    (cs.memo c).get? k = some held → P c held.value

lemma Caches.holds_empty : Holds reg P {} where
  lookups := fun _ _ h => by cases h
  invokers := fun {c} _ _ _ h => by cases c <;> cases h

/-- What is remembered of the invokers is the same. -/
lemma Caches.Holds.search {cs' : Caches} (h : cs.Holds reg P) (hlookups : LookupsSound reg cs')
    (hmemo : ∀ {c}, c ≠ .lookups → cs'.memo c = cs.memo c) : cs'.Holds reg P where
  lookups := hlookups
  invokers := fun hc hk => h.invokers hc (hmemo hc ▸ hk)

/-- Beside what was remembered there is at most what has been made now. -/
lemma Caches.Holds.fetch (hP : Category.Built reg P) {config : Config} {c : Category} {key : c.Key}
    {make : Unit → Except Fault c.Item} (hf : Fetches reg config c key make) {s s' : State}
    (h : s.caches.Holds reg P) (hg : Grown c key (make ()) s s') : s'.caches.Holds reg P where
  lookups := h.lookups.congr (hg.memo hf.ne_lookups.symm)
  invokers := by
    intro d k held hd hk
    have hold : s.caches.All fun c _ x => P c x := fun _ _ _ hd hk => h.invokers hd hk
    exact hold.fetch hg (fun _ hx => hP.of_fetches hf hx) d k held hd hk

/-- Whatever a request does, what is remembered stays as it has to be. -/
lemma kept_holds (hP : Category.Built reg P) (config : Config) (next : TypeId) :
    Kept reg config fun s => s.store.nextType = next ∧ s.caches.Holds reg P where
  lookups := fun h => h.2.lookups
  change := fun h hst => ⟨hst.trans h.1, h.2⟩
  search := fun h hs hsound => ⟨hs.store ▸ h.1, h.2.search hsound hs.memo⟩
  fetch := by
    intro s c key make hf h
    have hg := grown_fetch c key make s
    exact ⟨hg.store ▸ h.1, h.2.fetch hP hf hg⟩

/-! ### Looking things up -/

/-- A run has ended with the store as it was, and with a result as it should be if it has
succeeded. -/
inductive Looked (reg : Registry) (P : (c : Category) → c.Item → Prop) (st : Store)
    (Q : α → Prop) : EStateM.Result Fault State α → Prop where
  | ok {a : α} {s : State} (hstore : s.store = st) (hs : s.caches.Holds reg P) (hq : Q a) :
      Looked reg P st Q (.ok a s)
  | error {e : Fault} {s : State} (hstore : s.store = st) (hs : s.caches.Holds reg P) :
      Looked reg P st Q (.error e s)

/-- The run leaves the store as it is. -/
def Run.Looks (reg : Registry) (P : (c : Category) → c.Item → Prop) (Q : α → Prop) (x : Run α) :
    Prop :=
  ∀ s : State, s.caches.Holds reg P → Looked reg P s.store Q (x s)

lemma Run.exists_of_bind_pure {x : Run α} {f : α → β} {s t : State} {b : β}
    (h : (x >>= fun a => pure (f a)) s = .ok b t) : ∃ a t', x s = .ok a t' ∧ b = f a := by
  obtain ⟨a, u, hx, hpure⟩ := exists_of_ok h
  cases hpure
  exact ⟨a, _, hx, rfl⟩

namespace Run.Looks

variable {Q R : α → Prop} {x : Run α}

lemma pure {a : α} (hq : Q a) : Looks reg P Q (Pure.pure a) := fun _ hs => .ok rfl hs hq

lemma throw (e : Fault) : Looks reg P Q (MonadExcept.throw e : Run α) := fun _ hs => .error rfl hs

lemma ofExcept (r : Except Fault α) : (Run.ofExcept r).Looks reg P fun a => r = .ok a := by
  cases r with
  | ok a => exact pure rfl
  | error e => exact throw e

lemma bind {f : α → Run β} {R : β → Prop} (hx : x.Looks reg P Q)
    (hf : ∀ a, Q a → (f a).Looks reg P R) : (x >>= f).Looks reg P R := by
  intro s hs
  change Looked reg P s.store R (EStateM.bind x f s)
  unfold EStateM.bind
  have hend := hx s hs
  generalize x s = r at hend
  cases hend with
  | error hstore hs => exact .error hstore hs
  | @ok a s' hstore hs' hq =>
    rw [← hstore]
    exact hf a hq s' hs'

lemma mono (h : x.Looks reg P Q) (hqr : ∀ a, Q a → R a) : x.Looks reg P R := by
  intro s hs
  have hend := h s hs
  generalize x s = r at hend
  cases hend with
  | ok hstore hs hq => exact .ok hstore hs (hqr _ hq)
  | error hstore hs => exact .error hstore hs

lemma store_eq (h : x.Looks reg P Q) {s : State} (hs : s.caches.Holds reg P) :
    (after (x s)).store = s.store := by
  have hend := h s hs
  generalize x s = r at hend
  cases hend with
  | ok hstore _ _ => exact hstore
  | error hstore _ => exact hstore

lemma of_ok (h : x.Looks reg P Q) {s t : State} (hs : s.caches.Holds reg P) {a : α}
    (ha : x s = .ok a t) : Q a := by
  have hend := h s hs
  rw [ha] at hend
  cases hend with
  | ok _ _ hq => exact hq

lemma discard (h : x.Looks reg P Q) : (discard x).Looks reg P fun _ => True := by
  intro s hs
  change Looked reg P s.store _ (EStateM.map _ x s)
  unfold EStateM.map
  have hend := h s hs
  generalize x s = r at hend
  cases hend with
  | ok hstore hs _ => exact .ok hstore hs trivial
  | error hstore hs => exact .error hstore hs

lemma ask (question : Store → Except Fault α) :
    (Run.ask question).Looks reg P fun _ => True := by
  intro s hs
  rw [Run.ask]
  cases question s.store with
  | ok a => exact .ok rfl hs trivial
  | error e => exact .error rfl hs

lemma get_bind {f : State → Run α} (h : ∀ s, (f s).Looks reg P Q) :
    (get >>= f).Looks reg P Q :=
  fun s hs => h s s hs

end Run.Looks

/-! ### Invokers -/

section Invokers

variable {ctx : Context}

lemma Run.alive_looks (type : TypeId) :
    (Run.alive ctx type).Looks reg P fun _ => True := by
  refine .get_bind fun s => ?_
  change Looks reg P _ (if ctx.registry.isAlive s.store type then _ else _)
  split
  · exact .pure trivial
  · exact .throw _

lemma Run.receive_looks (demand : ReceiverGuard → Value → Except Fault Unit) (receiver : Value)
    (guard : Option ReceiverGuard) :
    (Run.receive demand receiver guard).Looks reg P fun _ => True := by
  cases guard with
  | none => exact .pure trivial
  | some g => exact (Looks.ofExcept _).bind fun _ _ => .pure trivial

lemma Place.read_looks (p : Place) (receiver : Value) :
    (p.read ctx receiver).Looks reg P fun _ => True := by
  cases p with
  | receiver slot => exact Looks.ask fun st => st.readSlot receiver slot
  | static owner slot => exact (alive_looks owner).bind fun _ _ => .ask _

lemma BoundScript.run_looks (hn : ctx.native.Idle) {script : BoundScript} (h : script.body = [])
    (receiver : Value) (arguments : List Value) :
    (script.run ctx receiver arguments).Looks reg P fun r => r = (.null, arguments) := by
  refine (alive_looks script.declaring.id).bind fun _ _ => ?_
  rw [h, hn]
  exact .pure rfl

lemma Construction.inherit_looks (hn : ctx.native.Idle) {scripts : List BoundScript}
    (h : ∀ script ∈ scripts, script.body = []) (made : Value) :
    (inherit ctx made scripts).Looks reg P fun _ => True := by
  induction scripts with
  | nil => exact .pure trivial
  | cons script scripts ih =>
    obtain ⟨hscript, hscripts⟩ := List.forall_mem_cons.mp h
    exact (script.run_looks hn hscript made []).discard.bind fun _ _ => ih hscripts

lemma Getter.run_looks {g : Getter} (h : g.Bodiless) (receiver : Value) :
    (g.run ctx receiver).Looks reg P fun _ => True := by
  obtain ⟨p, haccess⟩ := h
  refine (receive_looks _ receiver g.receiver).bind fun r _ => ?_
  rw [haccess]
  exact p.read_looks r

end Invokers

/-! ### The binder -/

namespace Binder

variable {config : Config} {native : Native}

lemma member_looks {q : Query} (hq : q.signature.OfRequest) (type : TypeId) :
    ((Binder.of reg config native).member type q).Looks reg P fun m => reg.find type q = .ok m := by
  intro s hs
  obtain ⟨s', hs', hsound, heq⟩ := member_eq hs.lookups hq config native type
  rw [heq, ← hs'.store]
  exact Looks.ofExcept _ s' (hs.search hsound hs'.memo)

lemma found_looks {sort : InvokerSort} {type : TypeId} {q : Query}
    (h : Asks config sort type q) :
    ((Binder.of reg config native).member type q).Looks reg P (reg.Finds config sort type) :=
  (member_looks h.ofRequest type).mono fun _ hm => ⟨q, h, hm⟩

lemma membersNamed_looks (type : TypeId) (flags : Flags) (names : List String) :
    ((Binder.of reg config native).membersNamed type flags names).Looks reg P
      fun ms => reg.findEach type flags names = .ok ms := by
  induction names with
  | nil => exact .pure rfl
  | cons name names ih =>
    apply (member_looks (q := { kinds := .fieldsAndProperties, name, flags }) trivial type).bind
    intro m hm
    exact ih.bind fun ms hms => .pure (mapM_cons_of_ok hm hms)

variable (hP : Category.Built reg P)
include hP

lemma fetch_looks {c : Category} {key : c.Key} {make : Unit → Except Fault c.Item}
    (h : Fetches reg config c key make) :
    (Run.fetch c key make).Looks reg P fun held => P c held.value := by
  intro s hs
  have hgrown := grown_fetch c key make s
  have hholds := hs.fetch hP h hgrown
  obtain ⟨r, hr, heq⟩ := fetch_cases c key make s
  rw [heq] at hgrown hholds ⊢
  cases hr with
  | hit hold _ => exact .ok rfl hholds (hs.invokers h.ne_lookups hold)
  | stored _ hmade _ _ => exact .ok rfl hholds (hP.of_fetches h hmade)
  | failed _ _ _ => exact .error rfl hholds

lemma getter_looks (type : TypeId) (kinds : KindSet) (name : String) (flags : Flags) :
    ((Binder.of reg config native).getter type kinds name flags).Looks reg P
      fun g => P .getters g.value :=
  (found_looks (.getter type kinds name flags)).bind fun _ hm =>
    fetch_looks hP (.invoker .getter hm)

lemma setter_looks (type : TypeId) (kinds : KindSet) (name : String) (flags : Flags) :
    ((Binder.of reg config native).setter type kinds name flags).Looks reg P
      fun s => P .setters s.value :=
  (found_looks (.setter type kinds name flags)).bind fun _ hm =>
    fetch_looks hP (.invoker .setter hm)

lemma method_looks {type : TypeId} {name : String} {signature : Signature} {flags : Flags}
    (h : Asks config .method type { kinds := .single .method, name, flags, signature }) :
    ((Binder.of reg config native).method type name signature flags).Looks reg P
      fun m => P .methods m.value :=
  (found_looks h).bind fun _ hm => fetch_looks hP (.invoker .method hm)

lemma constructor_looks {type : TypeId} {signature : Signature}
    (h : Asks config .constructor type
      { kinds := .single .constructor, name := constructorName, flags := .instanceAny,
        signature }) :
    ((Binder.of reg config native).constructor type signature).Looks reg P
      fun c => P .constructors c.value :=
  (found_looks h).bind fun _ hm => fetch_looks hP (.invoker .constructor hm)

lemma indexReader_looks (receiver : Value) (indices : List Value) :
    ((Binder.of reg config native).indexReader receiver indices).Looks reg P
      fun x => P .indexReaders x.value := by
  cases receiver with
  | array shape r =>
    have hf : Fetches reg config .indexReaders _ _ := .elementReader shape.rank
    exact fetch_looks hP hf
  | _ =>
    refine (Looks.ofExcept _).bind fun type _ => ?_
    exact (found_looks (.indexReader type indices)).bind fun _ hm =>
      fetch_looks hP (.invoker .indexReader hm)

lemma indexWriter_looks (receiver : Value) (indices : List Value) :
    ((Binder.of reg config native).indexWriter receiver indices).Looks reg P
      fun x => P .indexWriters x.value := by
  cases receiver with
  | array shape r =>
    have hf : Fetches reg config .indexWriters _ _ := .elementWriter shape.rank
    exact fetch_looks hP hf
  | _ =>
    refine (Looks.ofExcept _).bind fun type _ => ?_
    exact (found_looks (.indexWriter type indices)).bind fun _ hm =>
      fetch_looks hP (.invoker .indexWriter hm)

lemma batchSetter_looks (type : TypeId) (flags : Flags) (names : List String) :
    ((Binder.of reg config native).batchSetter type flags names).Looks reg P
      fun b => P .batchSetters b.value := by
  refine (membersNamed_looks type flags names).bind fun ms hms => ?_
  have hfetches : Fetches reg config _ _ _ := .batchSetter hms
  exact fetch_looks hP hfetches

lemma copier_looks (source target : TypeId) (o : CopyOptions) :
    ((Binder.of reg config native).copier source target o).Looks reg P
      fun c => P .copiers c.value := by
  refine (Looks.ofExcept _).bind fun pairs hpairs => ?_
  have hfetches : Fetches reg config _ _ _ := .copier hpairs
  exact fetch_looks hP hfetches

end Binder

end LateBinding
