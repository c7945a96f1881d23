import LateBinding.Proofs.Lookup.Copying
import LateBinding.Proofs.Registry.Bodiless
import LateBinding.Proofs.Run.Binder

/-!
# Invokers without bodies

An invoker of a member that has no native body reads or writes a place, or an element of an array,
or makes an instance by constructors that do nothing. Whatever the binder makes for types without
bodies is such an invoker.

What holds of the invokers of single members holds of all that the binder makes, if it passes from
setters and getters to the batch setters and copiers that consist of them.

Main statements: `Category.Built.of_fetches` and `Registry.AllBodiless.built`.
-/

namespace LateBinding

variable {reg : Registry} {target : TypeId} {m : Member} {slot : Nat}

/-! ### What the binder makes -/

/-- What is said of items holds of every invoker that is made for a member along the chain of the
target, of the access to array elements, and of what consists of such getters and setters. -/
structure Category.Built (reg : Registry) (P : (c : Category) → c.Item → Prop) : Prop where
  invoker : ∀ (sort : InvokerSort) {target : TypeId} {m : Member} {x : sort.Item},
    reg.Along target m → sort.compile reg target m = .ok x → P sort.category x
  elementReader : ∀ rank, P .indexReaders (.element rank)
  elementWriter : ∀ rank, P .indexWriters (.element rank)
  batchSetter : ∀ {b : BatchSetter}, (∀ s ∈ b.setters, P .setters s) → P .batchSetters b
  copier : ∀ {c : Copier}, (∀ step ∈ c.steps, P .getters step.1 ∧ P .setters step.2) →
    P .copiers c

/-- What the binder asks the caches for is made for members along the chains of the targets. -/
lemma Category.Built.of_fetches {P : (c : Category) → c.Item → Prop} (hP : Built reg P)
    {config : Config} {c : Category} {key : c.Key} {make : Unit → Except Fault c.Item} {x : c.Item}
    (h : Fetches reg config c key make) (hx : make () = .ok x) : P c x := by
  cases h with
  | invoker sort hm =>
    obtain ⟨q, -, hfind⟩ := hm
    exact hP.invoker sort (Registry.along_of_find hfind).1 hx
  | elementReader rank => exact Except.ok.inj hx ▸ hP.elementReader rank
  | elementWriter rank => exact Except.ok.inj hx ▸ hP.elementWriter rank
  | @batchSetter type flags names ms hms =>
    obtain ⟨setters, hsetters, rfl⟩ := exists_of_map_eq_ok hx
    refine hP.batchSetter fun s hs => ?_
    obtain ⟨m, hm, hmade⟩ := exists_of_mem_mapM hsetters hs
    obtain ⟨name, -, hfind⟩ := exists_of_mem_mapM hms hm
    exact hP.invoker .setter (Registry.along_of_find hfind).1 hmade
  | @copier source target o pairs hpairs =>
    obtain ⟨steps, hsteps, rfl⟩ := exists_of_map_eq_ok hx
    refine hP.copier fun step hstep => ?_
    obtain ⟨pair, hpair, hmade⟩ := exists_of_mem_mapM hsteps hstep
    obtain ⟨hsource, htarget⟩ := Registry.along_of_copyPairs hpairs pair hpair
    obtain ⟨getter, hgetter, hmade⟩ := exists_of_bind_eq_ok hmade
    obtain ⟨setter, hsetter, hmade⟩ := exists_of_bind_eq_ok hmade
    cases hmade
    exact ⟨hP.invoker .getter hsource hgetter, hP.invoker .setter htarget hsetter⟩

/-- Two things that are said of items can be said at once. -/
lemma Category.Built.and {P Q : (c : Category) → c.Item → Prop} (hP : Built reg P)
    (hQ : Built reg Q) : Built reg fun c x => P c x ∧ Q c x where
  invoker := fun sort _ _ _ hm hx => ⟨hP.invoker sort hm hx, hQ.invoker sort hm hx⟩
  elementReader := fun rank => ⟨hP.elementReader rank, hQ.elementReader rank⟩
  elementWriter := fun rank => ⟨hP.elementWriter rank, hQ.elementWriter rank⟩
  batchSetter := fun h =>
    ⟨hP.batchSetter fun s hs => (h s hs).1, hQ.batchSetter fun s hs => (h s hs).2⟩
  copier := fun h =>
    ⟨hP.copier fun step hstep => ⟨(h step hstep).1.1, (h step hstep).2.1⟩,
      hQ.copier fun step hstep => ⟨(h step hstep).1.2, (h step hstep).2.2⟩⟩

/-! ### Invokers without bodies -/

/-- The getter reads a place. -/
def Getter.Bodiless (g : Getter) : Prop := ∃ p, g.access = .place p

/-- The setter writes a place. -/
def Setter.Bodiless (s : Setter) : Prop := ∃ p, s.access = .place p

/-- The method reads a place or writes one. -/
inductive Method.Bodiless (m : Method) : Prop where
  | read {p : Place} (h : m.body = .read p)
  | write {p : Place} {storesValueType : Bool} (h : m.body = .write p storesValueType)

/-- No constructor does anything. -/
structure Construction.Bodiless (c : Construction) : Prop where
  inherited : ∀ script ∈ c.inherited, script.body = []
  body : c.body.body = []

/-- The invoker runs no native body but the empty one. -/
def Category.Bodiless : (c : Category) → c.Item → Prop
  | .lookups, _ => True
  | .getters, g => Getter.Bodiless g
  | .setters, s => Setter.Bodiless s
  | .constructors, c => Construction.Bodiless c
  | .methods, m => Method.Bodiless m
  | .indexReaders, x => ∃ rank, x = IndexReader.element rank
  | .indexWriters, x => ∃ rank, x = IndexWriter.element rank
  | .batchSetters, b => ∀ s ∈ BatchSetter.setters b, s.Bodiless
  | .copiers, c => ∀ step ∈ Copier.steps c, step.1.Bodiless ∧ step.2.Bodiless

/-! ### Making them -/

lemma Access.exists_place {access : Access} (h : ofAccessor reg m (.slot slot) = .ok access) :
    ∃ p, access = .place p := by
  obtain ⟨p, -, rfl⟩ := exists_of_map_eq_ok h
  exact ⟨p, rfl⟩

lemma Getter.bodiless {g : Getter} (hm : m.body.Bodiless) (h : ofMember reg target m = .ok g) :
    g.Bodiless := by
  obtain ⟨access, haccess, h⟩ := exists_of_bind_eq_ok h
  obtain ⟨receiver, -, h⟩ := exists_of_bind_eq_ok h
  cases h
  rw [accessOf] at haccess
  generalize m.body = body at hm haccess
  cases hm with
  | indexer => cases haccess
  | plain hm =>
    cases hm with
    | field slot readonly => exact Access.exists_place haccess
    | property getter setter =>
      cases getter with
      | none => cases haccess
      | some slot => exact Access.exists_place haccess
    | method slot => cases haccess
    | constructor => cases haccess

lemma Setter.bodiless {s : Setter} (hm : m.body.Bodiless) (h : ofMember reg target m = .ok s) :
    s.Bodiless := by
  obtain ⟨access, haccess, h⟩ := exists_of_bind_eq_ok h
  obtain ⟨receiver, -, h⟩ := exists_of_bind_eq_ok h
  cases h
  rw [accessOf] at haccess
  generalize m.body = body at hm haccess
  cases hm with
  | indexer => cases haccess
  | plain hm =>
    cases hm with
    | field slot readonly =>
      cases readonly with
      | false => exact Access.exists_place haccess
      | true => cases haccess
    | property getter setter =>
      cases setter with
      | none => cases haccess
      | some slot => exact Access.exists_place haccess
    | method slot => cases haccess
    | constructor => cases haccess

lemma Method.bodiless {x : Method} (hm : m.body.Bodiless) (h : ofMember reg target m = .ok x) :
    x.Bodiless := by
  rw [ofMember] at h
  generalize m.body = body at hm h
  cases hm with
  | indexer => cases h
  | plain hm =>
    cases hm with
    | method slot =>
      obtain ⟨body, hbody, h⟩ := exists_of_bind_eq_ok h
      obtain ⟨receiver, -, h⟩ := exists_of_bind_eq_ok h
      cases h
      obtain ⟨place, -, hbody⟩ := exists_of_bind_eq_ok hbody
      split at hbody
      · cases hbody
        exact .read rfl
      · cases hbody
        exact .write rfl
    | _ => cases h

namespace Construction

/-- No constructor of an ancestor that takes nothing has a body. -/
def PlainAbove (reg : Registry) (owner : Descriptor) : Prop :=
  ∀ a ∈ owner.ancestors, ∀ d, reg.get? a = some d → ∀ m ∈ d.members,
    m.kind = .constructor → m.params = [] → m.body.Bodiless

lemma inherited_bodiless {owner : Descriptor} {scripts : List BoundScript}
    (habove : PlainAbove reg owner) (h : inheritedScripts reg owner = .ok scripts) :
    ∀ script ∈ scripts, script.body = [] := by
  intro script hscript
  obtain ⟨found, hfound, h⟩ := exists_of_bind_eq_ok h
  cases h
  obtain ⟨_, hmem, rfl⟩ := List.mem_filterMap.mp hscript
  obtain ⟨ancestor, ha, hancestor⟩ := exists_of_mem_mapM hfound hmem
  obtain ⟨d, hknown, hancestor⟩ := exists_of_bind_eq_ok hancestor
  obtain ⟨body, hbody, rfl⟩ := Option.map_eq_some_iff.mp (Except.ok.inj hancestor)
  -- the script is the body of the ancestor's constructor without parameters
  obtain ⟨m, hm, hmade⟩ := List.exists_of_findSome?_eq_some hbody
  have hbodiless := habove ancestor (List.mem_of_mem_drop (List.mem_reverse.mp ha)) d
    (Registry.known_eq_ok_iff.mp hknown) m hm
  rw [Member.kind] at hbodiless
  generalize m.body = implementation at hmade hbodiless
  cases implementation with
  | constructor b =>
    change (if m.params.isEmpty then some b else none) = some body at hmade
    split at hmade
    · rename_i hparams
      cases hmade
      cases hbodiless rfl (List.isEmpty_iff.mp hparams) with
      | plain hplain => cases hplain; rfl
    · cases hmade
  | _ => cases hmade

lemma bodiless {c : Construction}
    (habove : ∀ d, reg.get? m.declaring = some d → PlainAbove reg d) (hm : m.body.Bodiless)
    (h : ofMember reg m = .ok c) : c.Bodiless := by
  rw [ofMember] at h
  generalize m.body = body at hm h
  cases hm with
  | indexer => cases h
  | plain hm =>
    cases hm with
    | constructor =>
      obtain ⟨owner, howner, h⟩ := exists_of_bind_eq_ok h
      obtain ⟨scripts, hinherited, h⟩ := exists_of_bind_eq_ok h
      cases h
      have hplain := habove owner (Registry.known_eq_ok_iff.mp howner)
      exact ⟨inherited_bodiless hplain hinherited, rfl⟩
    | _ => cases h

end Construction

/-- No invoker of an indexer is made where no indexer has accessors. -/
lemma IndexReader.not_ofMember {x : IndexReader} (hm : m.body.Bodiless) :
    ofMember reg target m ≠ .ok x := by
  intro h
  rw [ofMember] at h
  generalize m.body = body at hm h
  cases hm with
  | indexer => cases h
  | plain hm => cases hm <;> cases h

lemma IndexWriter.not_ofMember {x : IndexWriter} (hm : m.body.Bodiless) :
    ofMember reg target m ≠ .ok x := by
  intro h
  rw [ofMember] at h
  generalize m.body = body at hm h
  cases hm with
  | indexer => cases h
  | plain hm => cases hm <;> cases h

/-- Where no known member has a body, no invoker that the binder makes has one. -/
lemma Registry.AllBodiless.built (hall : reg.AllBodiless) :
    Category.Built reg Category.Bodiless where
  invoker := by
    intro sort target m x hm hx
    have hbody : m.body.Bodiless := by
      obtain ⟨levels, hc, d, hd, hmem⟩ := hm
      obtain ⟨t, ht⟩ := hc.exists_get?_of_mem hd
      exact hall ht hmem
    cases sort with
    | getter => exact Getter.bodiless hbody hx
    | setter => exact Setter.bodiless hbody hx
    | method => exact Method.bodiless hbody hx
    | constructor =>
      exact Construction.bodiless (fun _ _ _ _ _ hd _ hm _ _ => hall hd hm) hbody hx
    | indexReader => exact absurd hx (IndexReader.not_ofMember hbody)
    | indexWriter => exact absurd hx (IndexWriter.not_ofMember hbody)
  elementReader := fun rank => ⟨rank, rfl⟩
  elementWriter := fun rank => ⟨rank, rfl⟩
  batchSetter := id
  copier := id

end LateBinding
