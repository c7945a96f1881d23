import LateBinding.Proofs.Invoker.Frame
import LateBinding.Proofs.Lookup.Below
import LateBinding.Proofs.Run.Invokers

/-!
# Jobs

A job is anything that an invoker can be made for. What is made for a job over identifiers that have
been handed out is settled by what is known of them. The types that own the places of a new invoker
are known, so that in any registry that knows the same of them the invoker does the same.

Main statements: `Category.relates` and `Job.make_eq`.
-/

namespace LateBinding

open Run

/-! ### What invokers do -/

/-- What the invoker does in one context is related to what it does in another one, for every
receiver, argument list and value. -/
def Category.Relates (rel : ∀ {α : Type}, Run α → Run α → Prop) (ctx₁ ctx₂ : Context) :
    (c : Category) → c.Item → Prop
  | lookups, _ => True
  | getters, g => ∀ receiver,
      rel (Getter.run ctx₁ g receiver) (Getter.run ctx₂ g receiver)
  | setters, s => ∀ receiver new,
      rel (Setter.run ctx₁ s receiver new) (Setter.run ctx₂ s receiver new)
  | constructors, c => ∀ arguments,
      rel (Construction.run ctx₁ c arguments) (Construction.run ctx₂ c arguments)
  | methods, m => ∀ receiver arguments,
      rel (Method.run ctx₁ m receiver arguments) (Method.run ctx₂ m receiver arguments)
  | indexReaders, x => ∀ receiver indices,
      rel (IndexReader.run ctx₁ x receiver indices) (IndexReader.run ctx₂ x receiver indices)
  | indexWriters, x => ∀ receiver indices new,
      rel (IndexWriter.run ctx₁ x receiver indices new)
        (IndexWriter.run ctx₂ x receiver indices new)
  | batchSetters, b => ∀ receiver values,
      rel (BatchSetter.run ctx₁ b receiver values) (BatchSetter.run ctx₂ b receiver values)
  | copiers, c => ∀ source target,
      rel (Copier.run ctx₁ c source target) (Copier.run ctx₂ c source target)

/-- The types that must still exist for the invoker to be used. -/
def Category.owners : (c : Category) → c.Item → List TypeId
  | lookups, _ => []
  | getters, g => Getter.owners g
  | setters, s => Setter.owners s
  | constructors, c => Construction.owners c
  | methods, m => Method.owners m
  | indexReaders, x => IndexReader.owners x
  | indexWriters, x => IndexWriter.owners x
  | batchSetters, b => BatchSetter.owners b
  | copiers, c => Copier.owners c

/-- In contexts in step every invoker goes in step with itself. -/
lemma Category.relates {P : TypeId → Prop} {R : Bond} {ctx₁ ctx₂ : Context}
    (h : Context.InStep P R ctx₁ ctx₂) (c : Category) (x : c.Item) (hx : ∀ t ∈ c.owners x, P t) :
    c.Relates (Run.InStep R fun _ => True) ctx₁ ctx₂ x := by
  cases c with
  | lookups => trivial
  | getters => exact Getter.run_inStep h x hx
  | setters => exact Setter.run_inStep h x hx
  | constructors => exact Construction.run_inStep h x hx
  | methods => exact Method.run_inStep h x hx
  | indexReaders => exact IndexReader.run_inStep h x hx
  | indexWriters => exact IndexWriter.run_inStep h x hx
  | batchSetters => exact BatchSetter.run_inStep h x hx
  | copiers => exact Copier.run_inStep h x hx

/-! ### Owners of new invokers -/

section Owners

variable {reg : Registry} {next target t : TypeId} {m : Member} (hv : reg.Valid next)
include hv

lemma BoundScript.known_declaring {body : Script} {s : BoundScript}
    (h : ofMember reg m body = .ok s) : ∃ d, reg.get? s.declaring.id = some d := by
  obtain ⟨d, hd, h⟩ := exists_of_bind_eq_ok h
  cases h
  rw [Registry.known_eq_ok_iff] at hd
  exact ⟨d, (hv.id hd).symm ▸ hd⟩

lemma Place.known_owners {slot : Nat} {p : Place} (h : ofSlot reg m slot = .ok p)
    (ht : t ∈ p.owners) : ∃ d, reg.get? t = some d := by
  rw [ofSlot] at h
  split at h
  · obtain ⟨d, hd, h⟩ := exists_of_bind_eq_ok h
    cases h
    rw [Registry.known_eq_ok_iff] at hd
    obtain rfl := List.mem_singleton.mp ht
    exact ⟨d, (hv.id hd).symm ▸ hd⟩
  · cases h
    cases ht

lemma Access.known_owners {accessor : Accessor} {a : Access}
    (h : ofAccessor reg m accessor = .ok a) (ht : t ∈ a.owners) : ∃ d, reg.get? t = some d := by
  cases accessor with
  | slot index =>
    obtain ⟨p, hp, rfl⟩ := exists_of_map_eq_ok h
    exact p.known_owners hv hp ht
  | native body =>
    obtain ⟨s, hs, rfl⟩ := exists_of_map_eq_ok h
    obtain rfl := List.mem_singleton.mp ht
    exact s.known_declaring hv hs

lemma Getter.known_owners {g : Getter} (h : ofMember reg target m = .ok g) (ht : t ∈ g.owners) :
    ∃ d, reg.get? t = some d := by
  obtain ⟨access, haccess, h⟩ := exists_of_bind_eq_ok h
  obtain ⟨guard, -, h⟩ := exists_of_bind_eq_ok h
  cases h
  rw [accessOf] at haccess
  split at haccess
  · exact Access.known_owners hv haccess ht
  · exact Access.known_owners hv haccess ht
  · cases haccess
  · cases haccess

lemma Setter.known_owners {s : Setter} (h : ofMember reg target m = .ok s) (ht : t ∈ s.owners) :
    ∃ d, reg.get? t = some d := by
  obtain ⟨access, haccess, h⟩ := exists_of_bind_eq_ok h
  obtain ⟨guard, -, h⟩ := exists_of_bind_eq_ok h
  cases h
  rw [accessOf] at haccess
  split at haccess
  · split at haccess
    · cases haccess
    · exact Access.known_owners hv haccess ht
  · exact Access.known_owners hv haccess ht
  · cases haccess
  · cases haccess

lemma Method.known_owners {f : Method} (h : ofMember reg target m = .ok f) (ht : t ∈ f.owners) :
    ∃ d, reg.get? t = some d := by
  rw [ofMember] at h
  split at h
  · rename_i accessor _
    obtain ⟨body, hbody, h⟩ := exists_of_bind_eq_ok h
    obtain ⟨guard, -, h⟩ := exists_of_bind_eq_ok h
    cases h
    cases accessor with
    | slot index =>
      obtain ⟨p, hp, hbody⟩ := exists_of_bind_eq_ok hbody
      split at hbody <;> cases hbody <;> exact p.known_owners hv hp ht
    | native script =>
      obtain ⟨s, hs, rfl⟩ := exists_of_map_eq_ok hbody
      obtain rfl := List.mem_singleton.mp ht
      exact s.known_declaring hv hs
  · cases h

lemma Construction.known_owners {c : Construction} (h : ofMember reg m = .ok c)
    (ht : t ∈ c.owners) : ∃ d, reg.get? t = some d := by
  rw [ofMember] at h
  split at h
  · obtain ⟨owner, howner, h⟩ := exists_of_bind_eq_ok h
    obtain ⟨scripts, hscripts, h⟩ := exists_of_bind_eq_ok h
    cases h
    rw [Registry.known_eq_ok_iff] at howner
    rcases List.mem_cons.mp ht with rfl | ht
    · exact ⟨owner, (hv.id howner).symm ▸ howner⟩
    obtain ⟨script, hscript, rfl⟩ := List.mem_map.mp ht
    obtain ⟨found, hfound, hscripts⟩ := exists_of_bind_eq_ok hscripts
    cases hscripts
    obtain ⟨o, ho, hscript⟩ := List.mem_filterMap.mp hscript
    obtain ⟨a, -, hmade⟩ := exists_of_mem_mapM hfound ho
    obtain ⟨d, hd, hmade⟩ := exists_of_bind_eq_ok hmade
    cases hmade
    obtain ⟨body, -, rfl⟩ := Option.map_eq_some_iff.mp hscript
    rw [Registry.known_eq_ok_iff] at hd
    exact ⟨d, (hv.id hd).symm ▸ hd⟩
  · cases h

lemma IndexReader.known_owners {x : IndexReader} (h : ofMember reg target m = .ok x)
    (ht : t ∈ x.owners) : ∃ d, reg.get? t = some d := by
  rw [ofMember] at h
  split at h
  · obtain ⟨s, hs, h⟩ := exists_of_bind_eq_ok h
    obtain ⟨guard, -, h⟩ := exists_of_bind_eq_ok h
    cases h
    obtain rfl := List.mem_singleton.mp ht
    exact s.known_declaring hv hs
  · cases h
  · cases h

lemma IndexWriter.known_owners {x : IndexWriter} (h : ofMember reg target m = .ok x)
    (ht : t ∈ x.owners) : ∃ d, reg.get? t = some d := by
  rw [ofMember] at h
  split at h
  · obtain ⟨s, hs, h⟩ := exists_of_bind_eq_ok h
    obtain ⟨guard, -, h⟩ := exists_of_bind_eq_ok h
    cases h
    obtain rfl := List.mem_singleton.mp ht
    exact s.known_declaring hv hs
  · cases h
  · cases h

lemma InvokerSort.known_owners (sort : InvokerSort) {x : sort.Item}
    (h : sort.compile reg target m = .ok x) (ht : t ∈ sort.category.owners x) :
    ∃ d, reg.get? t = some d := by
  cases sort with
  | getter => exact Getter.known_owners hv h ht
  | setter => exact Setter.known_owners hv h ht
  | method => exact Method.known_owners hv h ht
  | constructor => exact Construction.known_owners hv h ht
  | indexReader => exact IndexReader.known_owners hv h ht
  | indexWriter => exact IndexWriter.known_owners hv h ht

end Owners

/-! ### Jobs -/

/-- What an invoker can be made for. -/
inductive Job : Category → Type where
  | member (sort : InvokerSort) (target : TypeId) (m : Member) : Job sort.category
  | elementReader (rank : Nat) : Job .indexReaders
  | elementWriter (rank : Nat) : Job .indexWriters
  | members (target : TypeId) (ms : List Member) : Job .batchSetters
  | pairs (source target : TypeId) (pairs : List (Member × Member)) : Job .copiers

namespace Job

variable {c : Category} {reg reg' : Registry} {next : TypeId}

/-- The invoker that is made for a job. -/
def make (reg : Registry) : {c : Category} → Job c → Except Fault c.Item
  | _, member sort target m => sort.compile reg target m
  | _, elementReader rank => .ok (.element rank)
  | _, elementWriter rank => .ok (.element rank)
  | _, members target ms => BatchSetter.ofMembers reg target ms
  | _, pairs source target ps => Copier.ofPairs reg source target ps

/-- The job names only types below an identifier. -/
def Below (next : TypeId) : {c : Category} → Job c → Prop
  | _, member _ target m => target.code < next.code ∧ m.Below next
  | _, elementReader _ => True
  | _, elementWriter _ => True
  | _, members target ms => target.code < next.code ∧ ∀ m ∈ ms, m.Below next
  | _, pairs source target ps => source.code < next.code ∧ target.code < next.code ∧
      ∀ pair ∈ ps, pair.1.Below next ∧ pair.2.Below next

/-- The types that own the places of a new invoker are known. -/
lemma known_owners (hv : reg.Valid next) (job : Job c) {x : c.Item} (h : job.make reg = .ok x)
    {t : TypeId} (ht : t ∈ c.owners x) : ∃ d, reg.get? t = some d := by
  cases job with
  | member sort target m => exact sort.known_owners hv h ht
  | elementReader rank =>
    cases h
    cases ht
  | elementWriter rank =>
    cases h
    cases ht
  | members target ms =>
    obtain ⟨setters, hsetters, rfl⟩ := exists_of_map_eq_ok h
    obtain ⟨s, hs, ht⟩ := List.mem_flatMap.mp ht
    obtain ⟨m, -, hmade⟩ := exists_of_mem_mapM hsetters hs
    exact Setter.known_owners hv hmade ht
  | pairs source target ps =>
    obtain ⟨steps, hsteps, rfl⟩ := exists_of_map_eq_ok h
    obtain ⟨step, hstep, ht⟩ := List.mem_flatMap.mp ht
    obtain ⟨pair, -, hmade⟩ := exists_of_mem_mapM hsteps hstep
    obtain ⟨getter, hgetter, hmade⟩ := exists_of_bind_eq_ok hmade
    obtain ⟨setter, hsetter, hmade⟩ := exists_of_bind_eq_ok hmade
    cases hmade
    -- a step of a copier reads from one owner and writes to another
    rcases List.mem_append.mp ht with ht | ht
    · exact Getter.known_owners hv hgetter ht
    · exact Setter.known_owners hv hsetter ht

section SameBelow

variable (h : Registry.SameBelow next reg reg') (hv : reg.Valid next)
include h hv

/-- What is made for a job follows from what is known of the types that it names. -/
theorem make_eq (job : Job c) (hjob : job.Below next) : job.make reg' = job.make reg := by
  cases job with
  | member sort target m => exact sort.compile_eq_of_below h hv hjob.1 hjob.2
  | elementReader rank => rfl
  | elementWriter rank => rfl
  | members target ms =>
    have hmap : ms.mapM (Setter.ofMember reg' target) = ms.mapM (Setter.ofMember reg target) :=
      mapM_congr fun m hm => InvokerSort.compile_eq_of_below .setter h hv hjob.1 (hjob.2 m hm)
    exact congrArg (BatchSetter.mk <$> ·) hmap
  | pairs source target ps =>
    have hmap : ps.mapM (Copier.step reg' source target) =
        ps.mapM (Copier.step reg source target) := by
      refine mapM_congr fun pair hpair => ?_
      obtain ⟨hsource, htarget⟩ := hjob.2.2 pair hpair
      have hgetter : Getter.ofMember reg' source pair.1 = Getter.ofMember reg source pair.1 :=
        InvokerSort.compile_eq_of_below .getter h hv hjob.1 hsource
      have hsetter : Setter.ofMember reg' target pair.2 = Setter.ofMember reg target pair.2 :=
        InvokerSort.compile_eq_of_below .setter h hv hjob.2.1 htarget
      rw [Copier.step, Copier.step, hgetter, hsetter]
    exact congrArg (Copier.mk <$> ·) hmap

end SameBelow

end Job

end LateBinding
