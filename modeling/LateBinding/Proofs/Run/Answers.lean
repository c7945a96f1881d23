import LateBinding.Proofs.Lookup.Copying
import LateBinding.Proofs.Run.Remembered

/-!
# Remembered answers

As long as nothing is unloaded, whatever is remembered beside lookups was made for a question that
the binder can still ask, and the same would be made for this question now.
-/

namespace LateBinding

open Run

variable {reg reg' : Registry} {config : Config} {next : TypeId} {cs cs' : Caches}
  {c : Category} {key : c.Key} {make : Unit → Except Fault c.Item}

/-- Everything that is remembered beside lookups is the answer to a question of the binder. -/
def AnswersSound (reg : Registry) (config : Config) (cs : Caches) : Prop :=
  ∀ (c : Category) (key : c.Key) (held : Stamped c.Item), c ≠ .lookups →
    (cs.memo c).get? key = some held →
      ∃ make, Fetches reg config c key make ∧ make () = .ok held.value

/-! ### Later registrations -/

section Registered

variable {spec : TypeSpec} {base d : Descriptor} (hv : reg.Valid next) (hc : reg.Closed next)
  (hr : reg.Registered spec next base d reg')
include hv hc hr

/-- Registering a type leaves every question and its answer as they are. -/
lemma Fetches.registered {x : c.Item} (h : Fetches reg config c key make)
    (hx : make () = .ok x) : ∃ make', Fetches reg' config c key make' ∧ make' () = .ok x := by
  cases h with
  | invoker sort h =>
    have hserves : sort.Serves reg' config [] _ x _ := (h.serves hx).registered hv hc hr
    have hmade := hserves.made
    rw [hserves.current (by simp)] at hmade
    exact ⟨_, .invoker sort hserves.found, hmade⟩
  | elementReader rank => exact ⟨_, .elementReader rank, hx⟩
  | elementWriter rank => exact ⟨_, .elementWriter rank, hx⟩
  | @batchSetter type flags names ms h =>
    have hms : reg'.findEach type flags names = .ok ms :=
      mapM_of_forall h fun name _ m hm => hr.find_eq hv (by trivial) hm
    obtain ⟨setters, hsetters, rfl⟩ := exists_of_map_eq_ok hx
    have hmade : ms.mapM (Setter.ofMember reg' type) = .ok setters := by
      refine mapM_of_forall hsetters fun m hm s hs => ?_
      obtain ⟨name, -, hfind⟩ := exists_of_mem_mapM h hm
      obtain ⟨levels, e, he, -⟩ := Registry.exists_chain_of_find hfind
      have hsame := InvokerSort.compile_registered .setter hv hc hr ⟨e, he⟩
        (hv.declares_of_find hfind)
      exact hsame.trans hs
    refine ⟨_, .batchSetter hms, ?_⟩
    rw [BatchSetter.ofMembers, hmade]
    rfl
  | @copier source target o pairs h =>
    obtain ⟨steps, hsteps, rfl⟩ := exists_of_map_eq_ok hx
    obtain ⟨all, found, hall, hfound, -⟩ := Registry.exists_of_copyPairs h
    obtain ⟨_, ds, hds, -⟩ := Registry.exists_chain_of_findAll hall
    obtain ⟨_, dt, hdt, -⟩ := Registry.exists_chain_of_findAll hfound
    have hmade : pairs.mapM (Copier.step reg' source target) = .ok steps := by
      refine mapM_of_forall hsteps fun pair hpair step hstep => ?_
      obtain ⟨hs, ht⟩ := Registry.along_of_copyPairs h pair hpair
      have hgetter : Getter.ofMember reg' source pair.1 = Getter.ofMember reg source pair.1 :=
        InvokerSort.compile_registered .getter hv hc hr ⟨ds, hds⟩ (hs.declares hv)
      have hsetter : Setter.ofMember reg' target pair.2 = Setter.ofMember reg target pair.2 :=
        InvokerSort.compile_registered .setter hv hc hr ⟨dt, hdt⟩ (ht.declares hv)
      rw [← hstep, Copier.step, Copier.step, hgetter, hsetter]
    refine ⟨_, .copier (hr.copyPairs_eq hv h), ?_⟩
    rw [Copier.ofPairs, hmade]
    rfl

lemma AnswersSound.registered (h : AnswersSound reg config cs) : AnswersSound reg' config cs := by
  intro c key held hne hk
  obtain ⟨make, hmake, hmade⟩ := h c key held hne hk
  exact hmake.registered hv hc hr hmade

end Registered

/-! ### Requests -/

lemma AnswersSound.congr (h : AnswersSound reg config cs)
    (hmemo : ∀ {c}, c ≠ .lookups → cs'.memo c = cs.memo c) : AnswersSound reg config cs' :=
  Caches.All.congr (Q := fun c key x => ∃ make, Fetches reg config c key make ∧ make () = .ok x)
    h hmemo

/-- What is remembered stays sound when an invoker is asked for. -/
lemma AnswersSound.fetch {s s' : State} (h : AnswersSound reg config s.caches)
    (hf : Fetches reg config c key make) (hg : Run.Grown c key (make ()) s s') :
    AnswersSound reg config s'.caches :=
  Caches.All.fetch (Q := fun c key x => ∃ make, Fetches reg config c key make ∧ make () = .ok x)
    h hg fun _ hx => ⟨make, hf, hx⟩

/-- Nothing has been unloaded, and all that is remembered is sound. -/
structure Faithful (reg : Registry) (config : Config) (next : TypeId) (s : State) : Prop
    extends CachesSound reg config [] next s where
  answers : AnswersSound reg config s.caches

lemma kept_faithful (reg : Registry) (config : Config) (next : TypeId) :
    Kept reg config (Faithful reg config next) := by
  refine (kept_beside next
    (P := fun cs => InvokersSound reg config [] cs ∧ AnswersSound reg config cs)
    (fun hmemo h => ⟨h.1.congr hmemo, h.2.congr hmemo⟩)
    (fun hf hg h => ⟨h.1.fetch hf hg, h.2.fetch hf hg⟩)).congr fun s => ?_
  exact ⟨fun h => ⟨h.next, h.lookups, h.invokers, h.answers⟩,
    fun h => ⟨⟨h.1, h.2.1, h.2.2.1⟩, h.2.2.2⟩⟩

end LateBinding
