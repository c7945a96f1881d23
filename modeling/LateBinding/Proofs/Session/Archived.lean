import LateBinding.Proofs.Registry.Along
import LateBinding.Proofs.Registry.Consistent
import LateBinding.Proofs.Registry.Populated
import LateBinding.Proofs.Session.Asked

/-!
# Chains in reached sessions

Whatever has been unloaded and whatever the store is like by now, the types that are known lie over
their bases as they did when they were registered.

Main statements: `Reached.laidOut` and `Reached.grouped`.
-/

namespace LateBinding.Session

open Registry

variable {gone : List TypeId} {s : Session} {type : TypeId} {d : Descriptor} {m : Member}
  {farther levels : List Descriptor}

/-- A session can be reached along with the types that have ever been registered, which are in order
as if none had been unloaded. What the store is like beside its identifiers does not matter. -/
lemma Reached.exists_past (h : Reached gone s) :
    ∃ ever st, st.nextType = s.state.store.nextType ∧ Archive ever s.registry st ∧
      ever.Closed st.nextType ∧ ever.Ordered := by
  induction h with
  | start config =>
    exact ⟨.initial, {}, rfl, archive_initial, closed_initial _, ordered_initial⟩
  | @register gone s s' spec type _ hspec hs ih =>
    obtain ⟨ever, st, hnext, harchive, hclosed, hordered⟩ := ih
    obtain ⟨reg', st', hr, rfl⟩ := register_eq_ok hs
    -- the registration would have gone alike with the store of the past
    obtain ⟨store', hr', hnext'⟩ := register_congr hnext hr
    obtain ⟨rfl, hsucc, base, d, hreg⟩ := registered_of_register hr'
    have hd := (hreg.get? _).trans (if_pos rfl)
    obtain ⟨base', hbase, -, -, -, hlayout, -⟩ := Registry.register_eq_ok hr' hd
    have hever := harchive.registered hr' hd hbase
    have hspec : spec.Allocated st.nextType := hnext ▸ hspec
    refine ⟨ever.add d, store', hnext', harchive.register hr' hd, ?_, ?_⟩
    · exact hsucc ▸ hever.closed harchive.valid hclosed hspec
    · exact hordered.registered harchive.valid hspec hever (congrArg Descriptor.members hlayout)
  | unload _ hs ih =>
    obtain ⟨ever, st, hnext, harchive, hpast⟩ := ih
    obtain ⟨reg', hr, rfl⟩ := unload_eq_ok hs
    exact ⟨ever, st, hnext, harchive.unload hr, hpast⟩
  | @request gone s h r ih =>
    obtain ⟨ever, st, hnext, harchive, hpast⟩ := ih
    refine ⟨ever, st, hnext.trans (h.sound.nextType_run r).symm, ?_, hpast⟩
    rw [run_snd]
    exact harchive
  | @outside gone s h change hchange ih =>
    obtain ⟨ever, st, hnext, harchive, hclosed, hordered⟩ := ih
    have hle : st.nextType.code ≤ (change s.state.store).nextType.code := hnext ▸ hchange
    exact ⟨ever, { st with nextType := (change s.state.store).nextType }, rfl,
      ⟨harchive.valid.mono hle, harchive.known, harchive.laidOut, harchive.statics⟩,
      hclosed.mono hle, hordered⟩

lemma Reached.exists_archive (h : Reached gone s) :
    ∃ ever st, st.nextType = s.state.store.nextType ∧ Archive ever s.registry st := by
  obtain ⟨ever, st, hnext, harchive, -⟩ := h.exists_past
  exact ⟨ever, st, hnext, harchive⟩

/-- So what is known now was known among types of which none has been unloaded. -/
lemma Reached.exists_ever (h : Reached gone s) : ∃ (ever : Registry) (st : Store),
    ever.Settled st ∧ ∀ {t d}, s.registry.get? t = some d → ever.get? t = some d := by
  obtain ⟨ever, st, -, harchive, hclosed, hordered⟩ := h.exists_past
  exact ⟨ever, st, ⟨⟨harchive.valid, id, harchive.laidOut, harchive.statics⟩, hclosed, hordered⟩,
    harchive.known⟩

/-- The tables of the registry are consistent. -/
lemma Reached.consistent (h : Reached gone s) : s.registry.Consistent := by
  induction h with
  | start config => exact consistent_initial
  | register h hspec hs ih =>
    obtain ⟨reg', st', hr, rfl⟩ := register_eq_ok hs
    obtain ⟨rfl, -, base, d, hadmitted⟩ := admitted_of_register hr
    exact hadmitted.consistent h.sound.valid ih
  | unload _ hs ih =>
    obtain ⟨reg', hr, rfl⟩ := unload_eq_ok hs
    exact ih.unload hr
  | request h r ih =>
    rw [run_snd]
    exact ih
  | outside h change hchange ih => exact ih

/-- A chain that is known as a whole starts with the type and goes on with its ancestors, each of
which lies over the next. -/
lemma Reached.laidOut (h : Reached gone s) (hc : s.registry.Chain type levels) :
    ∃ d farther, s.registry.get? type = some d ∧ levels = d :: farther ∧ LaidOut levels := by
  obtain ⟨ever, st, -, harchive⟩ := h.exists_archive
  obtain ⟨d, hd, hancestors⟩ := id hc
  have hever : ever.Chain type levels := by
    refine ⟨d, harchive.known hd, ?_⟩
    rw [← hancestors]
    refine List.map_congr_left fun a ha => ?_
    obtain ⟨e, -, he⟩ := List.mem_map.mp (hancestors ▸ List.mem_map_of_mem ha)
    rw [← he, harchive.known he.symm]
  obtain ⟨e, farther, he, rfl, hlaid⟩ := harchive.laidOut_of_chain hever
  exact ⟨e, farther, (harchive.known hd).symm.trans he ▸ hd, rfl, hlaid⟩

/-- In a known type, what goes to a slot without being a field came with an automatic property. -/
lemma Reached.grouped (h : Reached gone s) (hd : s.registry.get? type = some d) :
    Grouped d.members := by
  obtain ⟨ever, st, -, harchive⟩ := h.exists_archive
  obtain ⟨farther, -, hlaid⟩ := harchive.laidOut (harchive.known hd)
  cases hlaid with
  | root hroot =>
    rw [hroot.members]
    exact fun _ hm => absurd hm List.not_mem_nil
  | derived _ hextends =>
    obtain ⟨_, hover⟩ := hextends.laid
    exact hover.grouped

end LateBinding.Session
