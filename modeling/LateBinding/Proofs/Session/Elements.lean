import LateBinding.Proofs.Run.Beside
import LateBinding.Proofs.Session.Order
import LateBinding.Proofs.Store.Elements

/-!
# Array elements in a session

One accessor is remembered for all arrays of a rank, and nothing about any one of them is in it. So
whatever has been asked before, an element is written if the indices denote one and the value fits;
it is then read as it has been stored, and nothing else has changed. If something is wrong, nothing
at all has changed and the first thing that is wrong is told.

Main statement: `elements_obey`.
-/

namespace LateBinding

open Run

/-! ### What is remembered about no member -/

/-- Whatever is remembered about a topic that is about no member is its invoker. -/
def Caches.Common (cs : Caches) : Prop :=
  ∀ (x : Topic) (i j : x.1.Item), x.common? = some i → cs.about x = some j → j = i

namespace Caches.Common

variable {cs cs' : Caches} {reg : Registry} {config : Config} {next : TypeId}

lemma empty : Common {} := by
  rintro ⟨c, k⟩ i j - h
  cases c <;> cases h

lemma clear (cs : Caches) : cs.clear.Common := by
  rintro ⟨c, k⟩ i j - h
  cases c <;> cases h

lemma purge (h : cs.Common) (types : List TypeId) : (cs.purge types).2.Common :=
  fun x i j hx hj => h x i j hx (about_of_about_purge hj).1

/-- What is answered to a question about no member is its invoker. -/
lemma answer_eq (h : cs.Common) {x : Topic} {i : x.1.Item} (hx : x.common? = some i)
    {make : Unit → Except Fault x.1.Item} (hmake : make () = .ok i) : cs.answer x make = .ok i := by
  cases hj : cs.about x with
  | none => exact (answer_of_none hj make).trans hmake
  | some j => rw [answer_of_some hj, h x i j hx hj]

/-- What has been answered to such a question is remembered from now on. -/
lemma updated (h : cs.Common) {x : Topic} {i : x.1.Item} (hx : x.common? = some i)
    (hcs : cs.Updated x (some i) cs') : cs'.Common := by
  intro y k j hy hj
  by_cases hyx : y = x
  · subst hyx
    have hk : k = i := Option.some.inj (hy.symm.trans hx)
    have hj : j = i := Option.some.inj (hj.symm.trans hcs.self)
    rw [hj, hk]
  · exact h y k j hy (hcs.other y hyx ▸ hj)

/-- A request keeps it so. -/
lemma kept (hv : reg.Valid next) (config : Config) :
    Kept reg config fun s =>
      s.store.nextType = next ∧ LookupsSound reg s.caches ∧ s.caches.Common := by
  refine kept_beside next (fun hmemo h => ?_) fun {s s' c key make} hf hg h => ?_
  · -- nothing about elements is in the memo of the lookups
    rintro ⟨c, k⟩ i j hx hj
    by_cases hc : c = .lookups
    · subst hc
      cases hx
    · rw [about, hmemo hc] at hj
      exact h _ i j hx hj
  · -- what is new under a common key is the invoker that all make for it
    rintro ⟨d, k⟩ i j hx hj
    rw [about] at hj
    obtain ⟨held, hheld, rfl⟩ := Option.map_eq_some_iff.mp hj
    by_cases hd : d = c
    · subst hd
      rcases hg.new hheld with hold | ⟨rfl, hmade⟩
      · exact h _ i _ hx (by rw [about, hold]; rfl)
      · cases hf.asked hv with
        | common hcommon hmake =>
          obtain rfl := Option.some.inj (hcommon.symm.trans hx)
          exact Except.ok.inj (hmade.symm.trans hmake)
        | owned howned => cases howned.uncommon.symm.trans hx
    · rw [hg.memo hd] at hheld
      exact h _ i _ hx (by rw [about, hheld]; rfl)

end Caches.Common

/-- Who asks about no member goes on with the invoker of the topic. -/
lemma Run.fetch_common {s : State} (h : s.caches.Common) {c : Category} {key : c.Key} {i : c.Item}
    (hx : Topic.common? ⟨c, key⟩ = some i) (make : Unit → Except Fault c.Item)
    (hmake : make () = .ok i) :
    ∃ s' : State, s'.store = s.store ∧ s'.caches.Common ∧ ∀ {α : Type} (f : c.Item → Run α),
      (Run.fetch c key make >>= fun held => f held.value) s = f i s' := by
  obtain ⟨s', hstore, hcs, hbind⟩ := fetch_bind c key make s
  rw [h.answer_eq hx hmake] at hcs hbind
  exact ⟨s', hstore, h.updated hx hcs, fun f => hbind f⟩

/-! ### Reading and writing -/

section Requests

variable {s : State}

lemma Run.ofExcept_bind_ask {α β : Type} (x : Except Fault α)
    (question : α → Store → Except Fault β) (s : State) :
    (Run.ofExcept x >>= fun a => Run.ask (question a)) s =
      Run.ofExcept (x >>= fun a => question a s.store) s := by
  cases x <;> rfl

lemma Run.ofExcept_bind_change {α : Type} (x : Except Fault α) {f : α → Run Unit}
    {update : α → Store → Except Fault Store} (h : ∀ a, f a = Run.change (update a)) (s : State) :
    (Run.ofExcept x >>= f) s = Run.change (fun st => x >>= fun a => update a st) s := by
  cases x with
  | error e => rfl
  | ok a => exact congrFun (h a) s

/-- An element is read through the accessor of the rank, and nothing but the caches changes. -/
lemma Binder.getAt_array (b : Binder) (h : s.caches.Common) (shape : ArrayShape) (r : Ref)
    (indices : List Value) :
    ∃ s' : State, s'.store = s.store ∧ s'.caches.Common ∧
      b.getAt (.array shape r) indices s =
        Run.ofExcept (s.store.elementAt shape r indices) s' := by
  have hcommon : Topic.common? ⟨.indexReaders, .ofRank shape.rank⟩ =
      some (.element shape.rank) := by simp [Topic.common?, CallKey.ofRank]
  obtain ⟨s', hstore, hcs, hbind⟩ := fetch_common h hcommon (fun _ => pure _) rfl
  refine ⟨s', hstore, hcs, (hbind fun x => x.run b.toContext (.array shape r) indices).trans ?_⟩
  rw [← hstore, IndexReader.run]
  exact ofExcept_bind_ask _ (fun (place : ArrayShape × Ref × Nat) (st : Store) =>
    st.readElement place.2.1 place.2.2) s'

/-- An element is written through the accessor of the rank. -/
lemma Binder.setAt_array (b : Binder) (h : s.caches.Common) (shape : ArrayShape) (r : Ref)
    (indices : List Value) (new : Value) :
    ∃ s' : State, s'.store = s.store ∧ s'.caches.Common ∧
      b.setAt (.array shape r) indices new s =
        Run.change (fun st => st.putElement shape r indices new) s' := by
  have hcommon : Topic.common? ⟨.indexWriters, .ofRank shape.rank⟩ =
      some (.element shape.rank) := by simp [Topic.common?, CallKey.ofRank]
  obtain ⟨s', hstore, hcs, hbind⟩ := fetch_common h hcommon (fun _ => pure _) rfl
  refine ⟨s', hstore, hcs,
    (hbind fun x => x.run b.toContext (.array shape r) indices new).trans ?_⟩
  refine ofExcept_bind_change _ (fun place => ?_) s'
  obtain ⟨shape, r, offset⟩ := place
  cases hnew : new.isAssignableTo shape.element shape.elementIsValueType <;>
    (simp only [hnew]; rfl)

end Requests

namespace Session

variable {s s' : Session} {shape : ArrayShape} {r : Ref}

/-! ### What sessions remember about no member -/

lemma Orderly.common_request (h : Orderly s) (hcs : s.state.caches.Common) (r : Request) :
    (s.run fun b => r.perform b).2.state.caches.Common := by
  have hkept := Caches.Common.kept h.valid s.config
  rw [run_snd]
  exact (hkept.scripted ((hkept.accord _).perform r) ⟨rfl, h.lookups, hcs⟩).2.2

lemma Visited.common (h : Visited s) : s.state.caches.Common := by
  induction h with
  | start config => exact .empty
  | purge _ types ih => exact ih.purge types
  | clear _ _ => exact .clear _
  | @step s h x ih =>
    have htakes := takes_step s x
    generalize s.step x = result at htakes
    cases htakes with
    | @unloaded type registry _ _ hu hpurge =>
      have hcommon := ih.purge (registry.descendants type ++ [type])
      rwa [hpurge] at hcommon
    | request r => exact h.orderly.common_request ih r
    | _ => exact ih

/-! ### Elements -/

lemma run_getAt_array (h : s.state.caches.Common) (shape : ArrayShape) (r : Ref)
    (indices : List Value) :
    (s.run fun b => b.getAt (.array shape r) indices).1 =
        s.state.store.elementAt shape r indices ∧
      (s.run fun b => b.getAt (.array shape r) indices).2.state.store = s.state.store := by
  obtain ⟨s', hstore, -, heq⟩ := s.binder.getAt_array h shape r indices
  rw [run_fst, run_snd, heq]
  cases s.state.store.elementAt shape r indices <;> exact ⟨rfl, hstore⟩

lemma run_setAt_array (h : s.state.caches.Common) (shape : ArrayShape) (r : Ref)
    (indices : List Value) (new : Value) :
    (s.run fun b => b.setAt (.array shape r) indices new).2.state.caches.Common ∧
      match s.state.store.putElement shape r indices new with
      | .ok st => (s.run fun b => b.setAt (.array shape r) indices new).1 = .ok () ∧
          (s.run fun b => b.setAt (.array shape r) indices new).2.state.store = st
      | .error e => (s.run fun b => b.setAt (.array shape r) indices new).1 = .error e ∧
          (s.run fun b => b.setAt (.array shape r) indices new).2.state.store =
            s.state.store := by
  obtain ⟨s', hstore, hcs, heq⟩ := s.binder.setAt_array h shape r indices new
  rw [run_fst, run_snd, heq, Run.change, hstore]
  cases s.state.store.putElement shape r indices new with
  | ok st => exact ⟨hcs, rfl, rfl⟩
  | error e => exact ⟨hcs, rfl, hstore⟩

/-- What the session answers when it is asked for an element of an array. -/
def elementOf (s : Session) (shape : ArrayShape) (r : Ref) (indices : List Value) :
    Except Fault Value :=
  (s.run fun b => b.getAt (.array shape r) indices).1

/-- From the first session to the second one an element of an array has been written: it is read as
it has been stored, and all other elements of this and of any other array are read as before. -/
structure ElementStored (s t : Session) (shape : ArrayShape) (r : Ref) (indices : List Value)
    (new : Value) : Prop where
  self : t.elementOf shape r indices =
    .ok (s.state.store.toStored shape.elementIsValueType new)
  others : ∀ is, shape.Admits is → is ≠ indices → t.elementOf shape r is = s.elementOf shape r is
  arrays : ∀ shape' q is, q ≠ r → t.elementOf shape' q is = s.elementOf shape' q is
  /-- Nothing else in the store has changed. -/
  rest : ∃ slots, t.state.store = s.state.store.setCell r slots

lemma elementOf_eq (h : s.state.caches.Common) (shape : ArrayShape) (r : Ref)
    (indices : List Value) :
    s.elementOf shape r indices = s.state.store.elementAt shape r indices :=
  (run_getAt_array h shape r indices).1

lemma elementStored_of_run {indices : List Value} {new : Value} {is : List Int64}
    (hs : s.state.caches.Common) (hs' : s'.state.caches.Common)
    (ha : s.state.store.HoldsArray shape r) (his : shape.Denotes indices is)
    (hstore : s'.state.store = s.state.store.setCell r ((s.state.store.cell r).set
      (ArrayShape.position shape.dims is)
      (s.state.store.toStored shape.elementIsValueType new))) :
    s.ElementStored s' shape r indices new where
  self := by
    rw [elementOf_eq hs', hstore, Store.elementAt_set_self ha his]
  others := fun js hjs hne => by
    rw [elementOf_eq hs', elementOf_eq hs, hstore, Store.elementAt_set_of_ne ha his hjs hne]
  arrays := fun shape' q js hq => by
    rw [elementOf_eq hs', elementOf_eq hs, hstore, Store.elementAt_setCell_of_ne hq]
  rest := ⟨_, hstore⟩

/-- An element is read exactly if the indices denote one, and written exactly if moreover the value
fits. It is then read as it has been stored, and all other elements are read as before. Otherwise
the first thing that is wrong is told and nothing has changed. -/
theorem elements_obey (h : Visited s) (ha : s.state.store.HoldsArray shape r) (indices : List Value)
    (new : Value) :
    ((∃ v, s.elementOf shape r indices = .ok v) ↔ shape.Admits indices) ∧
    (∀ e, s.elementOf shape r indices = .error e ↔ shape.Misses indices e) ∧
    ∃ answer t, s.run (fun b => b.setAt (.array shape r) indices new) = (answer, t) ∧
      (answer = .ok () ↔ shape.Admits indices ∧
        new.isAssignableTo shape.element shape.elementIsValueType = true) ∧
      (∀ e, answer = .error e ↔ shape.Refuses indices new e) ∧
      (answer = .ok () → s.ElementStored t shape r indices new) ∧
      (answer ≠ .ok () → t.state.store = s.state.store) := by
  have hcs := h.common
  obtain ⟨hcs', hrun⟩ := run_setAt_array hcs shape r indices new
  generalize hset : (s.run fun b => b.setAt (.array shape r) indices new) = result at hcs' hrun
  obtain ⟨answer, t⟩ := result
  refine ⟨?_, fun e => ?_, answer, t, rfl, ?_⟩
  · rw [elementOf_eq hcs, Store.elementAt_eq_ok_iff ha]
  · rw [elementOf_eq hcs, Store.elementAt_eq_error_iff ha]
  rw [← Store.putElement_eq_ok_iff ha]
  simp only [← Store.putElement_eq_error_iff ha]
  -- all else follows from what the store says of the element
  cases hput : s.state.store.putElement shape r indices new with
  | error e =>
    rw [hput] at hrun
    obtain ⟨rfl, hstore⟩ := hrun
    exact ⟨⟨nofun, nofun⟩, fun _ => by simp only [Except.error.injEq], nofun, fun _ => hstore⟩
  | ok st =>
    rw [hput] at hrun
    obtain ⟨rfl, hstore⟩ := hrun
    obtain ⟨⟨is, his⟩, hnew⟩ := (Store.putElement_eq_ok_iff ha).mp ⟨st, hput⟩
    rw [Store.putElement_of_denotes ha his hnew, Except.ok.injEq] at hput
    refine ⟨⟨fun _ => ⟨st, rfl⟩, fun _ => rfl⟩, fun _ => ⟨nofun, nofun⟩, fun _ => ?_,
      fun hne => absurd rfl hne⟩
    exact elementStored_of_run hcs hcs' ha his (hstore.trans hput.symm)

/-! ### An example -/

/-- An array of two rows with three places each. -/
def gridShape : ArrayShape := ⟨TypeId.object, false, [2, 3]⟩

/-- A session in whose store the world outside has put such an array. -/
def gridSession : Session :=
  (({ config := {} } : Session).step (.outside (fun st => (st.newArray gridShape .null).2)
    fun _ => Nat.le_refl _)).2

lemma visited_gridSession : Visited gridSession := .step (.start {}) _

lemma gridSession_holdsArray : gridSession.state.store.HoldsArray gridShape 0 := by
  constructor <;> decide

/-- The last place of the second row is written, and the last one of the first row is as it was. -/
theorem elements_obey_gridSession :
    ∃ t, gridSession.run (fun b => b.setAt (.array gridShape 0) [.int 1, .int 2] (.int 7)) =
        (.ok (), t) ∧
      t.elementOf gridShape 0 [.int 1, .int 2] = .ok (.int 7) ∧
      t.elementOf gridShape 0 [.int 0, .int 2] =
        gridSession.elementOf gridShape 0 [.int 0, .int 2] := by
  obtain ⟨-, -, answer, t, hrun, hok, -, hstored, -⟩ :=
    elements_obey visited_gridSession gridSession_holdsArray [.int 1, .int 2] (.int 7)
  have hadmits : ∀ i : Int64, InRange i 2 → gridShape.Admits [.int i, .int 2] := fun i hi =>
    ⟨[i, 2], rfl, .cons hi (.cons (by decide) .nil)⟩
  obtain rfl : answer = .ok () := hok.mpr ⟨hadmits 1 (by decide), rfl⟩
  have hstored := hstored rfl
  exact ⟨t, hrun, hstored.self, hstored.others _ (hadmits 0 (by decide)) (by simp)⟩

end Session

end LateBinding
