import LateBinding.Proofs.Invoker.Outdated
import LateBinding.Proofs.Registry.Twins
import LateBinding.Proofs.Session.Reached

/-!
# What unloading leaves behind

When a type is unloaded, everything is forgotten whose key names it or a type that derives from it.
The type of the value that a setter writes is not in the key. A setter that is left behind therefore
may know the name of a type that is gone, or still take the type for a value type; all else that is
left behind does the same as if it were made now.

Main statement: `unload_leaves`.
-/

namespace LateBinding

variable {gone : List TypeId} {s s' : Session} {type : TypeId} {removed : Nat}
  {sort : InvokerSort} {reg : Registry} {next : TypeId} {k : CallKey}

/-- An invoker that serves a member does the same as a fresh one exactly if it is up to date. -/
lemma InvokerSort.Serves.alike_iff {config : Config} {x : sort.Item} {m : Member}
    (h : sort.Serves reg config gone k x m) (hgone : ∀ t ∈ gone, t.isBuiltin = false) :
    sort.Alike reg x (sort.refresh reg m.valueType x) ↔ sort.UpToDate reg m.valueType x := by
  by_cases hvalue : m.valueType ∈ gone
  · exact alike_refresh_iff (hgone _ hvalue) h.writes
  · have hself := h.current hvalue
    rw [hself]
    refine ⟨fun _ => hself ▸ upToDate_refresh reg m.valueType x, fun _ => .refl reg x⟩

namespace Session

/-- Whatever invoker of a member is left when a type is unloaded, the member is still declared and
is the only one with this key, and an invoker can still be made for it. The one that is left does
the same exactly if it knows what is known now of the type of the value that it writes, and so it
does unless this type has been unloaded. -/
theorem unload_leaves (h : Reached gone s) (htwins : s.registry.NoTwins)
    (hs : s.unload type = .ok (removed, s')) (sort : InvokerSort) (k : CallKey)
    (held : Stamped sort.Item) (hk : sort.held? s'.state.caches k = some held)
    (hmember : ∀ rank, k ≠ .ofRank rank) :
    ∃ m fresh, s'.registry.Declares m ∧ k = .ofMember k.target m ∧
      (∀ n, s'.registry.Declares n → k = .ofMember k.target n → n = m) ∧
      sort.compile s'.registry k.target m = .ok fresh ∧
      (sort.Alike s'.registry held.value fresh ↔
        sort.UpToDate s'.registry m.valueType held.value) ∧
      (m.valueType ∉ type :: gone → sort.Alike s'.registry held.value fresh) := by
  have hsound := h.sound.unload hs
  obtain ⟨reg', hr, hs'⟩ := unload_eq_ok hs
  have htwins' : s'.registry.NoTwins := by
    rw [hs']
    exact htwins.unloaded (Registry.unloaded_of_unload hr)
  rcases hsound.caches.invokers sort k held hk with ⟨rank, hrank⟩ | ⟨m, hm⟩
  · exact absurd hrank (hmember rank)
  have hdeclared := hm.declared hsound.valid
  refine ⟨m, _, hdeclared, hm.key, fun n hn hkey => ?_, hm.made, hm.alike_iff hsound.user,
    fun hvalue => ?_⟩
  · -- without twins a key stands for one member
    exact htwins'.eq_of_key hn hdeclared (hkey.symm.trans hm.key)
  · -- the type of the value is known, so what the invoker froze about it is up to date
    rw [hm.current hvalue]
    exact .refl _ _

/-! ### A setter that is left behind -/

/-- A value type without members. -/
def pointSpec : TypeSpec := { name := "Point", isValueType := true }

/-- A type with a field of the value type. -/
def holderSpec : TypeSpec where
  name := "Holder"
  members := [.field { name := "at", type := ⟨64⟩ }]

/-- The request for the setter of the field. -/
def holderRequest : Request := .setter ⟨65⟩ (.single .field) "at" .instanceAny

/-- The session in which both types are known and the setter has been asked for. -/
def holderSession : Session :=
  let s := ((({} : Session).step (.register pointSpec)).2.step (.register holderSpec)).2
  (s.run fun b => holderRequest.perform b).2

/-- The key of the setter. -/
def holderKey : CallKey := ⟨⟨65⟩, ⟨65⟩, .single .field, "at", [], false⟩

lemma reached_holderSession : Reached [] holderSession :=
  (((Reached.start {}).step_register (by decide)).step_register (by decide)).request holderRequest

lemma noTwins_holderSession : holderSession.registry.NoTwins :=
  Registry.noTwins_of_forall_values (by decide)

/-- When the value type is unloaded, the setter is left behind. -/
theorem unload_leaves_holder_setter : ∃ removed s' held m fresh,
    holderSession.unload ⟨64⟩ = .ok (removed, s') ∧
      InvokerSort.setter.held? s'.state.caches holderKey = some held ∧
      holderKey = .ofMember ⟨65⟩ m ∧ Setter.ofMember s'.registry ⟨65⟩ m = .ok fresh ∧
      (InvokerSort.setter.Alike s'.registry held.value fresh ↔
        InvokerSort.setter.UpToDate s'.registry m.valueType held.value) := by
  have hs : holderSession.unload ⟨64⟩ = .ok (_, _) := rfl
  obtain ⟨m, fresh, -, hkey, -, hfresh, halike, -⟩ :=
    unload_leaves reached_holderSession noTwins_holderSession hs .setter holderKey _ rfl
      fun rank h => by cases h
  exact ⟨_, _, _, m, fresh, hs, rfl, hkey, hfresh, halike⟩

/-- The field of the value type. -/
def holderField : Member where
  name := "at"
  declaring := ⟨65⟩
  isStatic := false
  visibility := .declaring
  params := []
  valueType := ⟨64⟩
  isSynthesized := false
  body := .field 0 false

/-- The setter that is left behind refuses null, which a setter that is made now lets pass. -/
theorem holder_setter_outdated :
    Reached [] holderSession ∧ holderSession.registry.NoTwins ∧ ∃ removed s' held fresh,
      holderSession.unload ⟨64⟩ = .ok (removed, s') ∧
        InvokerSort.setter.held? s'.state.caches (.ofMember ⟨65⟩ holderField) = some held ∧
        s'.registry.Declares holderField ∧
        Setter.ofMember s'.registry ⟨65⟩ holderField = .ok fresh ∧
        ¬ InvokerSort.setter.Alike s'.registry held.value fresh := by
  refine ⟨reached_holderSession, noTwins_holderSession, _, _, _, _, rfl, rfl,
    ⟨_, rfl, List.mem_cons_self⟩, rfl, fun h => ?_⟩
  have hrun := congrFun (h .idle (.object (.bare ⟨65⟩ false) 0) .null)
    { store := ({} : Store).addCell [.null] }
  cases hrun

end Session

end LateBinding
