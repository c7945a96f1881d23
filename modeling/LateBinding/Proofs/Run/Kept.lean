import LateBinding.Proofs.Run.Lookups

/-!
# What requests keep

A property of states that survives changes of the store and questions to the caches survives
everything that the binder does.
-/

namespace LateBinding

open Run

variable {α : Type} {reg : Registry} {I : State → Prop}

/-- What goes in step with itself as long as the property holds keeps the property. -/
lemma Accord.after_scripted {config : Config} {operation : Binder → Run α}
    (hR : Accord reg config config.remembersLookups config.remembersLookups
      fun s t => s = t ∧ I s)
    (h : Binder.InStep reg config config.remembersLookups config.remembersLookups
      (fun s t => s = t ∧ I s) operation) {s : State} (hs : I s) :
    I (after (operation (.scripted reg config) s)) := by
  have hagree := hR.scripted h s s ⟨rfl, hs⟩
  change Agree _ _ (operation (.scripted reg config) s) (operation (.scripted reg config) s)
    at hagree
  generalize operation (.scripted reg config) s = r at hagree
  cases hagree with
  | ok _ hr => exact hr.2
  | error hr => exact hr.2
  | parted h => exact h.elim

/-- The property survives all that the binder is made of. -/
structure Kept (reg : Registry) (config : Config) (I : State → Prop) : Prop where
  lookups : ∀ {s}, I s → LookupsSound reg s.caches
  change : ∀ {s st}, I s → st.nextType = s.store.nextType → I { s with store := st }
  search : ∀ {s s'}, I s → s.OnlyLookups s' → LookupsSound reg s'.caches → I s'
  fetch : ∀ {s} {c : Category} {key : c.Key} {make : Unit → Except Fault c.Item},
    Fetches reg config c key make → I s → I (after (Run.fetch c key make s))

namespace Kept

variable {config : Config}

lemma congr {J : State → Prop} (hI : Kept reg config I) (h : ∀ s, J s ↔ I s) :
    Kept reg config J := by
  rwa [show J = I from funext fun s => propext (h s)]

variable (hI : Kept reg config I)
include hI

/-- The binder goes in step with itself, so that it keeps the property. -/
lemma accord (r : Bool) : Accord reg config r r fun s t => s = t ∧ I s where
  store_eq := fun h => congrArg State.store h.1
  change := by
    rintro s _ st ⟨rfl, hs⟩ hst
    exact ⟨rfl, hI.change hs hst⟩
  member := by
    rintro n₁ n₂ type q hq s _ ⟨rfl, hs⟩
    obtain ⟨s₁, hs₁, hsound₁, heq₁⟩ :=
      Binder.member_eq (hI.lookups hs) hq (config.remembering r) n₁ type
    have hsame : (Binder.of reg (config.remembering r) n₂).member type q s =
        (Binder.of reg (config.remembering r) n₁).member type q s := rfl
    rw [hsame, heq₁]
    exact InStep.ofExcept _ s₁ s₁ ⟨rfl, hI.search hs hs₁ hsound₁⟩
  fetch := by
    rintro c key make hf s _ ⟨rfl, hs⟩
    have hs' := hI.fetch hf hs
    generalize Run.fetch c key make s = r at hs'
    cases r with
    | ok held s' => exact .ok trivial ⟨rfl, hs'⟩
    | error e s' => exact .error ⟨rfl, hs'⟩

/-- Scripts for native bodies keep the property. -/
lemma scripted {operation : Binder → Run α}
    (h : Binder.InStep reg config config.remembersLookups config.remembersLookups
      (fun s t => s = t ∧ I s) operation) {s : State} (hs : I s) :
    I (after (operation (.scripted reg config) s)) :=
  (hI.accord config.remembersLookups).after_scripted h hs

end Kept

/-- Beside sound lookups, what is said of the other memos is kept if every question keeps it. -/
lemma kept_beside {config : Config} {P : Caches → Prop} (next : TypeId)
    (hsame : ∀ {cs cs' : Caches}, (∀ {c}, c ≠ .lookups → cs'.memo c = cs.memo c) → P cs → P cs')
    (hfetch : ∀ {s s' : State} {c : Category} {key : c.Key} {make : Unit → Except Fault c.Item},
      Fetches reg config c key make → Grown c key (make ()) s s' → P s.caches → P s'.caches) :
    Kept reg config fun s => s.store.nextType = next ∧ LookupsSound reg s.caches ∧ P s.caches where
  lookups := fun h => h.2.1
  change := fun h hst => ⟨hst.trans h.1, h.2⟩
  search := fun h hs hsound => ⟨hs.store ▸ h.1, hsound, hsame hs.memo h.2.2⟩
  fetch := by
    intro s c key make hf h
    have hg := Run.grown_fetch c key make s
    exact ⟨hg.store ▸ h.1, h.2.1.congr (hg.memo hf.ne_lookups.symm), hfetch hf hg h.2.2⟩

end LateBinding
