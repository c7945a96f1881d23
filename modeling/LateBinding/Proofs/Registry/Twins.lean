import Mathlib.Data.List.Nodup
import LateBinding.Invoker.Key
import LateBinding.Proofs.Lookup.Frame

/-!
# Twins

Two members of one type are twins if they agree in kind, name, parameter list and scope. The key of
an invoker does not tell them apart; where there are none, it tells all members apart.
-/

namespace LateBinding

/-- What the key of a member shows beside the types. -/
def Member.mark (m : Member) : Kind × String × List Param × Bool :=
  (m.kind, m.name, m.params, m.isStatic)

lemma KindSet.single_inj {k l : Kind} : single k = single l ↔ k = l := by
  cases k <;> cases l <;> decide

lemma CallKey.ofMember_eq_iff {t u : TypeId} {m n : Member} :
    ofMember t m = ofMember u n ↔ t = u ∧ m.declaring = n.declaring ∧ m.mark = n.mark := by
  simp [ofMember, Member.mark, KindSet.single_inj]

namespace Registry

variable {reg reg' : Registry} {next t type : TypeId} {m n : Member}

/-- No known type declares two members that agree in kind, name, parameter list and scope. -/
def NoTwins (reg : Registry) : Prop :=
  ∀ t d, reg.get? t = some d → (d.members.map Member.mark).Nodup

lemma noTwins_of_forall_values
    (h : ∀ d ∈ reg.types.values, (d.members.map Member.mark).Nodup) : reg.NoTwins :=
  fun _ d hd => h d (Table.mem_values_of_get? hd)

lemma NoTwins.eq_of_key (h : reg.NoTwins) (hm : reg.Declares m) (hn : reg.Declares n)
    (hkey : CallKey.ofMember t m = .ofMember t n) : m = n := by
  obtain ⟨-, hdeclaring, hmark⟩ := CallKey.ofMember_eq_iff.mp hkey
  obtain ⟨d, hd, hmd⟩ := hm
  obtain ⟨e, he, hne⟩ := hn
  rw [← hdeclaring, hd, Option.some.injEq] at he
  subst he
  exact List.inj_on_of_nodup_map (h _ d hd) hmd hne hmark

/-- No other known member is declared by the same type with the same kind, name, parameter list and
scope. -/
def Sole (reg : Registry) (m : Member) : Prop :=
  ∀ n, reg.Declares n → n.declaring = m.declaring → n.mark = m.mark → n = m

lemma Sole.eq_of_key (h : reg.Sole m) (hn : reg.Declares n)
    (hkey : CallKey.ofMember t m = .ofMember t n) : n = m := by
  obtain ⟨-, hdeclaring, hmark⟩ := CallKey.ofMember_eq_iff.mp hkey
  exact h n hn hdeclaring.symm hmark.symm

lemma NoTwins.sole (h : reg.NoTwins) (hm : reg.Declares m) : reg.Sole m :=
  fun _ hn hdeclaring hmark =>
    h.eq_of_key hn hm (CallKey.ofMember_eq_iff.mpr ⟨rfl, hdeclaring, hmark⟩ :
      CallKey.ofMember TypeId.any _ = .ofMember TypeId.any _)

lemma NoTwins.unloaded (h : reg.NoTwins) (hu : reg.Unloaded type reg') : reg'.NoTwins :=
  fun t d hd => h t d (hu.get?_of_some hd).2

/-- The builtin types declare nothing. -/
lemma Valid.user_of_declares (hv : reg.Valid next) (h : reg.Declares m) :
    m.declaring.isBuiltin = false := by
  obtain ⟨d, hd, hm⟩ := h
  cases hb : m.declaring.isBuiltin with
  | false => rfl
  | true =>
    rw [hv.builtin hb] at hd
    obtain ⟨name, isValueType, -, rfl⟩ := get?_initial_eq_some hd
    rw [members_builtin] at hm
    cases hm

lemma Valid.ofMember_ne_ofRank (hv : reg.Valid next) (h : reg.Declares m) (t : TypeId)
    (rank : Nat) : CallKey.ofMember t m ≠ .ofRank rank := by
  intro hkey
  have harray : m.declaring = TypeId.array := congrArg CallKey.declaring hkey
  have huser := hv.user_of_declares h
  rw [harray] at huser
  cases huser

end Registry

end LateBinding
