import LateBinding.Proofs.Lookup.ArgumentTypes
import LateBinding.Proofs.Session.Order

/-!
# Overloads that fit can be called

Whatever has happened to a session, the types of arguments fit the parameters of a member just if
the arguments pass the check of its invokers.

Main statement: `Session.admitsParams_iff_check`.
-/

namespace LateBinding.Session

/-- For arguments of known types, null aside, and a member that takes all by value, the registry
admits the types of the arguments if and only if the guard of the member lets the arguments pass,
which it does if there are as many arguments as parameters and each is assignable to its own. So a
member that a search finds by these types is never refused the arguments. -/
theorem admitsParams_iff_check (config : Config) (xs : List Step) {arguments : List Value}
    (harguments : ∀ v ∈ arguments, v.Typed (({ config } : Session).follow xs).2.registry) :
    let reg := (({ config } : Session).follow xs).2.registry
    let types := arguments.map Param.ofValue
    (∀ m : Member, (∀ p ∈ m.params, p.byRef = false) →
      (reg.admitsParams m types = true ↔
        (ArgumentsGuard.ofMember reg m).check arguments = .ok ()) ∧
      ((ArgumentsGuard.ofMember reg m).check arguments = .ok () ↔
        List.Forall₂ (fun v p => v.isAssignableTo p.type (reg.isValueType p.type) = true)
          arguments m.params)) ∧
    ∀ type q m, (q.signature = .exact types ∨ q.signature = .inferred types) →
      reg.find type q = .ok m → (ArgumentsGuard.ofMember reg m).check arguments = .ok () := by
  intro reg types
  have hs : Orderly (({ config } : Session).follow xs).2 := (Orderly.start config).follow xs
  refine ⟨fun m href => ⟨?_, Member.check_iff href⟩, fun type q m hq hfind => ?_⟩
  · rw [Member.admitsParams_iff_applicable hs.valid hs.consistent harguments,
      Member.applicable_iff_check, and_iff_right href]
  · exact (Registry.applicable_of_find hs.valid hs.consistent harguments hq hfind).check

/-- A class below the builtin one of texts, a value type, and a type with two methods: one takes a
text and an instance of the value type, and the other the same in turn. -/
def mailSteps : List Step :=
  [.register { name := "Address", base := TypeId.string },
    .register { name := "Stamp", isValueType := true },
    .register {
      name := "Post"
      members := [
        .method {
          name := "Send", params := [⟨TypeId.string, false⟩, ⟨⟨65⟩, false⟩], body := [] },
        .method {
          name := "Send", params := [⟨⟨65⟩, false⟩, ⟨TypeId.string, false⟩], body := [] }] }]

/-- What an address carries of its type. -/
def addressShape : Shape :=
  ⟨⟨64⟩, "Address", some TypeId.string, false, [⟨64⟩, TypeId.string, TypeId.object], [], []⟩

/-- What a stamp carries of its type. -/
def stampShape : Shape :=
  ⟨⟨65⟩, "Stamp", some TypeId.object, true, [⟨65⟩, TypeId.object], [], []⟩

/-- The types of an address and a stamp fit the first method alone, which lets both pass. -/
theorem admitsParams_iff_check_mailSteps :
    let reg := (({} : Session).follow mailSteps).2.registry
    let arguments := [Value.object addressShape 0, .struct stampShape []]
    (∀ v ∈ arguments, v.Typed reg) ∧
    ∃ m, m.params = [⟨TypeId.string, false⟩, ⟨⟨65⟩, false⟩] ∧
      reg.find ⟨66⟩ { kinds := .single .method, name := some "Send",
                      signature := .inferred (arguments.map Param.ofValue) } = .ok m ∧
      reg.admitsParams m (arguments.map Param.ofValue) = true ∧
      (ArgumentsGuard.ofMember reg m).check arguments = .ok () := by
  intro reg arguments
  have htyped : ∀ v ∈ arguments, v.Typed reg := by
    intro v hmem
    rcases List.mem_cons.mp hmem with rfl | hmem
    · exact ⟨_, rfl, rfl⟩
    · obtain rfl := List.mem_singleton.mp hmem
      exact ⟨⟨_, rfl, rfl⟩, rfl⟩
  obtain ⟨m, hfind, hparams⟩ : ∃ m, reg.find ⟨66⟩ {
      kinds := .single .method, name := some "Send",
      signature := .inferred (arguments.map Param.ofValue) } = .ok m ∧
        m.params = [⟨TypeId.string, false⟩, ⟨⟨65⟩, false⟩] := ⟨_, rfl, rfl⟩
  obtain ⟨hiff, hfound⟩ := admitsParams_iff_check {} mailSteps htyped
  have hcheck := hfound _ _ m (Or.inr rfl) hfind
  refine ⟨htyped, m, hparams, hfind, ((hiff m ?_).1).mpr hcheck, hcheck⟩
  rw [hparams]
  decide

end LateBinding.Session
