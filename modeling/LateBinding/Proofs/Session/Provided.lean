import LateBinding.Proofs.Invoker.Provided
import LateBinding.Proofs.Session.Order

/-!
# Invokers that can be made

Whatever has happened to a session, an invoker of some sort can be made of a member along a known
chain if the member says of itself that it can serve so, and otherwise it is refused.

Main statement: `Session.compile_provided`.
-/

namespace LateBinding.Session

/-- For a target type whose chain is known, an invoker can be made exactly of the members of the
chain that provide for it; all others are refused. So a copier can always be made of the pairs that
a copy goes through. -/
theorem compile_provided (config : Config) (xs : List Step) :
    let reg := (({ config } : Session).follow xs).2.registry
    (∀ target m, reg.Along target m → ∀ sort : InvokerSort,
      (m.Provides sort → ∃ x, sort.compile reg target m = .ok x) ∧
        (¬ m.Provides sort → ∃ why, sort.compile reg target m = .error (.refused why))) ∧
    ∀ source target o pairs, reg.copyPairs source target o = .ok pairs →
      ∃ c, Copier.ofPairs reg source target pairs = .ok c := by
  intro reg
  have hs : Orderly (({ config } : Session).follow xs).2 := (Orderly.start config).follow xs
  constructor
  · intro target m hm sort
    obtain ⟨d, e, hsupports⟩ := hm.exists_supports hs.valid hs.precedes
    exact hsupports.compile sort
  · intro source target o pairs hpairs
    exact Registry.exists_copier hs.valid hs.precedes hpairs

/-- A type with a field that cannot be written, a property without a setter and one without a
getter, and an indexer without a setter; and a type below it with a field of its own. -/
def meterSteps : List Step :=
  [.register {
      name := "Meter"
      members := [
        .field {
          name := "unit", type := TypeId.string, visibility := .everywhere, readonly := true },
        .property { name := "total", type := TypeId.int, body := .auto true },
        .property { name := "step", type := TypeId.int, body := .native none (some []) },
        .indexer { type := TypeId.int, params := [⟨TypeId.int, false⟩], getter := some [] }] },
    .register {
      name := "Gauge"
      base := ⟨64⟩
      members := [
        .field { name := "level", type := TypeId.int, visibility := .everywhere }] }]

/-- The field of the base that cannot be written. -/
def unitField : Member where
  name := "unit"
  declaring := ⟨64⟩
  isStatic := false
  visibility := .everywhere
  params := []
  valueType := TypeId.string
  isSynthesized := false
  body := .field 0 true

/-- For the derived type the inherited field can be read and not written, and of what the derived
type shows only its own field can be copied. -/
theorem compile_provided_meterSteps :
    let reg := (({} : Session).follow meterSteps).2.registry
    (∃ x, Getter.ofMember reg ⟨65⟩ unitField = .ok x) ∧
    (∃ why, Setter.ofMember reg ⟨65⟩ unitField = .error (.refused why)) ∧
    ∃ pairs c, reg.copyPairs ⟨65⟩ ⟨65⟩ {} = .ok pairs ∧ pairs.map (·.1.name) = ["level"] ∧
      Copier.ofPairs reg ⟨65⟩ ⟨65⟩ pairs = .ok c := by
  intro reg
  obtain ⟨hcompile, hcopier⟩ := compile_provided {} meterSteps
  have halong : reg.Along ⟨65⟩ unitField := by
    obtain ⟨base, hbase, hmem⟩ : ∃ d, reg.get? ⟨64⟩ = some d ∧ d.members[0]? = some unitField :=
      ⟨_, rfl, rfl⟩
    obtain ⟨d, hd, hancestors⟩ : ∃ d, reg.get? ⟨65⟩ = some d ∧
      d.ancestors = [⟨65⟩, ⟨64⟩, TypeId.object] := ⟨_, rfl, rfl⟩
    obtain ⟨root, hroot⟩ : ∃ root, reg.get? TypeId.object = some root := ⟨_, rfl⟩
    refine ⟨[d, base, root], ⟨d, hd, ?_⟩, base, by simp, List.mem_of_getElem? hmem⟩
    simp [hancestors, hd, hbase, hroot]
  obtain ⟨pairs, hpairs, hnames⟩ : ∃ pairs, reg.copyPairs ⟨65⟩ ⟨65⟩ {} = .ok pairs ∧
      pairs.map (·.1.name) = ["level"] := ⟨_, rfl, rfl⟩
  obtain ⟨c, hc⟩ := hcopier _ _ _ _ hpairs
  refine ⟨(hcompile _ _ halong .getter).1 ⟨Or.inl rfl, rfl⟩, ?_, pairs, c, hpairs, hnames, hc⟩
  exact (hcompile _ _ halong .setter).2 fun h => by cases h.2

end LateBinding.Session
