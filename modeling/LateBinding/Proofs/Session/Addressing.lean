import LateBinding.Proofs.Lookup.Exactly
import LateBinding.Proofs.Session.Order

/-!
# Listed members can be asked for

Whatever has happened to a session, a member that a listing shows can be asked for by its own kind,
name and parameter list, at whatever level it is declared and whatever overloads stand around it.

Main statement: `Session.find_listed`.
-/

namespace LateBinding.Session

/-- With flags that compare names literally, a listed member whose parameters name their types is
found under its own kind, name and parameter list if it is the only one of its type with these three
that the flags let through. If there are more of them, the search says how many. -/
theorem find_listed (config : Config) (xs : List Step) {type : TypeId} {kinds : KindSet}
    {flags : Flags} {found : List Member} {m : Member} (hflags : flags.Literal)
    (hfound : (({ config } : Session).follow xs).2.registry.findAll type { kinds, flags } =
      .ok found)
    (hm : m ∈ found) (hparams : ∀ p ∈ m.params, p.type ≠ TypeId.any) :
    let reg := (({ config } : Session).follow xs).2.registry
    ∃ d, reg.get? m.declaring = some d ∧ m ∈ d.namesakes flags m ∧
      (d.namesakes flags m = [m] → reg.find type (.exactly m flags) = .ok m) ∧
      (d.namesakes flags m ≠ [m] → reg.find type (.exactly m flags) =
        .error (.ambiguous (.single m.kind) m.name (reg.nameOf type)
          (d.namesakes flags m).length)) := by
  intro reg
  have hs : Orderly (({ config } : Session).follow xs).2 := (Orderly.start config).follow xs
  obtain ⟨d, hd, hself, hfind⟩ := Registry.find_exactly_eq hs.valid hflags hfound hm hparams
  refine ⟨d, hd, hself, fun hone => ?_, fun hmany => ?_⟩
  · rw [hfind, hone, List.length_singleton, if_pos rfl]
  · rw [hfind, if_neg]
    intro hlen
    obtain ⟨n, hn⟩ := List.length_eq_one_iff.mp hlen
    rw [hn, List.mem_singleton] at hself
    exact hmany (hself ▸ hn)

/-- A method `Put` that does nothing, with its parameters. -/
def putSpec (params : List Param) (isStatic : Bool) : MemberSpec :=
  .method { name := "Put", params, isStatic, body := [] }

/-- A type that declares a method with and without a reference, for an instance and for the type
itself, and a type below it that declares two more overloads and one of them anew. -/
def putSteps : List Step :=
  [.register {
      name := "Base"
      members := [putSpec [⟨TypeId.int, false⟩] false, putSpec [⟨TypeId.int, false⟩] true,
        putSpec [⟨TypeId.int, true⟩] false, putSpec [⟨TypeId.bool, false⟩] false,
        .field { name := "Put", type := TypeId.int, visibility := .everywhere }] },
    .register {
      name := "Derived"
      base := ⟨64⟩
      members := [putSpec [⟨TypeId.string, false⟩] false, putSpec [⟨TypeId.bool, false⟩] false,
        putSpec [] false] }]

/-- The method of the base that takes a whole number by value. -/
def putMethod : Member where
  name := "Put"
  declaring := ⟨64⟩
  isStatic := false
  visibility := .everywhere
  params := [⟨TypeId.int, false⟩]
  valueType := TypeId.void
  isSynthesized := false
  body := .method (.native [])

/-- What an instance of the derived type shows. -/
def putListing : List (Kind × String × List Param) :=
  [(.method, "Put", [⟨TypeId.string, false⟩]), (.method, "Put", [⟨TypeId.bool, false⟩]),
    (.method, "Put", []), (.constructor, ".ctor", []), (.method, "Put", [⟨TypeId.int, false⟩]),
    (.method, "Put", [⟨TypeId.int, true⟩]), (.field, "Put", [])]

/-- Seen from the derived type, the method of the base is one of six instance members that are
called the same, and is found under its own parameter list. -/
theorem find_listed_putMethod :
    let reg := (({} : Session).follow putSteps).2.registry
    (∃ found, reg.findAll ⟨65⟩ { kinds := .all, flags := .instanceAny } = .ok found ∧
      found.map (fun m => (m.kind, m.name, m.params)) = putListing ∧ putMethod ∈ found) ∧
    reg.find ⟨65⟩ (.exactly putMethod .instanceAny) = .ok putMethod := by
  intro reg
  obtain ⟨found, hfound, hlisting, hat⟩ : ∃ found,
      reg.findAll ⟨65⟩ { kinds := .all, flags := .instanceAny } = .ok found ∧
        found.map (fun m => (m.kind, m.name, m.params)) = putListing ∧
          found[4]? = some putMethod :=
    ⟨_, rfl, rfl, rfl⟩
  have hmem : putMethod ∈ found := List.mem_of_getElem? hat
  obtain ⟨d, hd, -, hone, -⟩ := find_listed {} putSteps ⟨rfl, rfl, rfl⟩ hfound hmem (by decide)
  refine ⟨⟨found, hfound, hlisting, hmem⟩, hone ?_⟩
  cases hd
  rfl

end LateBinding.Session
