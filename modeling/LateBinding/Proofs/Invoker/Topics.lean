import LateBinding.Proofs.Caches
import LateBinding.Proofs.Invoker.Keys
import LateBinding.Proofs.Registry.Owned

/-!
# Topics

A topic is what the caches can be asked about: a category with one of its keys. Some topics are
about no member at all, and their invoker can be told from the key alone: an access to array
elements, and what writes or copies nothing. Every other topic belongs to a type, the one that the
question goes through, and can be asked about only where this type is known.
-/

namespace LateBinding

/-- What the caches can be asked about. -/
abbrev Topic : Type := Σ c : Category, c.Key

namespace Topic

/-- The type that the question goes through. -/
def type : Topic → TypeId
  | ⟨.lookups, k⟩ => QueryKey.target k
  | ⟨.copiers, k⟩ => CopyKey.source k
  | ⟨.getters, k⟩ => CallKey.target k
  | ⟨.setters, k⟩ => CallKey.target k
  | ⟨.constructors, k⟩ => CallKey.target k
  | ⟨.methods, k⟩ => CallKey.target k
  | ⟨.indexReaders, k⟩ => CallKey.target k
  | ⟨.indexWriters, k⟩ => CallKey.target k
  | ⟨.batchSetters, k⟩ => CallKey.target k

/-- Whether the key names a type. -/
def involves (x : Topic) (t : TypeId) : Bool := x.1.involves t x.2

/-- The invoker of a topic that is about no member. -/
def common? : (x : Topic) → Option x.1.Item
  | ⟨.indexReaders, k⟩ =>
    if CallKey.target k = TypeId.array then some (.element (CallKey.params k).length) else none
  | ⟨.indexWriters, k⟩ =>
    if CallKey.target k = TypeId.array then some (.element (CallKey.params k).length) else none
  | ⟨.batchSetters, k⟩ => if CallKey.kinds k = .empty then some ⟨[]⟩ else none
  | ⟨.copiers, k⟩ => if CopyKey.pairs k = [] then some ⟨[]⟩ else none
  | _ => none

lemma involves_type (x : Topic) : x.involves x.type = true := by
  obtain ⟨c, k⟩ := x
  cases c <;> simp [involves, type, Category.involves, QueryKey.involves, CallKey.involves,
    CopyKey.involves]

end Topic

/-! ### Topics that are owned -/

namespace Topic

open Registry

variable {reg : Registry} {config : Config} {next : TypeId}

/-- The topic is about members, and belongs to a type that is owned. -/
structure Owned (reg : Registry) (x : Topic) : Prop where
  uncommon : x.common? = none
  owns : reg.Owns x.type
  mentions : ∀ t, x.involves t = true → reg.Mentions t

lemma owned_invoker (hv : reg.Valid next) {sort : InvokerSort} {type : TypeId} {m : Member}
    (h : reg.Finds config sort type m) :
    Owned reg ⟨sort.category, sort.key (.ofMember type m)⟩ := by
  obtain ⟨q, -, hfind⟩ := h
  have halong := (along_of_find hfind).1
  have howns := halong.owns hv
  have hdeclares := halong.declares hv
  refine ⟨?_, ?_, fun t ht => ?_⟩
  · -- only what is asked of arrays is common to all
    have hne : type ≠ TypeId.array := by
      rintro rfl
      cases howns.1
    cases sort <;> simp [common?, InvokerSort.key, CallKey.ofMember, hne]
  · cases sort <;> exact howns
  · -- the key involves the type, the type that declares the member and those of its parameters
    have hkey : (CallKey.ofMember type m).involves t = true := by cases sort <;> exact ht
    simp only [CallKey.involves, CallKey.ofMember, Bool.or_eq_true, beq_iff_eq,
      List.any_eq_true] at hkey
    rcases hkey with (rfl | rfl) | ⟨p, hp, rfl⟩
    · exact Or.inl howns
    · exact Or.inl (hv.owns_declaring hdeclares)
    · exact hdeclares.mentions (List.mem_cons_of_mem _ (List.mem_map_of_mem hp))

lemma owned_batchSetter (hv : reg.Valid next) {type : TypeId} {flags : Flags}
    {names : List String} {ms : List Member} (h : reg.findEach type flags names = .ok ms)
    (hne : ms ≠ []) : Owned reg ⟨.batchSetters, .ofMembers type ms⟩ := by
  obtain ⟨m, rest, rfl⟩ := List.exists_cons_of_ne_nil hne
  obtain ⟨name, -, hfind⟩ := exists_of_mem_mapM h List.mem_cons_self
  have howns := hv.owns_of_find hfind
  refine ⟨if_neg fun hkinds => ?_, howns, fun t ht => ?_⟩
  · have hkind := CallKey.has_kinds_ofMembers type (m :: rest) m.kind
    rw [hkinds] at hkind
    cases hm : m.kind <;> simp [hm, KindSet.has, KindSet.empty] at hkind
  · have hkey : (CallKey.ofMembers type (m :: rest)).involves t = true := ht
    simp only [CallKey.involves, CallKey.ofMembers, List.any_nil, Bool.or_false, Bool.or_self,
      beq_iff_eq] at hkey
    exact Or.inl (hkey ▸ howns)

lemma owned_copier (hv : reg.Valid next) {source target : TypeId} {o : CopyOptions}
    {pairs : List (Member × Member)} (h : reg.copyPairs source target o = .ok pairs)
    (hne : pairs ≠ []) : Owned reg ⟨.copiers, .ofPairs source target o pairs⟩ := by
  have halong := along_of_copyPairs h
  obtain ⟨pair, hpair⟩ := List.exists_mem_of_ne_nil pairs hne
  obtain ⟨hs, ht⟩ := halong pair hpair
  refine ⟨if_neg fun hnil => ?_, hs.owns hv, fun t hkey => ?_⟩
  · -- a copier of nothing would be common to all
    exact hne (List.map_eq_nil_iff.mp hnil)
  · -- the key involves the two types and those that declare the members
    change (CopyKey.ofPairs source target o pairs).involves t = true at hkey
    simp only [CopyKey.involves, CopyKey.ofPairs, List.any_map, Bool.or_eq_true, beq_iff_eq,
      List.any_eq_true, Function.comp_apply, PairKey.ofPair] at hkey
    rcases hkey with (rfl | rfl) | ⟨p, hp, rfl | rfl⟩
    · exact Or.inl (hs.owns hv)
    · exact Or.inl (ht.owns hv)
    · exact Or.inl (hv.owns_declaring ((halong p hp).1.declares hv))
    · exact Or.inl (hv.owns_declaring ((halong p hp).2.declares hv))

/-- A question that may be asked: it is about no member, and everybody makes the same for it, or it
is about a topic that is owned. -/
inductive Asked (reg : Registry) (x : Topic) (make : Unit → Except Fault x.1.Item) : Prop where
  | common {i : x.1.Item} (h : x.common? = some i) (hmake : make () = .ok i)
  | owned (h : x.Owned reg)

lemma Asked.owns {x : Topic} {make : Unit → Except Fault x.1.Item} (h : x.Asked reg make)
    (hx : x.common? = none) : reg.Owns x.type := by
  cases h with
  | common h => exact absurd (h.symm.trans hx) nofun
  | owned h => exact h.owns

lemma owned_lookup {k : QueryKey} (h : reg.Owns k.target) : Owned reg ⟨.lookups, k⟩ := by
  refine ⟨rfl, h, fun t ht => Or.inl ?_⟩
  have heq : k.target = t := eq_of_beq ht
  exact heq ▸ h

end Topic

/-- What the binder asks the caches is such a question. -/
lemma Fetches.asked {reg : Registry} {config : Config} {next : TypeId} (hv : reg.Valid next)
    {c : Category} {key : c.Key} {make : Unit → Except Fault c.Item}
    (h : Fetches reg config c key make) : Topic.Asked reg ⟨c, key⟩ make := by
  cases h with
  | invoker sort h => exact .owned (Topic.owned_invoker hv h)
  | elementReader rank => exact .common (by simp [Topic.common?, CallKey.ofRank]) rfl
  | elementWriter rank => exact .common (by simp [Topic.common?, CallKey.ofRank]) rfl
  | @batchSetter type flags names ms h =>
    cases ms with
    | nil => exact .common rfl rfl
    | cons m ms => exact .owned (Topic.owned_batchSetter hv h (List.cons_ne_nil m ms))
  | @copier source target o pairs h =>
    cases pairs with
    | nil => exact .common rfl rfl
    | cons pair pairs => exact .owned (Topic.owned_copier hv h (List.cons_ne_nil pair pairs))

end LateBinding
