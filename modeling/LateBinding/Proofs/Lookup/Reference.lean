import Mathlib.Data.List.Basic
import Mathlib.Data.List.Induction
import LateBinding.Lookup.Find
import LateBinding.Proofs.Registry.Chain

/-!
# What a search denotes

The search of `Lookup.Find` walks along the hierarchy and hides members behind those that it has
found so far. Here the same answers are said without a walk: a member is listed if it is wanted and
no wanted member at a nearer level has its signature, whether that one is listed itself or not.

Main statement: `findAll_find_spec`.
-/

namespace LateBinding

/-! ### Sets of kinds -/

@[simp] lemma KindSet.has_single (k l : Kind) : (single k).has l = decide (k = l) := by
  cases k <;> cases l <;> rfl

@[simp] lemma KindSet.has_union (s t : KindSet) (k : Kind) :
    (s.union t).has k = (s.has k || t.has k) := by
  cases k <;> rfl

@[simp] lemma KindSet.has_inter (s t : KindSet) (k : Kind) :
    (s.inter t).has k = (s.has k && t.has k) := by
  cases k <;> rfl

/-! ### Listed members -/

/-- Two members have the same kind, the same name and the same parameter list. -/
def Member.SameSignature (m n : Member) : Prop :=
  m.kind = n.kind ∧ m.name = n.name ∧ m.params = n.params

instance (m n : Member) : Decidable (m.SameSignature n) :=
  inferInstanceAs (Decidable (_ ∧ _ ∧ _))

lemma Member.SameSignature.symm {m n : Member} (h : m.SameSignature n) : n.SameSignature m :=
  ⟨h.1.symm, h.2.1.symm, h.2.2.symm⟩

lemma Member.SameSignature.trans {l m n : Member} (h : l.SameSignature m)
    (h' : m.SameSignature n) : l.SameSignature n :=
  ⟨h.1.trans h'.1, h.2.1.trans h'.2.1, h.2.2.trans h'.2.2⟩

lemma Member.sameSignature_eq_true_iff {m n : Member} :
    m.sameSignature n = true ↔ m.SameSignature n := by
  simp [sameSignature, SameSignature, and_assoc]

namespace Query

variable {q : Query} {reg : Registry} {type : TypeId} {i : Nat} {m n : Member}

/-- A member that is declared at a level of the hierarchy passes all that a query asks for. -/
structure Wants (q : Query) (reg : Registry) (level : Nat) (m : Member) : Prop where
  own_of_declaredOnly : q.flags.declaredOnly = true → level = 0
  own_of_constructor : m.kind = .constructor → level = 0
  kind : q.kinds.has m.kind = true
  scope : q.flags.acceptsScope m.isStatic = true
  visibility : q.flags.acceptsVisibility m.isPublic = true
  name : ∀ name, q.name = some name → q.flags.nameMatches m.name name = true
  backing : q.flags.excludeBacking = true → m.isSynthesized = false
  params : q.signature.admits reg m = true

lemma wants_iff :
    q.Wants reg i m ↔ (q.flags.declaredOnly = true → i = 0) ∧ q.acceptsAt reg i m = true := by
  have hname : q.name.all (q.flags.nameMatches m.name) = true ↔
      ∀ name, q.name = some name → q.flags.nameMatches m.name name = true := by
    cases q.name <;> simp
  have hbacking : (m.isSynthesized && q.flags.excludeBacking) = false ↔
      (q.flags.excludeBacking = true → m.isSynthesized = false) := by
    cases m.isSynthesized <;> simp
  simp only [acceptsAt, accepts, Bool.and_eq_true, Bool.or_eq_true, beq_iff_eq, bne_iff_ne,
    Bool.not_eq_true', hname, hbacking]
  constructor
  · intro h
    refine ⟨h.own_of_declaredOnly, ?_, ⟨⟨⟨⟨h.kind, h.scope⟩, h.visibility⟩, h.name⟩, h.backing⟩,
      h.params⟩
    by_cases hc : m.kind = .constructor
    · exact Or.inl (h.own_of_constructor hc)
    · exact Or.inr hc
  · rintro ⟨hd, hl, ⟨⟨⟨⟨hk, hs⟩, hv⟩, hn⟩, hb⟩, hp⟩
    exact ⟨hd, fun hc => hl.resolve_right fun h => h hc, hk, hs, hv, hn, hb, hp⟩

instance : Decidable (q.Wants reg i m) := decidable_of_iff _ wants_iff.symm

/-- At a level of a hierarchy a member is listed: it is wanted there, and no member that is wanted
at a nearer level has the same signature. -/
def Listed (q : Query) (reg : Registry) (levels : List Descriptor) (i : Nat) (m : Member) : Prop :=
  q.Wants reg i m ∧ ∀ nearer ∈ (levels.take i).zipIdx, ∀ n ∈ nearer.1.members,
    q.Wants reg nearer.2 n → ¬ n.SameSignature m

instance (levels : List Descriptor) : Decidable (q.Listed reg levels i m) :=
  inferInstanceAs (Decidable (_ ∧ _))

/-- The listed members of a hierarchy, level by level, and at each level as they are declared. -/
def listed (q : Query) (reg : Registry) (levels : List Descriptor) : List Found :=
  levels.zipIdx.flatMap fun level =>
    (level.1.members.filter (q.Listed reg levels level.2 ·)).map (⟨level.2, ·⟩)

lemma mem_listed {levels : List Descriptor} {c : Found} :
    c ∈ q.listed reg levels ↔ ∃ d, (d, c.level) ∈ levels.zipIdx ∧ c.member ∈ d.members ∧
      q.Listed reg levels c.level c.member := by
  simp only [listed, List.mem_flatMap, List.mem_map, List.mem_filter, decide_eq_true_eq]
  constructor
  · rintro ⟨⟨d, i⟩, hd, m, ⟨hm, hl⟩, rfl⟩
    exact ⟨d, hd, hm, hl⟩
  · rintro ⟨d, hd, hm, hl⟩
    exact ⟨(d, c.level), hd, c.member, ⟨hm, hl⟩, rfl⟩

/-- What hides a member need not be listed, but then it is hidden by something that is. -/
lemma exists_listed_of_wants {levels : List Descriptor} {d : Descriptor}
    (hd : (d, i) ∈ levels.zipIdx) (hm : m ∈ d.members) (hw : q.Wants reg i m) :
    ∃ c ∈ q.listed reg levels, c.member.SameSignature m := by
  induction i using Nat.strongRecOn generalizing d m with
  | _ i ih =>
    by_cases hl : q.Listed reg levels i m
    · exact ⟨⟨i, m⟩, mem_listed.mpr ⟨d, hd, hm, hl⟩, rfl, rfl, rfl⟩
    · simp only [Listed, hw, true_and, not_forall, not_not] at hl
      obtain ⟨⟨e, j⟩, he, n, hn, hwn, hs⟩ := hl
      rw [List.mem_zipIdx_iff_getElem?, List.getElem?_take] at he
      split at he
      · rename_i hj
        obtain ⟨c, hc, hcn⟩ := ih j hj (List.mk_mem_zipIdx_iff_getElem?.mpr he) hn hwn
        exact ⟨c, hc, hcn.trans hs⟩
      · cases he

lemma hidden_listed_iff {levels : List Descriptor} :
    hidden (q.listed reg levels) m = true ↔
      ∃ nearer ∈ levels.zipIdx, ∃ n ∈ nearer.1.members,
        q.Wants reg nearer.2 n ∧ n.SameSignature m := by
  simp only [hidden, List.any_eq_true, Member.sameSignature_eq_true_iff]
  constructor
  · rintro ⟨c, hc, hs⟩
    obtain ⟨d, hd, hm, hl⟩ := mem_listed.mp hc
    exact ⟨(d, c.level), hd, c.member, hm, hl.1, hs⟩
  · rintro ⟨⟨d, i⟩, hd, n, hn, hw, hs⟩
    obtain ⟨c, hc, hcn⟩ := exists_listed_of_wants hd hn hw
    exact ⟨c, hc, hcn.trans hs⟩

/-! ### The walk finds what is listed -/

lemma listed_append_singleton (ls : List Descriptor) (d : Descriptor) :
    q.listed reg (ls ++ [d]) = q.listed reg ls ++
      (d.members.filter (q.Listed reg (ls ++ [d]) ls.length ·)).map (⟨ls.length, ·⟩) := by
  have hls : ∀ level ∈ ls.zipIdx, ∀ m, q.Listed reg (ls ++ [d]) level.2 m ↔
      q.Listed reg ls level.2 m := by
    intro level hlevel m
    have hlt : level.2 < ls.length := List.snd_lt_of_mem_zipIdx hlevel
    rw [Listed, Listed, List.take_append_of_le_length (Nat.le_of_lt hlt)]
  rw [listed, List.zipIdx_append, List.flatMap_append, listed]
  congr 1
  · refine List.flatMap_congr fun level hlevel => ?_
    simp only [hls level hlevel]
  · simp

lemma addLevel_listed (ls : List Descriptor) (d : Descriptor)
    (hd : q.flags.declaredOnly = true → ls.length = 0) :
    q.addLevel reg (q.listed reg ls) (d, ls.length) = q.listed reg (ls ++ [d]) := by
  rw [listed_append_singleton, addLevel]
  congr 2
  refine List.filter_congr fun m _ => ?_
  have hw : q.Wants reg ls.length m ↔ q.acceptsAt reg ls.length m = true := by
    rw [wants_iff, and_iff_right hd]
  rw [Bool.eq_iff_iff, Bool.and_eq_true, Bool.not_eq_true', decide_eq_true_eq, Listed, hw,
    ← Bool.not_eq_true, hidden_listed_iff, List.take_left]
  simp only [not_exists, not_and]

lemma foldl_addLevel (levels : List Descriptor)
    (hd : q.flags.declaredOnly = true → levels.length ≤ 1) :
    levels.zipIdx.foldl (q.addLevel reg) [] = q.listed reg levels := by
  induction levels using List.reverseRecOn with
  | nil => rfl
  | append_singleton ls d ih =>
    have hlen : q.flags.declaredOnly = true → ls.length = 0 := fun h => by simpa using hd h
    rw [List.zipIdx_append, List.foldl_append, ih fun h => by rw [hlen h]; exact Nat.zero_le 1]
    simpa using addLevel_listed ls d hlen

/-- If only the searched type is considered, nothing is listed at its ancestors. -/
lemma listed_take_one (levels : List Descriptor) (hd : q.flags.declaredOnly = true) :
    q.listed reg (levels.take 1) = q.listed reg levels := by
  cases levels with
  | nil => rfl
  | cons d ds =>
    have hds : (ds.zipIdx 1).flatMap (fun level =>
        (level.1.members.filter (q.Listed reg (d :: ds) level.2 ·)).map (Found.mk level.2)) =
          [] := by
      refine List.flatMap_eq_nil_iff.mpr fun level hlevel => ?_
      have hle : 1 ≤ level.2 := List.le_snd_of_mem_zipIdx hlevel
      rw [List.map_eq_nil_iff, List.filter_eq_nil_iff]
      intro m _ hl
      have := (decide_eq_true_eq.mp hl).1.own_of_declaredOnly hd
      omega
    rw [listed, listed, List.zipIdx_cons, List.flatMap_cons, hds, List.append_nil,
      List.take_succ_cons, List.take_zero, List.zipIdx_cons, List.flatMap_cons, List.zipIdx_nil,
      List.flatMap_nil, List.append_nil]
    rfl

lemma collect_eq_listed (levels : List Descriptor) :
    q.collect reg levels = q.listed reg levels := by
  rw [collect]
  by_cases hd : q.flags.declaredOnly = true
  · rw [if_pos hd, foldl_addLevel _ fun _ => List.length_take_le 1 levels,
      listed_take_one levels hd]
  · rw [if_neg hd, foldl_addLevel _ fun h => absurd h hd]

/-! ### The denoted member -/

/-- What was found at the nearest of the levels at which something was found. -/
def nearest (found : List Found) : List Found :=
  found.filter fun c => found.all fun e => c.level ≤ e.level

/-- The answer to the question for one member, given all that is listed. -/
inductive Denotes (q : Query) (reg : Registry) (type : TypeId) (found : List Found) :
    Except Fault Member → Prop where
  | none (h : found = []) :
      Denotes q reg type found (.error (.notFound (.member q.kinds) q.nameText (reg.nameOf type)))
  | first {c : Found} (hp : q.flags.partialName = true) (h : found.head? = some c) :
      Denotes q reg type found (.ok c.member)
  | only {c : Found} (hp : q.flags.partialName = false) (h : nearest found = [c]) :
      Denotes q reg type found (.ok c.member)
  | exact {c : Found} {arguments : List Param} (hp : q.flags.partialName = false)
      (h : 2 ≤ (nearest found).length) (hs : q.signature = .inferred arguments)
      (ha : (nearest found).filter (·.member.acceptsParams arguments) = [c]) :
      Denotes q reg type found (.ok c.member)
  | ambiguous (hp : q.flags.partialName = false) (h : 2 ≤ (nearest found).length)
      (hn : ∀ arguments c, q.signature = .inferred arguments →
        (nearest found).filter (·.member.acceptsParams arguments) ≠ [c]) :
      Denotes q reg type found
        (.error (.ambiguous q.kinds q.nameText (reg.nameOf type) (nearest found).length))

lemma pairwise_listed (q : Query) (reg : Registry) (levels : List Descriptor) :
    (q.listed reg levels).Pairwise fun c e => c.level ≤ e.level := by
  have hidx : (levels.zipIdx.map (·.2)).Pairwise (· < ·) := by
    rw [List.zipIdx_map_snd]
    exact List.pairwise_lt_range'
  rw [listed, List.pairwise_flatMap]
  constructor
  · intro level _
    exact List.pairwise_map.mpr (List.pairwise_of_forall fun _ _ => Nat.le_refl _)
  · refine (List.pairwise_map.mp hidx).imp fun {x y} hlt c hc e he => ?_
    obtain ⟨m, _, rfl⟩ := List.mem_map.mp hc
    obtain ⟨n, _, rfl⟩ := List.mem_map.mp he
    exact Nat.le_of_lt hlt

lemma takeWhile_eq_filter {k : Nat} {found : List Found} (hk : ∀ c ∈ found, k ≤ c.level)
    (h : found.Pairwise fun c e => c.level ≤ e.level) :
    found.takeWhile (·.level == k) = found.filter (·.level == k) := by
  induction found with
  | nil => rfl
  | cons c found ih =>
    obtain ⟨hc, hfound⟩ := List.pairwise_cons.mp h
    by_cases hck : c.level = k
    · have htail := ih (fun e he => hk e (List.mem_cons_of_mem c he)) hfound
      simp [hck, htail]
    · have hlt : ∀ e ∈ found, ¬ (e.level == k) = true := by
        intro e he hek
        have h₁ := hk c List.mem_cons_self
        have h₂ := hc e he
        rw [beq_iff_eq] at hek
        omega
      simp [hck, List.filter_eq_nil_iff.mpr hlt]

/-- The nearest level is that of the first member found, and goes on as long as the level does. -/
lemma nearest_cons {c : Found} {found : List Found}
    (h : (c :: found).Pairwise fun c e => c.level ≤ e.level) :
    nearest (c :: found) = c :: found.takeWhile (·.level == c.level) := by
  obtain ⟨hc, hfound⟩ := List.pairwise_cons.mp h
  -- the found ones are in order, so the nearest are those of the first level
  have hall : ∀ e ∈ c :: found,
      ((c :: found).all fun e' => decide (e.level ≤ e'.level)) = (e.level == c.level) := by
    intro e he
    rw [Bool.eq_iff_iff, List.all_eq_true, beq_iff_eq]
    constructor
    · intro hle
      have h₁ := of_decide_eq_true (hle c List.mem_cons_self)
      rcases List.mem_cons.mp he with rfl | he
      · rfl
      · exact Nat.le_antisymm h₁ (hc e he)
    · intro heq e' he'
      rw [decide_eq_true_eq, heq]
      rcases List.mem_cons.mp he' with rfl | he'
      · exact Nat.le_refl _
      · exact hc e' he'
  rw [nearest, List.filter_congr hall, takeWhile_eq_filter hc hfound]
  simp

/-- There is at most one answer. -/
lemma Denotes.unique {found : List Found} {r r' : Except Fault Member}
    (h : q.Denotes reg type found r) (h' : q.Denotes reg type found r') : r = r' := by
  cases h <;> cases h' <;> simp_all [nearest]

/-- A member that is the answer has been found. -/
lemma Denotes.mem {found : List Found} (h : q.Denotes reg type found (.ok m)) :
    ∃ c ∈ found, c.member = m := by
  have hnearest : ∀ {c}, c ∈ nearest found → c ∈ found := fun hc => (List.mem_filter.mp hc).1
  cases h with
  | first _ hc => exact ⟨_, List.mem_of_head? hc, rfl⟩
  | only _ hc => exact ⟨_, hnearest (hc ▸ List.mem_singleton_self _), rfl⟩
  | exact _ _ _ hc =>
    have hmem := List.mem_filter.mp (hc ▸ List.mem_singleton_self _)
    exact ⟨_, hnearest hmem.1, rfl⟩

/-- What a signature decides between several members is the only one that it accepts exactly. -/
lemma exactOverload?_eq_some_iff {s : Signature} {tied : List Found} :
    s.exactOverload? tied = some m ↔ ∃ arguments c, s = .inferred arguments ∧
      tied.filter (·.member.acceptsParams arguments) = [c] ∧ c.member = m := by
  cases s with
  | any => simp [Signature.exactOverload?]
  | exact params => simp [Signature.exactOverload?]
  | inferred arguments =>
    simp only [Signature.exactOverload?, Signature.inferred.injEq]
    split
    · rename_i c hc
      simp [hc]
    · rename_i hc
      simp only [reduceCtorEq, false_iff]
      rintro ⟨_, c, rfl, hc', -⟩
      exact hc c hc'

/-- The choice, said in terms of the nearest level. -/
lemma choose_cons {c : Found} {found : List Found}
    (h : (c :: found).Pairwise fun c e => c.level ≤ e.level) :
    reg.choose type q (c :: found) =
      if q.flags.partialName || (nearest (c :: found)).length == 1 then .ok c.member
      else match q.signature.exactOverload? (nearest (c :: found)) with
        | some m => .ok m
        | none => .error
          (.ambiguous q.kinds q.nameText (reg.nameOf type) (nearest (c :: found)).length) := by
  rw [nearest_cons h]
  rfl

/-- The choice among all that is listed is the answer. -/
lemma denotes_choose {found : List Found} (h : found.Pairwise fun c e => c.level ≤ e.level) :
    q.Denotes reg type found (reg.choose type q found) := by
  cases found with
  | nil => exact .none rfl
  | cons c found =>
    rw [choose_cons h]
    have hhead : ∃ tail, nearest (c :: found) = c :: tail := ⟨_, nearest_cons h⟩
    -- partial names: the first one is taken
    by_cases hp : q.flags.partialName = true
    · rw [hp, Bool.true_or, if_pos rfl]
      exact .first hp rfl
    rw [Bool.not_eq_true] at hp
    rw [hp, Bool.false_or]
    -- a single one among the nearest needs no arguments
    by_cases hlen : (nearest (c :: found)).length = 1
    · obtain ⟨tail, htail⟩ := hhead
      rw [hlen, beq_self_eq_true, if_pos rfl]
      rw [htail, List.length_cons, Nat.add_eq_right, List.length_eq_zero_iff] at hlen
      exact .only hp (hlen ▸ htail)
    have hlen2 : 2 ≤ (nearest (c :: found)).length := by
      obtain ⟨tail, htail⟩ := hhead
      rw [htail, List.length_cons] at hlen ⊢
      omega
    rw [if_neg (by simpa using hlen)]
    -- of several, one whose parameters are the types of the arguments wins
    cases hx : q.signature.exactOverload? (nearest (c :: found)) with
    | some m =>
      obtain ⟨arguments, e, hs, ha, rfl⟩ := exactOverload?_eq_some_iff.mp hx
      exact .exact hp hlen2 hs ha
    | none =>
      refine .ambiguous hp hlen2 fun arguments e hs ha => ?_
      rw [exactOverload?_eq_some_iff.mpr ⟨arguments, e, hs, ha, rfl⟩] at hx
      cases hx

end Query

/-! ### The search -/

namespace Registry

variable {reg : Registry} {type : TypeId} {levels : List Descriptor}

lemma candidates_of_chain (h : reg.Chain type levels) (q : Query) :
    reg.candidates type q = .ok (q.listed reg levels) := by
  rw [candidates, h.hierarchy_eq, ← Query.collect_eq_listed]
  rfl

lemma findAll_of_chain (h : reg.Chain type levels) (q : Query) :
    reg.findAll type q = .ok ((q.listed reg levels).map (·.member)) := by
  rw [findAll, candidates_of_chain h]
  rfl

lemma find_of_chain (h : reg.Chain type levels) (q : Query) :
    reg.find type q = reg.choose type q (q.listed reg levels) := by
  rw [find, candidates_of_chain h]
  rfl

lemma denotes_find (h : reg.Chain type levels) (q : Query) :
    q.Denotes reg type (q.listed reg levels) (reg.find type q) := by
  rw [find_of_chain h]
  exact Query.denotes_choose (Query.pairwise_listed q reg levels)

lemma candidates_of_firstUnknown {missing : TypeId} (h : reg.FirstUnknown type missing)
    (q : Query) : reg.candidates type q = .error (.unknownType missing) := by
  rw [candidates, h.hierarchy_eq]
  rfl

lemma find_of_firstUnknown {missing : TypeId} (h : reg.FirstUnknown type missing) (q : Query) :
    reg.find type q = .error (.unknownType missing) := by
  rw [find, candidates_of_firstUnknown h]
  rfl

/-- If the whole chain of a type is known, a search gives what is listed, in the order of the levels
and then of the declarations, and a search for one member gives the member that is denoted.
Otherwise both fail at the first type of the chain that is not known. -/
theorem findAll_find_spec (reg : Registry) (type : TypeId) (q : Query) :
    (∀ levels, reg.Chain type levels →
      reg.findAll type q = .ok ((q.listed reg levels).map (·.member)) ∧
        ∀ r, reg.find type q = r ↔ q.Denotes reg type (q.listed reg levels) r) ∧
    ∀ missing, reg.FirstUnknown type missing →
      reg.findAll type q = .error (.unknownType missing) ∧
        reg.find type q = .error (.unknownType missing) := by
  constructor
  · intro levels hc
    refine ⟨findAll_of_chain hc q, fun r => ?_⟩
    constructor
    · rintro rfl
      exact denotes_find hc q
    · exact (denotes_find hc q).unique
  · intro missing hm
    refine ⟨?_, find_of_firstUnknown hm q⟩
    rw [findAll, candidates_of_firstUnknown hm]
    rfl

/-- A registry with a type of three fields, two of which differ in case, and one derived from it
that declares the first field anew. -/
def layered : Registry :=
  let registered : Except Fault Registry := do
    let (base, reg, st) ← Registry.initial.register {} {
      name := "Base"
      members := [.field { name := "x", type := TypeId.int, visibility := .everywhere },
        .field { name := "y", type := TypeId.int, visibility := .everywhere },
        .field { name := "Y", type := TypeId.int, visibility := .everywhere }] }
    let (_, reg, _) ← reg.register st {
      name := "Derived"
      base
      members := [.field { name := "x", type := TypeId.bool, visibility := .everywhere }] }
    pure reg
  registered.toOption.getD .initial

/-- The question for an instance field of a name. -/
def fieldNamed (name : String) (ignoreCase : Bool) : Query where
  kinds := .single .field
  name := some name
  flags := { Flags.instanceAny with ignoreCase }

/-- The derived type lists its own field and the two that it has not declared anew. By name no field
is found, or the nearest one, or two that cannot be told apart if case is ignored. The type that
would come next is not known. -/
theorem findAll_find_layered :
    (∃ levels ms m, layered.Chain ⟨65⟩ levels ∧
      layered.findAll ⟨65⟩ { kinds := .single .field, flags := .instanceAny } = .ok ms ∧
      ms.map (fun m => (m.declaring, m.name)) = [(⟨65⟩, "x"), (⟨64⟩, "y"), (⟨64⟩, "Y")] ∧
      layered.find ⟨65⟩ (fieldNamed "z" false) =
        .error (.notFound (.member (.single .field)) "z" "Derived") ∧
      layered.find ⟨65⟩ (fieldNamed "x" false) = .ok m ∧ (m.declaring, m.name) = (⟨65⟩, "x") ∧
      layered.find ⟨65⟩ (fieldNamed "y" true) =
        .error (.ambiguous (.single .field) "y" "Derived" 2)) ∧
    layered.FirstUnknown ⟨66⟩ ⟨66⟩ ∧
      layered.findAll ⟨66⟩ { kinds := .single .field, flags := .instanceAny } =
        .error (.unknownType ⟨66⟩) := by
  have hchain : layered.Chain ⟨65⟩
      ([⟨65⟩, ⟨64⟩, TypeId.object].filterMap layered.get?) := ⟨_, rfl, rfl⟩
  have hmissing : layered.FirstUnknown ⟨66⟩ ⟨66⟩ := Or.inl ⟨rfl, rfl⟩
  have hdenotes := fun q => ((findAll_find_spec layered ⟨65⟩ q).1 _ hchain).2
  exact ⟨⟨_, _, _, hchain, ((findAll_find_spec _ _ _).1 _ hchain).1, by decide,
    (hdenotes _ _).mpr (.none rfl), (hdenotes _ _).mpr (.only rfl rfl), rfl,
    (hdenotes _ _).mpr (.ambiguous rfl (by decide) fun _ _ h => by cases h)⟩, hmissing,
    ((findAll_find_spec _ _ _).2 _ hmissing).1⟩

end Registry

end LateBinding
