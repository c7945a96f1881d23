import Mathlib.Algebra.GroupWithZero.Nat
import LateBinding.Proofs.Session.Order
import LateBinding.Proofs.Table

/-!
# What unloading sweeps away

When a type is unloaded, the entries of all memos are swept whose key names the type or a known type
that derives from it, be it through types that are gone themselves. Everything else stays as it is:
each remaining entry, and all counters.

Main statement: `Session.unload_sweeps`.
-/

namespace LateBinding

/-! ### Purges, entry by entry -/

section Purge

variable {κ α : Type}

lemma Memo.entries_purge (m : Memo κ α) (doomed : κ → Bool) :
    (m.purge doomed).2.table.entries = m.table.entries.filter fun e => !doomed e.1 := rfl

/-- A purge tells how many entries it has taken away. -/
lemma Memo.purge_fst (m : Memo κ α) (doomed : κ → Bool) :
    (m.purge doomed).1 = (m.table.entries.filter fun e => doomed e.1).length := by
  have hlength := List.length_eq_length_filter_add (l := m.table.entries) fun e => doomed e.1
  change m.table.entries.length - (m.table.entries.filter fun e => !doomed e.1).length = _
  omega

end Purge

namespace Caches

/-- Each category is purged with what it held at the beginning, so the numbers add up. -/
lemma foldl_purgeIn_fst (types : List TypeId) {f : Nat × Caches → Category → Nat × Caches}
    (hf : ∀ p c, f p c = (p.1 + (p.2.purgeIn types c).1, (p.2.purgeIn types c).2))
    {l : List Category} (hl : l.Nodup) (p : Nat × Caches) :
    (l.foldl f p).1 =
      p.1 + (l.map fun c => ((p.2.memo c).purge fun k => types.any (c.involves · k)).1).sum := by
  induction l generalizing p with
  | nil => rfl
  | cons d l ih =>
    obtain ⟨hd, hl⟩ := List.nodup_cons.mp hl
    -- the categories that are left have not been purged yet
    have hrest : ∀ c ∈ l, (p.2.purgeIn types d).2.memo c = p.2.memo c :=
      fun c hc => memo_purgeIn_of_ne p.2 types fun hcd => hd (hcd ▸ hc)
    rw [List.foldl_cons, ih hl, hf, List.map_cons, List.sum_cons, ← Nat.add_assoc]
    congr 2
    exact List.map_congr_left fun c hc => by rw [hrest c hc]

lemma purge_fst (cs : Caches) (types : List TypeId) :
    (cs.purge types).1 = (Category.all.map fun c =>
      ((cs.memo c).table.entries.filter fun e => types.any (c.involves · e.1)).length).sum := by
  refine (foldl_purgeIn_fst types ?_ ?_ (0, cs)).trans ?_
  · exact fun _ _ => rfl
  · decide
  · simp only [Nat.zero_add, Memo.purge_fst]

end Caches

/-! ### Descendants -/

namespace Registry

variable {reg reg' : Registry} {next type u : TypeId}

/-- The type is the other one or a known type that derives from it. -/
def Affected (reg : Registry) (type u : TypeId) : Prop :=
  u = type ∨ ∃ d, reg.get? u = some d ∧ type ∈ d.ancestors

/-- The descendants of a type are the known types that have it among their ancestors. -/
lemma mem_descendants_iff (hv : reg.Valid next) (hkeys : reg.types.keys.Nodup) :
    u ∈ reg.descendants type ↔ u ≠ type ∧ ∃ d, reg.get? u = some d ∧ type ∈ d.ancestors := by
  constructor
  · intro hu
    obtain ⟨d, hd, rfl⟩ := List.mem_map.mp hu
    obtain ⟨hd, hderives⟩ := List.mem_filter.mp hd
    obtain ⟨⟨t, e⟩, hentry, rfl⟩ := List.mem_map.mp hd
    rw [Bool.and_eq_true, decide_eq_true_eq] at hderives
    have ht : reg.get? t = some e := (Table.get?_eq_some_iff hkeys).mpr hentry
    exact ⟨hderives.1, e, (hv.id ht).symm ▸ ht, List.contains_iff_mem.mp hderives.2⟩
  · rintro ⟨hne, d, hd, ha⟩
    exact hv.mem_descendants hd hne ha

lemma types_of_unload (h : reg.unload type = some reg') : reg'.types = reg.types.erase type := by
  rw [unload] at h
  split at h
  · cases h
  · obtain ⟨d, -, rfl⟩ := Option.map_eq_some_iff.mp h
    rfl

/-- After the type is gone, it is still found which types derive from it. -/
lemma mem_swept_iff (hv : reg.Valid next) (hkeys : reg.types.keys.Nodup)
    (h : reg.unload type = some reg') :
    u ∈ reg'.descendants type ++ [type] ↔ reg.Affected type u := by
  have hu := unloaded_of_unload h
  have hkeys' : reg'.types.keys.Nodup := types_of_unload h ▸ Table.nodup_keys_erase hkeys type
  rw [List.mem_append, List.mem_singleton, mem_descendants_iff (hu.valid hv) hkeys', Affected]
  constructor
  · -- what derives from the type is known as it was before
    rintro (⟨hne, d, hd, ha⟩ | rfl)
    · exact Or.inr ⟨d, (hu.get?_of_some hd).2, ha⟩
    · exact Or.inl rfl
  · intro haffected
    by_cases hne : u = type
    · exact Or.inr hne
    · obtain ⟨d, hd, ha⟩ := haffected.resolve_left hne
      exact Or.inl ⟨hne, d, (hu.get?_of_ne hne).trans hd, ha⟩

lemma nodup_types_initial : Registry.initial.types.keys.Nodup := by decide

/-- A type that is known and no builtin one can be unloaded, and no other. -/
lemma unload_eq_none_iff :
    reg.unload type = none ↔ type.isBuiltin = true ∨ reg.get? type = none := by
  rw [unload]
  split
  · rename_i hb
    exact iff_of_true rfl (Or.inl hb)
  · rename_i hb
    rw [Option.map_eq_none_iff, or_iff_right hb]

end Registry

/-- The key names the type or a known type that derives from it. -/
def Category.Names (reg : Registry) (type : TypeId) (c : Category) (k : c.Key) : Prop :=
  ∃ u, reg.Affected type u ∧ c.involves u k = true

namespace Session

variable {s s' : Session} {type : TypeId} {removed : Nat}

/-- No type has two entries in the registry. -/
lemma nodup_types_step (h : s.registry.types.keys.Nodup) (x : Step) :
    (s.step x).2.registry.types.keys.Nodup := by
  have htakes := takes_step s x
  generalize s.step x = result at htakes
  cases htakes with
  | @registered _ type _ _ hr =>
    obtain ⟨-, -, base, d, hreg⟩ := Registry.registered_of_register hr
    -- the new descriptor takes the place of an entry of its own type, if any
    obtain ⟨-, -, -, -, rfl, -⟩ :=
      Registry.register_eq_ok hr ((hreg.get? type).trans (if_pos rfl))
    exact Table.nodup_keys_insert h d.id d
  | @unloaded type _ _ _ hu =>
    rw [Registry.types_of_unload hu]
    exact Table.nodup_keys_erase h type
  | request r =>
    rw [run_snd]
    exact h
  | _ => exact h

lemma nodup_types_follow (h : s.registry.types.keys.Nodup) (xs : List Step) :
    (s.follow xs).2.registry.types.keys.Nodup := by
  induction xs generalizing s with
  | nil => exact h
  | cons x xs ih => exact ih (nodup_types_step h x)

open Classical in
/-- What unloading a type leaves of a session, and how many entries it says it has swept away. -/
structure Swept (s : Session) (type : TypeId) (removed : Nat) (s' : Session) : Prop where
  registry : ∀ t, s'.registry.get? t = if t = type then none else s.registry.get? t
  entries : ∀ c, (s'.state.caches.memo c).table.entries =
    (s.state.caches.memo c).table.entries.filter fun e => ¬ c.Names s.registry type e.1
  removed : removed = (Category.all.map fun c =>
    ((s.state.caches.memo c).table.entries.filter fun e => c.Names s.registry type e.1).length).sum
  hits : ∀ c, (s'.state.caches.memo c).hits = (s.state.caches.memo c).hits
  misses : ∀ c, (s'.state.caches.memo c).misses = (s.state.caches.memo c).misses
  none_left : ∀ c, ∀ k ∈ (s'.state.caches.memo c).table.keys, ∀ u, s.registry.Affected type u →
    c.involves u k = false

lemma unload_of_some {reg' : Registry} (h : s.registry.unload type = some reg') :
    s.unload type =
      let purged := s.state.caches.purge (reg'.descendants type ++ [type])
      .ok (purged.1,
        { s with registry := reg', state := { s.state with caches := purged.2 } }) := by
  rw [unload, h]
  rfl

lemma swept_of_unload {next : TypeId} (hv : s.registry.Valid next)
    (hkeys : s.registry.types.keys.Nodup) (h : s.unload type = .ok (removed, s')) :
    Swept s type removed s' := by
  classical
  obtain ⟨reg', hu, -⟩ := unload_eq_ok h
  rw [unload_of_some hu] at h
  obtain ⟨rfl, rfl⟩ := Prod.mk.inj (Except.ok.inj h)
  set types := reg'.descendants type ++ [type] with htypes
  -- the list that is purged is that of the affected types
  have hnames : ∀ (c : Category) (k : c.Key),
      types.any (c.involves · k) = true ↔ c.Names s.registry type k := by
    intro c k
    simp only [List.any_eq_true, htypes, Registry.mem_swept_iff hv hkeys hu, Category.Names]
  have hmemo := s.state.caches.memo_purge types
  have hentries : ∀ c, ((s.state.caches.purge types).2.memo c).table.entries =
      (s.state.caches.memo c).table.entries.filter fun e => ¬ c.Names s.registry type e.1 := by
    intro c
    rw [hmemo, Caches.purged, Memo.entries_purge]
    refine List.filter_congr fun e _ => ?_
    rw [Bool.eq_iff_iff, Bool.not_eq_true', ← Bool.not_eq_true, hnames, decide_eq_true_eq]
  refine ⟨(Registry.unloaded_of_unload hu).get?, hentries, ?_, fun c => ?_, fun c => ?_,
    fun c k hk u haffected => ?_⟩
  · -- the number
    refine (s.state.caches.purge_fst types).trans ?_
    refine congrArg List.sum (List.map_congr_left fun c _ => ?_)
    refine congrArg List.length (List.filter_congr fun e _ => ?_)
    rw [Bool.eq_iff_iff, hnames, decide_eq_true_eq]
  · -- the counters of each memo
    change ((s.state.caches.purge types).2.memo c).hits = _
    rw [hmemo, Caches.purged, Memo.purge]
  · change ((s.state.caches.purge types).2.memo c).misses = _
    rw [hmemo, Caches.purged, Memo.purge]
  · -- a key that is left names no affected type
    obtain ⟨e, he, rfl⟩ := List.mem_map.mp hk
    have hkept := (List.mem_filter.mp (hentries c ▸ he)).2
    exact Bool.eq_false_iff.mpr fun hinvolves =>
      of_decide_eq_true hkept ⟨u, haffected, hinvolves⟩

/-- Let the registry be one that any steps lead to, and the memos hold anything. If a type can be
unloaded, which are the known ones that are not builtin, then exactly the entries are swept whose
key names it or a known type that derives from it, and their number is told. Otherwise nothing
changes. -/
theorem unload_sweeps (config : Config) (xs : List Step) {s : Session}
    (hs : s.registry = (({ config } : Session).follow xs).2.registry) (type : TypeId) :
    (∀ removed s', s.unload type = .ok (removed, s') → Swept s type removed s') ∧
    (∀ e, s.unload type = .error e → e = .unknownType type ∧
      s.step (.unload type) = (.unloaded (.error e), s)) ∧
    ((∃ e, s.unload type = .error e) ↔
      type.isBuiltin = true ∨ s.registry.get? type = none) := by
  have horderly := (Orderly.start config).follow xs
  have hkeys : s.registry.types.keys.Nodup :=
    hs ▸ nodup_types_follow Registry.nodup_types_initial xs
  refine ⟨fun removed s' h => swept_of_unload (hs ▸ horderly.valid) hkeys h, fun e h => ?_, ?_⟩
  · -- nothing is purged before it is known that the type can be unloaded
    cases hu : s.registry.unload type with
    | none =>
      rw [unload, hu] at h
      cases h
      exact ⟨rfl, step_unload_of_none hu⟩
    | some reg' =>
      rw [unload, hu] at h
      cases h
  · rw [← Registry.unload_eq_none_iff, unload]
    cases s.registry.unload type with
    | none => exact iff_of_true ⟨_, rfl⟩ rfl
    | some reg' => exact iff_of_false (by rintro ⟨e, ⟨⟩⟩) (Option.some_ne_none _)

/-! ### Through a type that is gone -/

/-- The shape of a type with one field and no base but the root. -/
def agedShape (type : TypeId) (name : String) : Shape where
  id := type
  name := name
  base := some TypeId.object
  isValueType := false
  ancestors := [type, TypeId.object]
  slotNames := ["age"]
  staticNames := []

/-- A field that may be seen everywhere. -/
def ageSpec : MemberSpec :=
  .field { name := "age", type := TypeId.int, visibility := .everywhere }

/-- Three types, one derived from the other, and a keeper with a method that takes an instance of
the last of them. After the type in the middle is gone, the method and a getter are asked for, an
animal and a keeper are made, the age of the animal is set, and that of the keeper copied to it. -/
def kennelSteps : List Step :=
  let animal := Value.object (agedShape ⟨64⟩ "Animal") 0
  let keeper := Value.object (agedShape ⟨67⟩ "Keeper") 1
  [.register { name := "Animal", members := [ageSpec, .constructor { body := [] }] },
    .register { name := "Dog", base := ⟨64⟩ },
    .register { name := "Puppy", base := ⟨65⟩ },
    .register { name := "Keeper", members := [ageSpec, .constructor { body := [] }, .method {
      name := "Feed", params := [⟨⟨66⟩, false⟩], body := [] }] },
    .unload ⟨65⟩,
    .request (.method ⟨67⟩ "Feed" [⟨⟨66⟩, false⟩] .instanceAny),
    .request (.getter ⟨64⟩ (.single .field) "age" .instanceAny),
    .request (.create ⟨64⟩ none []),
    .request (.create ⟨67⟩ none []),
    .request (.setAll (.instance animal) [("age", .int 3)] none),
    .request (.copy keeper animal {})]

/-- The session after these steps. -/
def kennelSession : Session := (({} : Session).follow kennelSteps).2

/-- How many entries each category holds. -/
def entryCounts (s : Session) : List Nat :=
  Category.all.map fun c => (s.state.caches.memo c).size

/-- Unloading the first type sweeps what was looked up in it, the getter, the construction and the
batch setter for it and the copier to it, and the invoker of the method, which takes a type that
derives from it. What was looked up for the keeper and its construction remain. A type that is not
known cannot be unloaded. -/
theorem unload_sweeps_kennelSession : ∃ s',
    kennelSession.registry = (({} : Session).follow kennelSteps).2.registry ∧
    entryCounts kennelSession = [5, 1, 0, 2, 1, 0, 0, 1, 1] ∧
    kennelSession.unload ⟨64⟩ = .ok (8, s') ∧ Swept kennelSession ⟨64⟩ 8 s' ∧
    entryCounts s' = [2, 0, 0, 1, 0, 0, 0, 0, 0] ∧
    kennelSession.unload ⟨65⟩ = .error (.unknownType ⟨65⟩) ∧
    kennelSession.step (.unload ⟨65⟩) =
      (.unloaded (.error (.unknownType ⟨65⟩)), kennelSession) := by
  have hsession : kennelSession.registry = (({} : Session).follow kennelSteps).2.registry := by
    rw [kennelSession]
  have hsweeps := unload_sweeps {} kennelSteps hsession
  have hbefore : entryCounts kennelSession = [5, 1, 0, 2, 1, 0, 0, 1, 1] :=
    eq_of_beq (by decide +kernel)
  have hafter : ((kennelSession.unload ⟨64⟩).map fun r => (r.1, entryCounts r.2)).toOption =
      some (8, [2, 0, 0, 1, 0, 0, 0, 0, 0]) := eq_of_beq (by decide +kernel)
  have hunknown : kennelSession.registry.get? ⟨65⟩ = none :=
    Option.isNone_iff_eq_none.mp (by decide +kernel)
  obtain ⟨e, hgone⟩ := (hsweeps ⟨65⟩).2.2.mpr (Or.inr hunknown)
  obtain ⟨rfl, hstep⟩ := (hsweeps ⟨65⟩).2.1 e hgone
  cases hunload : kennelSession.unload ⟨64⟩ with
  | error e =>
    rw [hunload] at hafter
    cases hafter
  | ok r =>
    obtain ⟨removed, s'⟩ := r
    rw [hunload] at hafter
    obtain ⟨rfl, hcounts⟩ := Prod.mk.inj (Option.some.inj hafter)
    exact ⟨s', hsession, hbefore, rfl, (hsweeps ⟨64⟩).1 _ _ hunload, hcounts, hgone, hstep⟩

end Session

end LateBinding
