import LateBinding.Proofs.Invoker.Bodiless
import LateBinding.Proofs.Registry.Consistent
import LateBinding.Proofs.Registry.Twins
import LateBinding.Proofs.Run.Kept

/-!
# What keys stand for

An invoker is made from members along the chains of types that its key names: from one member, from
none if it goes to array elements, and a batch setter or a copier from several. Whatever is
remembered was made from such members, and as long as it is remembered their chains are known. So if
no member that a key can stand for has a body, what is remembered under the key has none either.

Main statements: `Fetches.bodiless` and `kept_bodilessSound`.
-/

namespace LateBinding

open Run

variable {reg reg' : Registry} {config : Config} {next target : TypeId} {m : Member}
  {c : Category} {key : c.Key} {cs cs' : Caches}

namespace Registry

/-! ### Chains that stay -/

namespace SameChain

variable (h : reg.SameChain reg' target)
include h

lemma chain {levels : List Descriptor} (hc : reg.Chain target levels) :
    reg'.Chain target levels := by
  obtain ⟨d, hd, ha⟩ := hc
  exact ⟨d, h.self.trans hd, (List.map_congr_left (h.ancestors hd)).trans ha⟩

lemma along (hm : reg.Along target m) : reg'.Along target m := by
  obtain ⟨levels, hc, d, hd, hmem⟩ := hm
  exact ⟨levels, h.chain hc, d, hd, hmem⟩

end SameChain

/-! ### Members without bodies -/

/-- No native body is run on behalf of the member: it has none itself, and if it is a constructor,
the constructors along the chain that take nothing have none. -/
structure WithoutBody (reg : Registry) (target : TypeId) (m : Member) : Prop where
  own : m.body.Bodiless
  above : m.kind = .constructor → ∀ n, reg.Along target n → n.kind = .constructor →
    n.params = [] → n.body.Bodiless

lemma AllBodiless.withoutBody (h : reg.AllBodiless) (hm : reg.Along target m) :
    reg.WithoutBody target m := by
  have hall : ∀ {n}, reg.Along target n → n.body.Bodiless := by
    rintro n ⟨levels, hc, d, hd, hmem⟩
    obtain ⟨t, ht⟩ := hc.exists_get?_of_mem hd
    exact h ht hmem
  exact ⟨hall hm, fun _ _ hn _ _ => hall hn⟩

/-- If the member has no body as its chain is known now, it had none before. -/
lemma SameChain.withoutBody (h : reg.SameChain reg' target) (hm : reg'.WithoutBody target m) :
    reg.WithoutBody target m :=
  ⟨hm.own, fun hkind n hn => hm.above hkind n (h.along hn)⟩

/-- A search finds only constructors of the type itself. -/
lemma Consistent.declaring_of_find {q : Query} (hc : reg.Consistent) (hv : reg.Valid next)
    (h : reg.find target q = .ok m) (hkind : m.kind = .constructor) : m.declaring = target := by
  obtain ⟨levels, ⟨e, he, hmap⟩, d, i, hd, hm, hl⟩ := lists_of_find h
  -- constructors are listed at the first level only, and this is the type itself
  have hi : i = 0 := hl.1.own_of_constructor hkind
  subst hi
  have hfirst : levels[0]? = some d := List.mem_zipIdx_iff_getElem?.mp hd
  have hhead : (e.ancestors.map reg.get?).head? = some (some d) := by
    rw [hmap, List.head?_map, List.head?_eq_getElem?, hfirst]
    rfl
  rw [List.head?_map, hc.head he] at hhead
  exact hv.declaring (Option.some.inj hhead) hm

/-! ### Members that a key stands for -/

/-- The member is one of those that an invoker can be made from that is asked for under the key, and
it is asked for on the type. -/
inductive StandsFor (reg : Registry) : (c : Category) → c.Key → TypeId → Member → Prop where
  | invoker (sort : InvokerSort) {target : TypeId} {m : Member} (h : reg.Along target m) :
      StandsFor reg sort.category (sort.key (.ofMember target m)) target m
  | batchSetter {target : TypeId} {ms : List Member} (h : ∀ n ∈ ms, reg.Along target n)
      {m : Member} (hm : m ∈ ms) : StandsFor reg .batchSetters (.ofMembers target ms) target m
  | copier {source target : TypeId} (o : CopyOptions) {pairs : List (Member × Member)}
      (h : ∀ pair ∈ pairs, reg.Along source pair.1 ∧ reg.Along target pair.2)
      {pair : Member × Member} (hpair : pair ∈ pairs) {part : TypeId × Member}
      (hpart : part = (source, pair.1) ∨ part = (target, pair.2)) :
      StandsFor reg .copiers (.ofPairs source target o pairs) part.1 part.2

/-- No member that the key can stand for has a body. -/
def WithoutBodies (reg : Registry) (c : Category) (key : c.Key) : Prop :=
  ∀ target m, reg.StandsFor c key target m → reg.WithoutBody target m

lemma StandsFor.along (h : reg.StandsFor c key target m) : reg.Along target m := by
  cases h with
  | invoker sort h => exact h
  | batchSetter h hm => exact h m hm
  | copier o h hpair hpart =>
    rcases hpart with rfl | rfl
    · exact (h _ hpair).1
    · exact (h _ hpair).2

/-- The key of a single invoker is the key of the member that it stands for. -/
lemma StandsFor.eq_ofMember {sort : InvokerSort} {k : CallKey}
    (h : reg.StandsFor sort.category (sort.key k) target m) : k = .ofMember target m := by
  have hcases : ∀ {c : Category} {key : c.Key}, reg.StandsFor c key target m →
      match c, key with
      | .getters, k | .setters, k | .constructors, k | .methods, k | .indexReaders, k
      | .indexWriters, k => k = CallKey.ofMember target m
      | _, _ => True := by
    intro c key h
    cases h with
    | invoker sort h => cases sort <;> rfl
    | batchSetter h hm => trivial
    | copier o h hpair hpart => trivial
  have heq := hcases h
  cases sort <;> exact heq

/-- The key of a member that has no twin stands for this member only. -/
theorem WithoutBody.withoutBodies (hm : reg.WithoutBody target m) (hv : reg.Valid next)
    (hsole : reg.Sole m) (sort : InvokerSort) :
    reg.WithoutBodies sort.category (sort.key (.ofMember target m)) := by
  intro type n hn
  obtain ⟨rfl, -, -⟩ := CallKey.ofMember_eq_iff.mp hn.eq_ofMember
  obtain rfl := hsole.eq_of_key (hn.along.declares hv) hn.eq_ofMember
  exact hm

/-- The key of the access to array elements stands for no member. -/
theorem Valid.withoutBodies_ofRank (hv : reg.Valid next) (sort : InvokerSort) (rank : Nat) :
    reg.WithoutBodies sort.category (sort.key (.ofRank rank)) := fun type _ hn =>
  absurd hn.eq_ofMember.symm (hv.ofMember_ne_ofRank (hn.along.declares hv) type rank)

lemma AllBodiless.withoutBodies (h : reg.AllBodiless) (c : Category) (key : c.Key) :
    reg.WithoutBodies c key := fun _ _ hm => h.withoutBody hm.along

/-- If the chains of all types are the same that the key names, the key stands for the same members,
and they had no bodies before if they have none now. -/
lemma WithoutBodies.of_sameChain (h : reg'.WithoutBodies c key)
    (hsame : ∀ type, c.involves type key = true → (∃ m, reg.Along type m) →
      reg.SameChain reg' type) : reg.WithoutBodies c key := by
  intro target m hm
  cases hm with
  | invoker sort hm =>
    have hchain : reg.SameChain reg' target := by
      refine hsame target ?_ ⟨m, hm⟩
      cases sort <;> simp [Category.involves, InvokerSort.key, CallKey.involves, CallKey.ofMember]
    exact hchain.withoutBody (h target m (.invoker sort (hchain.along hm)))
  | batchSetter hms hm =>
    have hchain : reg.SameChain reg' target :=
      hsame target (by simp [Category.involves, CallKey.involves, CallKey.ofMembers])
        ⟨m, hms m hm⟩
    exact hchain.withoutBody
      (h target m (.batchSetter (fun n hn => hchain.along (hms n hn)) hm))
  | @copier source target o pairs hpairs pair hpair part hpart =>
    -- both chains are the same as before, so are the pairs along them
    have hsource : reg.SameChain reg' source :=
      hsame source (by simp [Category.involves, CopyKey.involves, CopyKey.ofPairs])
        ⟨_, (hpairs pair hpair).1⟩
    have htarget : reg.SameChain reg' target :=
      hsame target (by simp [Category.involves, CopyKey.involves, CopyKey.ofPairs])
        ⟨_, (hpairs pair hpair).2⟩
    have hbody := h _ _ (.copier o (fun p hp =>
      ⟨hsource.along (hpairs p hp).1, htarget.along (hpairs p hp).2⟩) hpair hpart)
    rcases hpart with rfl | rfl
    · exact hsource.withoutBody hbody
    · exact htarget.withoutBody hbody

end Registry

/-! ### Making an invoker -/

lemma Construction.kind_of_ofMember {x : Construction} (h : ofMember reg m = .ok x) :
    m.kind = .constructor := by
  rw [ofMember] at h
  rw [Member.kind]
  generalize m.body = body at h
  cases body with
  | constructor body => rfl
  | _ => cases h

/-- What is made for a found member without a body has none. -/
lemma InvokerSort.bodiless_of_find (hv : reg.Valid next) (hc : reg.Consistent) {q : Query}
    (hfind : reg.find target q = .ok m) (hm : reg.WithoutBody target m) {sort : InvokerSort}
    {x : sort.Item} (hx : sort.compile reg target m = .ok x) : sort.category.Bodiless x := by
  cases sort with
  | getter => exact Getter.bodiless hm.own hx
  | setter => exact Setter.bodiless hm.own hx
  | method => exact Method.bodiless hm.own hx
  | constructor =>
    have hkind : m.kind = .constructor := Construction.kind_of_ofMember hx
    obtain ⟨levels, hchain⟩ := Registry.exists_chain_of_find hfind
    obtain ⟨e, he, hmap⟩ := id hchain
    refine Construction.bodiless (fun d hd a ha b hb n hn => ?_) hm.own hx
    rw [hc.declaring_of_find hv hfind hkind, he] at hd
    obtain rfl := Option.some.inj hd
    -- what the ancestors bring is declared along the chain of the target
    have hlevel : some b ∈ levels.map some := hmap ▸ hb ▸ List.mem_map_of_mem ha
    obtain ⟨b', hb', heq⟩ := List.mem_map.mp hlevel
    obtain rfl := Option.some.inj heq
    exact hm.above hkind n ⟨levels, hchain, b', hb', hn⟩
  | indexReader => exact absurd hx (IndexReader.not_ofMember hm.own)
  | indexWriter => exact absurd hx (IndexWriter.not_ofMember hm.own)

/-- What the binder makes has no body if no member has one that the key can stand for. -/
lemma Fetches.bodiless {make : Unit → Except Fault c.Item} {x : c.Item} (hv : reg.Valid next)
    (hc : reg.Consistent) (h : Fetches reg config c key make) (hx : make () = .ok x)
    (hkey : reg.WithoutBodies c key) : c.Bodiless x := by
  cases h with
  | @invoker sort type m h =>
    obtain ⟨q, -, hfind⟩ := h
    have hm := hkey type m (.invoker sort (Registry.along_of_find hfind).1)
    exact InvokerSort.bodiless_of_find hv hc hfind hm hx
  | elementReader rank => exact ⟨rank, (Except.ok.inj hx).symm⟩
  | elementWriter rank => exact ⟨rank, (Except.ok.inj hx).symm⟩
  | @batchSetter type flags names ms hms =>
    have halong : ∀ m ∈ ms, reg.Along type m := by
      intro m hm
      obtain ⟨name, -, hfind⟩ := exists_of_mem_mapM hms hm
      exact (Registry.along_of_find hfind).1
    obtain ⟨setters, hsetters, rfl⟩ := exists_of_map_eq_ok hx
    intro s hs
    obtain ⟨m, hm, hmade⟩ := exists_of_mem_mapM hsetters hs
    exact Setter.bodiless (hkey type m (.batchSetter halong hm)).own hmade
  | @copier source target o pairs hpairs =>
    have halong := Registry.along_of_copyPairs hpairs
    obtain ⟨steps, hsteps, rfl⟩ := exists_of_map_eq_ok hx
    intro step hstep
    obtain ⟨pair, hpair, hmade⟩ := exists_of_mem_mapM hsteps hstep
    obtain ⟨getter, hgetter, hmade⟩ := exists_of_bind_eq_ok hmade
    obtain ⟨setter, hsetter, hmade⟩ := exists_of_bind_eq_ok hmade
    cases hmade
    exact ⟨Getter.bodiless (hkey _ _ (.copier o halong hpair (.inl rfl))).own hgetter,
      Setter.bodiless (hkey _ _ (.copier o halong hpair (.inr rfl))).own hsetter⟩

/-! ### What is remembered -/

/-- What is remembered beside lookups has no body if no member has one that its key can stand
for. -/
def BodilessSound (reg : Registry) (cs : Caches) : Prop :=
  cs.All fun c key x => reg.WithoutBodies c key → c.Bodiless x

namespace BodilessSound

lemma registered {spec : TypeSpec} {base d : Descriptor} (h : BodilessSound reg cs)
    (hv : reg.Valid next) (hr : reg.Registered spec next base d reg') : BodilessSound reg' cs := by
  refine fun c key held hc hk hkey => h c key held hc hk (hkey.of_sameChain fun type _ hm => ?_)
  obtain ⟨m, levels, ⟨e, he, -⟩, -⟩ := hm
  exact hr.sameChain hv (hv.allocated he)

lemma unloaded {type : TypeId} (h : BodilessSound reg cs) (hv : reg.Valid next)
    (hu : reg.Unloaded type reg') :
    BodilessSound reg' (cs.purge (reg'.descendants type ++ [type])).2 := by
  intro c key held hc hk hkey
  obtain ⟨hk, hkept⟩ := Caches.get?_of_get?_purge hk
  refine h c key held hc hk (hkey.of_sameChain fun t ht _ => hu.sameChain hv fun hmem => ?_)
  rw [hkept t hmem] at ht
  cases ht

end BodilessSound

/-- Whatever a request does, what is remembered stays as it has to be. -/
lemma kept_bodilessSound (hv : reg.Valid next) (hc : reg.Consistent) (config : Config) :
    Kept reg config fun s =>
      s.store.nextType = next ∧ LookupsSound reg s.caches ∧ BodilessSound reg s.caches :=
  kept_beside next (fun hmemo h => Caches.All.congr h hmemo) fun hf hg h =>
    Caches.All.fetch h hg fun _ hx hkey => hf.bodiless hv hc hx hkey

end LateBinding
