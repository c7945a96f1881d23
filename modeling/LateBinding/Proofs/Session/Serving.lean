import LateBinding.Proofs.Invoker.Outdated
import LateBinding.Proofs.Registry.Twins
import LateBinding.Proofs.Session.Asked

/-!
# Whom a remembered invoker serves

An invoker is remembered under the key of its member, and whoever finds a member with this key gets
it. As long as nothing is unloaded, everybody is served as by a fresh invoker exactly if members
that share a key lead to invokers that do the same. Where no type declares twins, no two members
share a key.

Main statement: `serves_iff_keysTell`.
-/

namespace LateBinding

open Run

variable {reg : Registry} {config : Config} {sort : InvokerSort} {type : TypeId} {q : Query}
  {m n : Member}

/-! ### Being served -/

/-- What is got when an invoker is asked for is as if it was made now: it does the same, or there is
the same fault. -/
inductive AsFresh {α : Type} (Alike : α → α → Prop) :
    Except Fault (Stamped α) → Except Fault α → Prop where
  | ok {held : Stamped α} {fresh : α} (h : Alike held.value fresh) :
      AsFresh Alike (.ok held) (.ok fresh)
  | error (e : Fault) : AsFresh Alike (.error e) (.error e)

lemma AsFresh.alike {α : Type} {Alike : α → α → Prop} {held : Stamped α} {fresh : α}
    (h : AsFresh Alike (.ok held) (.ok fresh)) : Alike held.value fresh := by
  cases h with
  | ok h => exact h

/-- Whoever finds a member gets an invoker that does what one does that is made for this member. -/
structure Session.Serves (s : Session) : Prop where
  getter : ∀ {type kinds name flags m},
    (s.run (·.member type { kinds, name := some name, flags })).1 = .ok m →
      AsFresh (InvokerSort.getter.Alike s.registry) (s.run (·.getter type kinds name flags)).1
        (Getter.ofMember s.registry type m)
  setter : ∀ {type kinds name flags m},
    (s.run (·.member type { kinds, name := some name, flags })).1 = .ok m →
      AsFresh (InvokerSort.setter.Alike s.registry) (s.run (·.setter type kinds name flags)).1
        (Setter.ofMember s.registry type m)
  method : ∀ {type name params flags m},
    (s.run (·.member type { kinds := .single .method, name := some name, flags,
                            signature := .exact params })).1 = .ok m →
      AsFresh (InvokerSort.method.Alike s.registry)
        (s.run (·.method type name (.exact params) flags)).1 (Method.ofMember s.registry type m)
  constructor : ∀ {type params m},
    (s.run (·.member type { kinds := .single .constructor, name := some constructorName,
                            flags := .instanceAny, signature := .exact params })).1 = .ok m →
      AsFresh (InvokerSort.constructor.Alike s.registry)
        (s.run (·.constructor type (.exact params))).1 (Construction.ofMember s.registry m)

/-- Of two members that share a key, where the one may be found by any request and the other one by
an exact one, the invokers do the same. -/
def Registry.KeysTell (reg : Registry) (config : Config) : Prop :=
  ∀ {sort type m q n x}, reg.Finds config sort type m → AsksExactly sort type q →
    reg.find type q = .ok n → CallKey.ofMember type m = .ofMember type n →
    sort.compile reg type m = .ok x → ∃ y, sort.compile reg type n = .ok y ∧ sort.Alike reg x y

/-- Without twins, members that share a key are the same. -/
lemma Registry.NoTwins.keysTell {next : TypeId} (h : reg.NoTwins) (hv : reg.Valid next)
    (config : Config) : reg.KeysTell config := by
  rintro sort type m q n x ⟨q', -, hm⟩ - hn hkey hx
  obtain rfl := h.eq_of_key (hv.declares_of_find hm) (hv.declares_of_find hn) hkey
  exact ⟨x, hx, .refl reg x⟩

namespace Session

variable {s s' : Session}

/-- To be served means the same for all sorts of invokers that can be asked for exactly. -/
lemma serves_iff : s.Serves ↔ ∀ {sort type q m}, AsksExactly sort type q →
    (s.run (·.member type q)).1 = .ok m →
      AsFresh (sort.Alike s.registry) (s.run (·.obtain sort type q)).1
        (sort.compile s.registry type m) := by
  constructor
  · intro h sort type q m hq
    cases hq with
    | getter => exact h.getter
    | setter => exact h.setter
    | method => exact h.method
    | constructor => exact h.constructor
  · intro h
    exact ⟨h (.getter _ _ _ _), h (.setter _ _ _ _), h (.method _ _ _ _), h (.constructor _ _)⟩

/-! ### Keys that tell are enough -/

variable {gone : List TypeId}

lemma run_fst_eq_ok {α : Type} {operation : Binder → Run α} {a : α}
    (h : (s.run operation).1 = .ok a) : ∃ t, operation s.binder s.state = .ok a t := by
  rw [run_fst] at h
  exact ⟨_, answer_eq_ok h⟩

/-- Resolving a member is searching for it. -/
lemma Sound.find_eq_of_member (hs : Sound gone s) (hq : q.signature.OfRequest)
    (h : (s.run (·.member type q)).1 = .ok m) : s.registry.find type q = .ok m := by
  obtain ⟨t, ht⟩ := run_fst_eq_ok h
  obtain ⟨s', -, -, heq⟩ := Binder.member_eq hs.caches.lookups hq s.config s.binder.native type
  have hrun := heq.symm.trans ht
  cases hfind : s.registry.find type q with
  | ok n =>
    rw [hfind] at hrun
    cases hrun
    rfl
  | error e =>
    rw [hfind] at hrun
    cases hrun

lemma Sound.member_of_find_eq (hs : Sound gone s) (hq : q.signature.OfRequest)
    (h : s.registry.find type q = .ok m) : (s.run (·.member type q)).1 = .ok m := by
  obtain ⟨s', -, -, heq⟩ := Binder.member_eq hs.caches.lookups hq s.config s.binder.native type
  rw [h] at heq
  have hrun : s.binder.member type q s.state = .ok m s' := heq
  simp only [Session.run, hrun]

/-- What is got for a member: what is remembered under its key, or else a fresh invoker. -/
lemma Sound.obtain_eq (hs : Sound gone s) (hq : q.signature.OfRequest)
    (hfind : s.registry.find type q = .ok m) (sort : InvokerSort) :
    ∃ r, (s.run (·.obtain sort type q)).1 = r ∧
      match sort.held? s.state.caches (.ofMember type m), r with
      | some held, r => r = .ok held
      | none, .ok held => sort.compile s.registry type m = .ok held.value
      | none, .error e => sort.compile s.registry type m = .error e := by
  obtain ⟨s', hs', -, heq⟩ :=
    Binder.obtain_eq hs.caches.lookups hq hfind s.config s.binder.native sort
  obtain ⟨r, hr, hfetch⟩ := fetch_cases sort.category (sort.key (.ofMember type m))
    (fun _ => sort.compile s.registry type m) s'
  rw [hfetch] at heq
  have hrun : s.binder.obtain sort type q s.state = _ := heq
  have hheld := InvokerSort.held?_of_memo_eq (hs'.memo sort.category_ne_lookups)
    (CallKey.ofMember type m)
  rw [← hheld]
  refine ⟨_, rfl, ?_⟩
  simp only [Session.run, hrun]
  rw [InvokerSort.held?]
  cases hr with
  | hit h => simp only [h]
  | stored h hmade => simp only [h, hmade]
  | failed h hmade => simp only [h, hmade]

/-- If keys tell members apart as far as their invokers do, everybody is served. -/
lemma Sound.serves (hs : Sound [] s) (hkeys : s.registry.KeysTell s.config) : s.Serves := by
  rw [serves_iff]
  intro sort type q n hq hn
  have hfind := hs.find_eq_of_member (hq.asks s.config).ofRequest hn
  obtain ⟨r, hr, hcases⟩ := hs.obtain_eq (hq.asks s.config).ofRequest hfind sort
  rw [hr]
  cases hheld : sort.held? s.state.caches (.ofMember type n) with
  | none =>
    rw [hheld] at hcases
    cases r with
    | ok held =>
      rw [hcases]
      exact .ok (.refl _ _)
    | error e =>
      rw [hcases]
      exact .error e
  | some held =>
    rw [hheld] at hcases
    simp only at hcases
    subst hcases
    rcases hs.caches.invokers sort _ held hheld with ⟨rank, hrank⟩ | ⟨m, hm⟩
    · exact absurd hrank (hs.valid.ofMember_ne_ofRank (hs.valid.declares_of_find hfind) type rank)
    · -- a cached invoker has been made for a member with this key, which the keys tell apart
      have hmade := hm.made
      rw [hm.current (by simp)] at hmade
      obtain ⟨y, hy, halike⟩ := hkeys hm.found hq hfind hm.key.symm hmade
      have hfresh : sort.compile s.registry type n = .ok y := hy
      rw [hfresh]
      exact .ok halike

/-! ### Keys that tell are needed -/

/-- If everybody is always served, keys tell members apart as far as their invokers do: the invoker
of the one member can have been asked for before anything else. -/
lemma Reached.keysTell (h : Reached [] s)
    (hserves : ∀ s', Reached [] s' → s'.registry = s.registry → s'.config = s.config →
      s'.Serves) : s.registry.KeysTell s.config := by
  intro sort type m q n x hm hq hn hkey hx
  obtain ⟨s', held, h', hreg, hconfig, hheld, rfl⟩ := h.exists_held hq hm hx
  have hserved := serves_iff.mp (hserves s' h' hreg hconfig) hq
    (h'.sound.member_of_find_eq (hq.asks s'.config).ofRequest (hreg ▸ hn))
  obtain ⟨r, hr, hcases⟩ := h'.sound.obtain_eq (hq.asks s'.config).ofRequest (hreg ▸ hn) sort
  rw [← hkey, hheld] at hcases
  simp only at hcases
  subst hcases
  rw [hr, hreg] at hserved
  generalize hfresh : sort.compile s.registry type n = fresh at hserved
  cases hserved with
  | ok halike => exact ⟨_, rfl, halike⟩

/-- As long as nothing is unloaded, everybody is always served exactly if members that share a key
lead to invokers that do the same; and so they do where no type declares twins. -/
theorem serves_iff_keysTell (h : Reached [] s) :
    ((∀ s', Reached [] s' → s'.registry = s.registry → s'.config = s.config → s'.Serves) ↔
      s.registry.KeysTell s.config) ∧ (s.registry.NoTwins → s.registry.KeysTell s.config) := by
  refine ⟨⟨h.keysTell, fun hkeys s' h' hreg hconfig => ?_⟩, fun htwins => ?_⟩
  · exact h'.sound.serves (hreg ▸ hconfig ▸ hkeys)
  · exact htwins.keysTell h.sound.valid s.config

/-! ### A private field and a public one -/

/-- A type with a private field and a public one. -/
def pairSpec (shown : String) : TypeSpec where
  name := "Pair"
  members := [
    .field { name := "x", type := TypeId.int, initial := some (.int 1) },
    .field { name := shown, type := TypeId.int, visibility := .everywhere,
             initial := some (.int 2) }]

/-- The request for the getter of the private field. -/
def pairRequest : Request :=
  .getter ⟨64⟩ (.single .field) "x" { nonPublics := true, instances := true }

/-- The session in which the private field has been asked for. -/
def pairSession (shown : String) : Session :=
  let s := (({} : Session).step (.register (pairSpec shown))).2
  (s.run fun b => pairRequest.perform b).2

lemma reached_pairSession (shown : String) : Reached [] (pairSession shown) :=
  ((Reached.start {}).step_register (of_decide_eq_true rfl)).request pairRequest

/-- With different names everybody is always served. -/
theorem serves_pairSession :
    (pairSession "y").registry.NoTwins ∧ ∀ s', Reached [] s' →
      s'.registry = (pairSession "y").registry → s'.config = (pairSession "y").config →
        s'.Serves := by
  have htwins : (pairSession "y").registry.NoTwins :=
    Registry.noTwins_of_forall_values (by decide)
  obtain ⟨hserves, htell⟩ := serves_iff_keysTell (reached_pairSession "y")
  exact ⟨htwins, hserves.mpr (htell htwins)⟩

/-- With equal names, who may see the public field alone gets to the private one. -/
theorem not_serves_pairSession :
    Reached [] (pairSession "x") ∧ ¬ (pairSession "x").Serves := by
  refine ⟨reached_pairSession "x", fun h => ?_⟩
  have hserved := @h.getter ⟨64⟩ (.single .field) "x" { publics := true, instances := true } _ rfl
  have halike := AsFresh.alike hserved
  have hrun := congrFun (halike .idle (.object (.bare ⟨64⟩ false) 0))
    { store := ({} : Store).addCell [.int 1, .int 2] }
  cases hrun

end Session

end LateBinding
