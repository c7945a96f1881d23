import LateBinding.Proofs.Lookup.Copying
import LateBinding.Proofs.Registry.Twins
import LateBinding.Proofs.Run.Binder

/-!
# Keys of several members

The key of a batch setter joins the names of its members, and the key of a copy lists for every pair
the kinds and names. What such a key leaves out, or what runs together in it, has to be told apart
by the names themselves.
-/

namespace LateBinding

/-- The members that hold a value under a name. -/
def Descriptor.values (d : Descriptor) : List Member :=
  d.members.filter fun m => KindSet.fieldsAndProperties.has m.kind

namespace Registry

variable {reg : Registry} {next source target type : TypeId} {q : Query} {m n : Member}
  {ms ns : List Member} {flags flags' : Flags} {names names' : List String} {o o' : CopyOptions}
  {pairs pairs' : List (Member × Member)}

/-! ### Found values -/

/-- A known type declares the member, which holds a value under a name. -/
def DeclaresValue (reg : Registry) (m : Member) : Prop :=
  ∃ d, reg.get? m.declaring = some d ∧ m ∈ d.values

lemma Along.declaresValue (hm : reg.Along type m) (hv : reg.Valid next)
    (hkind : KindSet.fieldsAndProperties.has m.kind = true) : reg.DeclaresValue m := by
  obtain ⟨d, hd, hmem⟩ := hm.declares hv
  exact ⟨d, hd, List.mem_filter.mpr ⟨hmem, hkind⟩⟩

lemma Valid.declaresValue_of_findEach (hv : reg.Valid next)
    (h : reg.findEach type flags names = .ok ms) (hm : m ∈ ms) : reg.DeclaresValue m := by
  obtain ⟨name, -, hfind⟩ := exists_of_mem_mapM h hm
  obtain ⟨halong, hkind⟩ := along_of_find hfind
  exact halong.declaresValue hv hkind

lemma Valid.declaresValue_of_copyPairs (hv : reg.Valid next)
    (h : reg.copyPairs source target o = .ok pairs) {pair : Member × Member}
    (hpair : pair ∈ pairs) : reg.DeclaresValue pair.1 ∧ reg.DeclaresValue pair.2 := by
  have hcopies := copies_of_copyPairs h pair hpair
  exact ⟨hcopies.source.declaresValue hv hcopies.source_kind,
    hcopies.target.declaresValue hv hcopies.target_kind⟩

end Registry

/-! ### Joined names -/

/-- The name can be told from what stands around it: it holds no comma, and it does not begin like
the text of an identifier. -/
def Member.StandsApart (m : Member) : Prop :=
  ',' ∉ m.name.toList ∧ m.name.toList.head? ≠ some '#'

instance (m : Member) : Decidable m.StandsApart :=
  inferInstanceAs (Decidable (',' ∉ m.name.toList ∧ m.name.toList.head? ≠ some '#'))

namespace CallKey

variable {target : TypeId} {m n : Member} {ms ns : List Member}

lemma toList_tag (t : TypeId) : t.tag.toList = '#' :: t.code.repr.toList := by
  simp only [TypeId.tag, String.toList_append]
  rfl

lemma toList_nameIn (target : TypeId) (m : Member) :
    (nameIn target m).toList =
      if m.declaring = target then m.name.toList
      else '#' :: (m.declaring.code.repr.toList ++ ':' :: ':' :: m.name.toList) := by
  rw [nameIn]
  split
  · rfl
  · rw [String.toList_append, String.toList_append, toList_tag, List.cons_append,
      List.cons_append, List.append_assoc]
    rfl

lemma isDigit_of_mem_repr {k : Nat} {c : Char} (h : c ∈ k.repr.toList) : c.isDigit = true := by
  rw [Nat.toList_repr] at h
  exact Nat.isDigit_of_mem_toDigits (by decide) (by decide) h

lemma toList_repr_inj {j k : Nat} (h : j.repr.toList = k.repr.toList) : j = k := by
  rw [Nat.toList_repr, Nat.toList_repr] at h
  have hnumber := congrArg (Nat.ofDigitChars 10 · 0) h
  simpa using hnumber

lemma takeWhile_digits (k : Nat) (rest : List Char) :
    (k.repr.toList ++ ':' :: rest).takeWhile Char.isDigit = k.repr.toList := by
  rw [List.takeWhile_append_of_pos fun c hc => isDigit_of_mem_repr hc,
    List.takeWhile_cons_of_neg (by decide), List.append_nil]

lemma nameIn_inj (hm : m.StandsApart) (hn : n.StandsApart)
    (h : nameIn target m = nameIn target n) : m.declaring = n.declaring ∧ m.name = n.name := by
  have hlist := congrArg String.toList h
  rw [toList_nameIn, toList_nameIn] at hlist
  by_cases hmt : m.declaring = target <;> by_cases hnt : n.declaring = target
  · -- both are the plain names
    rw [if_pos hmt, if_pos hnt] at hlist
    exact ⟨hmt.trans hnt.symm, String.toList_inj.mp hlist⟩
  · -- a plain name does not begin as one with a number in front
    rw [if_pos hmt, if_neg hnt] at hlist
    exact absurd (congrArg List.head? hlist) hm.2
  · rw [if_neg hmt, if_pos hnt] at hlist
    exact absurd (congrArg List.head? hlist).symm hn.2
  · -- the digits before the colon are the type, and the rest is the name
    rw [if_neg hmt, if_neg hnt, List.cons_inj_right] at hlist
    have hcode := congrArg (List.takeWhile Char.isDigit) hlist
    rw [takeWhile_digits, takeWhile_digits] at hcode
    rw [hcode, List.append_cancel_left_eq] at hlist
    refine ⟨TypeId.ext_iff.mpr (toList_repr_inj hcode), ?_⟩
    exact String.toList_inj.mp (by simpa using hlist)

lemma comma_not_mem_nameIn (hm : m.StandsApart) : ',' ∉ (nameIn target m).toList := by
  rw [toList_nameIn]
  split
  · exact hm.1
  · have hdigits : ',' ∉ m.declaring.code.repr.toList := fun hc =>
      absurd (isDigit_of_mem_repr hc) (by decide)
    simp only [List.mem_cons, List.mem_append, hdigits, hm.1]
    decide

lemma has_foldl_union (l : List KindSet) (k : KindSet) (kind : Kind) :
    (l.foldl KindSet.union k).has kind = (k.has kind || l.any (·.has kind)) := by
  induction l generalizing k with
  | nil => simp
  | cons a l ih => rw [List.foldl_cons, ih, KindSet.has_union, List.any_cons, Bool.or_assoc]

/-- The key of a batch setter has the kinds of its members. -/
lemma has_kinds_ofMembers (target : TypeId) (ms : List Member) (kind : Kind) :
    (ofMembers target ms).kinds.has kind = ms.any (·.kind == kind) := by
  have hempty : KindSet.empty.has kind = false := by cases kind <;> rfl
  simp only [ofMembers, has_foldl_union, hempty, Bool.false_or, List.any_map, Function.comp_def,
    KindSet.has_single]
  rfl

lemma eq_nil_of_ofMembers_eq_nil (h : ofMembers target ms = ofMembers target []) : ms = [] := by
  cases ms with
  | nil => rfl
  | cons m ms =>
    have hkind := has_kinds_ofMembers target (m :: ms) m.kind
    rw [h, has_kinds_ofMembers] at hkind
    simp at hkind

lemma splitOn_name_ofMembers (hne : ms ≠ []) (h : ∀ m ∈ ms, m.StandsApart) :
    (ofMembers target ms).name.toList.splitOn ',' =
      (ms.map (nameIn target)).map String.toList := by
  rw [ofMembers, String.toList_intercalate]
  refine List.splitOn_intercalate ',' (fun cs hcs => ?_) (by simpa using hne)
  obtain ⟨s, hs, rfl⟩ := List.mem_map.mp hcs
  obtain ⟨m, hm, rfl⟩ := List.mem_map.mp hs
  exact comma_not_mem_nameIn (h m hm)

/-- Names that stand apart can be read from the key of a batch setter. -/
lemma names_eq_of_ofMembers_eq (hms : ∀ m ∈ ms, m.StandsApart) (hns : ∀ n ∈ ns, n.StandsApart)
    (h : ofMembers target ms = ofMembers target ns) :
    ms.map (nameIn target) = ns.map (nameIn target) := by
  by_cases hm : ms = []
  · subst hm
    rw [eq_nil_of_ofMembers_eq_nil h.symm]
  · have hn : ns ≠ [] := fun hn => hm (eq_nil_of_ofMembers_eq_nil (hn ▸ h))
    have hsplit : (ofMembers target ms).name.toList.splitOn ',' =
        (ms.map (nameIn target)).map String.toList := splitOn_name_ofMembers hm hms
    rw [h, splitOn_name_ofMembers hn hns] at hsplit
    exact List.map_injective_iff.mpr (fun _ _ => String.toList_inj.mp) hsplit.symm

end CallKey

/-! ### Keys that tell -/

/-- Lists are equal if the images of their elements are, and an image tells what it is of. -/
lemma eq_of_map_eq {α β : Type} {f : α → β} {xs ys : List α}
    (hf : ∀ x ∈ xs, ∀ y ∈ ys, f x = f y → x = y) (h : xs.map f = ys.map f) : xs = ys := by
  induction xs generalizing ys with
  | nil => exact (List.map_eq_nil_iff.mp h.symm).symm
  | cons x xs ih =>
    cases ys with
    | nil => cases h
    | cons y ys =>
      obtain ⟨hxy, h⟩ := List.cons.inj h
      rw [hf x List.mem_cons_self y List.mem_cons_self hxy, ih (fun x' hx y' hy =>
        hf x' (List.mem_cons_of_mem x hx) y' (List.mem_cons_of_mem y hy)) h]

/-- The scopes of the two members of a pair. -/
def scopes (pair : Member × Member) : Bool × Bool := (pair.1.isStatic, pair.2.isStatic)

namespace Registry

variable {reg : Registry} {next source target type : TypeId} {m n : Member} {ms ns : List Member}
  {flags flags' : Flags} {names names' : List String} {o o' : CopyOptions}
  {pairs pairs' : List (Member × Member)}

/-- Fields and properties can be told by their names, within a type and where names are joined. -/
def PlainNames (reg : Registry) : Prop :=
  ∀ t d, reg.get? t = some d → (d.values.map (·.name)).Nodup ∧ ∀ m ∈ d.values, m.StandsApart

lemma plainNames_of_forall_values (h : ∀ d ∈ reg.types.values,
    (d.values.map (·.name)).Nodup ∧ ∀ m ∈ d.values, m.StandsApart) : reg.PlainNames :=
  fun _ d hd => h d (Table.mem_values_of_get? hd)

/-- Fields can be told by their names within a type, and so can properties. -/
def PlainKinds (reg : Registry) : Prop :=
  ∀ t d, reg.get? t = some d → (d.values.map fun m => (m.kind, m.name)).Nodup

lemma plainKinds_of_forall_values
    (h : ∀ d ∈ reg.types.values, (d.values.map fun m => (m.kind, m.name)).Nodup) :
    reg.PlainKinds :=
  fun _ d hd => h d (Table.mem_values_of_get? hd)

/-- Values that are declared by the same type can be told by whatever differs among those of a
type. -/
lemma DeclaresValue.eq_of {α : Type} {f : Member → α} (hm : reg.DeclaresValue m)
    (hn : reg.DeclaresValue n) (hnodup : ∀ t d, reg.get? t = some d → (d.values.map f).Nodup)
    (hdeclaring : m.declaring = n.declaring) (h : f m = f n) : m = n := by
  obtain ⟨d, hd, hm⟩ := hm
  obtain ⟨e, he, hn⟩ := hn
  rw [← hdeclaring, hd, Option.some.injEq] at he
  subst he
  exact List.inj_on_of_nodup_map (hnodup _ d hd) hm hn h

/-- With plain names the key of a batch setter tells the members that it serves. -/
lemma PlainNames.eq_of_key (h : reg.PlainNames) (hv : reg.Valid next)
    (hms : reg.findEach type flags names = .ok ms)
    (hns : reg.findEach type flags' names' = .ok ns)
    (hkey : CallKey.ofMembers type ms = .ofMembers type ns) : ms = ns := by
  have hapart : ∀ {m : Member}, reg.DeclaresValue m → m.StandsApart := by
    rintro m ⟨d, hd, hm⟩
    exact (h _ d hd).2 m hm
  have hm : ∀ m ∈ ms, reg.DeclaresValue m := fun m hm => hv.declaresValue_of_findEach hms hm
  have hn : ∀ n ∈ ns, reg.DeclaresValue n := fun n hn => hv.declaresValue_of_findEach hns hn
  refine eq_of_map_eq (fun m hmem n hnmem hname => ?_) (CallKey.names_eq_of_ofMembers_eq
    (fun m hmem => hapart (hm m hmem)) (fun n hmem => hapart (hn n hmem)) hkey)
  obtain ⟨hdeclaring, hname⟩ :=
    CallKey.nameIn_inj (hapart (hm m hmem)) (hapart (hn n hnmem)) hname
  exact (hm m hmem).eq_of (hn n hnmem) (fun t d hd => (h t d hd).1) hdeclaring hname

/-- Without twins, values that are declared by the same type can be told by kind, name and scope. -/
lemma NoTwins.eq_of_values (h : reg.NoTwins) (hv : reg.Valid next) (hm : reg.DeclaresValue m)
    (hn : reg.DeclaresValue n) (hdeclaring : m.declaring = n.declaring) (hkind : m.kind = n.kind)
    (hname : m.name = n.name) (hscope : m.isStatic = n.isStatic) : m = n := by
  obtain ⟨d, hd, hm⟩ := hm
  obtain ⟨e, he, hn⟩ := hn
  obtain ⟨hm, hmkind⟩ := List.mem_filter.mp hm
  obtain ⟨hn, hnkind⟩ := List.mem_filter.mp hn
  refine h.sole ⟨e, he, hn⟩ m ⟨d, hd, hm⟩ hdeclaring ?_
  rw [Member.mark, Member.mark, hkind, hname, hscope, hv.params hd hm hmkind,
    hv.params he hn hnkind]

/-- Without twins the key of a copy, together with the scopes of the members, tells the pairs that
it goes through. -/
lemma NoTwins.eq_of_pairsKey (h : reg.NoTwins) (hv : reg.Valid next)
    (hpairs : reg.copyPairs source target o = .ok pairs)
    (hpairs' : reg.copyPairs source target o' = .ok pairs')
    (hkey : CopyKey.ofPairs source target o pairs = .ofPairs source target o' pairs')
    (hscopes : pairs.map scopes = pairs'.map scopes) : pairs = pairs' := by
  have hboth := congrArg₂ List.zip (congrArg CopyKey.pairs hkey) hscopes
  simp only [CopyKey.ofPairs, List.zip_map'] at hboth
  refine eq_of_map_eq (fun p hp p' hp' hpair => ?_) hboth
  obtain ⟨hs, ht⟩ := hv.declaresValue_of_copyPairs hpairs hp
  obtain ⟨hs', ht'⟩ := hv.declaresValue_of_copyPairs hpairs' hp'
  obtain ⟨hpair, hscope⟩ := Prod.mk.inj hpair
  obtain ⟨hsscope, htscope⟩ := Prod.mk.inj hscope
  injection hpair with hsdeclaring hskind hsname htdeclaring htkind htname
  exact Prod.ext (h.eq_of_values hv hs hs' hsdeclaring hskind hsname hsscope)
    (h.eq_of_values hv ht ht' htdeclaring htkind htname htscope)

/-- With plain kinds the key of a copy tells the pairs that it goes through. -/
lemma PlainKinds.eq_of_key (h : reg.PlainKinds) (hv : reg.Valid next)
    (hpairs : reg.copyPairs source target o = .ok pairs)
    (hpairs' : reg.copyPairs source target o' = .ok pairs')
    (hkey : CopyKey.ofPairs source target o pairs = .ofPairs source target o' pairs') :
    pairs = pairs' := by
  refine eq_of_map_eq (fun p hp p' hp' hpair => ?_) (congrArg CopyKey.pairs hkey)
  obtain ⟨hs, ht⟩ := hv.declaresValue_of_copyPairs hpairs hp
  obtain ⟨hs', ht'⟩ := hv.declaresValue_of_copyPairs hpairs' hp'
  injection hpair with hsdeclaring hskind hsname htdeclaring htkind htname
  exact Prod.ext (hs.eq_of hs' h hsdeclaring (Prod.ext hskind hsname))
    (ht.eq_of ht' h htdeclaring (Prod.ext htkind htname))

end Registry

end LateBinding
