import Mathlib.Algebra.BigOperators.Group.List.Lemmas
import Mathlib.Algebra.BigOperators.Ring.List
import Mathlib.Algebra.Ring.Nat
import Mathlib.Data.Set.Function
import LateBinding.Proofs.Store.Elements

/-!
# The row-major order

The offsets of an array number the lists of indices that fit its dimensions, in lexicographic
order and without gaps. If the lengths of the dimensions can be multiplied in machine words, one
after the other, then no offset and nothing on the way to one leaves the words, whatever the
indices are.

Indices are signed, so that in a dimension of more than `2 ^ 63` places some have no index. This
matters to no array that is there: a vector holds less than `2 ^ 63` elements.

Main statement: `ArrayShape.offset_rowMajor`.
-/

namespace LateBinding

/-! ### Words that must not overflow -/

/-- The product of two words, if it is a word. -/
def product? (a b : UInt64) : Option UInt64 :=
  if a.toBitVec.umulOverflow b.toBitVec then none else some (a * b)

/-- The sum of two words, if it is a word. -/
def sum? (a b : UInt64) : Option UInt64 :=
  if a.toBitVec.uaddOverflow b.toBitVec then none else some (a + b)

section Words

variable {a b c : UInt64}

lemma product?_eq_some_iff :
    product? a b = some c ↔ a.toNat * b.toNat < 2 ^ 64 ∧ a * b = c := by
  simp [product?, BitVec.umulOverflow]

lemma sum?_eq_some_iff : sum? a b = some c ↔ a.toNat + b.toNat < 2 ^ 64 ∧ a + b = c := by
  simp [sum?, BitVec.uaddOverflow]

lemma toNat_of_product? (h : product? a b = some c) : c.toNat = a.toNat * b.toNat := by
  obtain ⟨hlt, rfl⟩ := product?_eq_some_iff.mp h
  rw [UInt64.toNat_mul, Nat.mod_eq_of_lt hlt]

lemma toNat_of_sum? (h : sum? a b = some c) : c.toNat = a.toNat + b.toNat := by
  obtain ⟨hlt, rfl⟩ := sum?_eq_some_iff.mp h
  rw [UInt64.toNat_add, Nat.mod_eq_of_lt hlt]

end Words

namespace ArrayShape

variable {shape : ArrayShape} {dims : List UInt64} {is js : List Int64} {n : UInt64}

/-! ### The number of elements -/

/-- The number of elements, if the lengths of the dimensions can be multiplied in words, from the
first one to the last one. -/
def size? (s : ArrayShape) : Option UInt64 := s.dims.foldlM product? 1

lemma exists_of_foldlM_cons {total length : UInt64}
    (h : (length :: dims).foldlM product? total = some n) :
    ∃ next, product? total length = some next ∧ dims.foldlM product? next = some n := by
  rw [List.foldlM_cons] at h
  exact Option.bind_eq_some_iff.mp h

lemma foldl_of_foldlM {total : UInt64} (h : dims.foldlM product? total = some n) :
    dims.foldl (· * ·) total = n := by
  induction dims generalizing total with
  | nil => exact Option.some.inj h
  | cons length dims ih =>
    obtain ⟨next, hnext, hrest⟩ := exists_of_foldlM_cons h
    rw [List.foldl_cons, (product?_eq_some_iff.mp hnext).2, ih hrest]

lemma toNat_of_foldlM {total : UInt64} (h : dims.foldlM product? total = some n) :
    n.toNat = total.toNat * volume dims := by
  induction dims generalizing total with
  | nil =>
    obtain rfl : total = n := Option.some.inj h
    rw [volume_nil, Nat.mul_one]
  | cons length dims ih =>
    obtain ⟨next, hnext, hrest⟩ := exists_of_foldlM_cons h
    rw [ih hrest, toNat_of_product? hnext, volume_cons, Nat.mul_assoc]

lemma toNat_of_size? (h : shape.size? = some n) : n.toNat = volume shape.dims := by
  rw [toNat_of_foldlM h, UInt64.toNat_one, Nat.one_mul]

lemma volume_pos (h : 0 ∉ dims) : 0 < volume dims := by
  refine Nat.pos_of_ne_zero (List.prod_ne_zero fun hmem => h ?_)
  obtain ⟨length, hlength, hzero⟩ := List.mem_map.mp hmem
  obtain rfl : length = 0 := UInt64.toNat_inj.mp hzero
  exact hlength

/-- A new array holds as many elements as its dimensions say. -/
theorem holdsArray_newArray (h : shape.size? = some n) (st : Store) (fill : Value) :
    (st.newArray shape fill).2.HoldsArray shape st.nextRef := by
  have hlength : ((st.newArray shape fill).2.cell st.nextRef).length = n.toNat := by
    rw [Store.newArray, Store.cell_addCell_nextRef, List.length_replicate, size,
      foldl_of_foldlM h]
  exact ⟨hlength.trans (toNat_of_size? h), hlength ▸ n.toNat_lt⟩

/-! ### Offsets without overflow -/

/-- Goes on with an offset as `offsetFrom` does, but has no answer if a product or a sum on the way
is no word. -/
def offsetFrom? (offset : UInt64) : List UInt64 → List Int64 → Option (Except Fault UInt64)
  | length :: dims, i :: indices =>
    if i < 0 ∨ length ≤ i.toUInt64 then
      some (throw (.indexOutOfRange i length.toNat))
    else do
      let row ← product? offset length
      let next ← sum? row i.toUInt64
      offsetFrom? next dims indices
  | _, _ => some (pure offset)

/-- The place of an element in the row-major order, if it is computed without overflow. -/
def offset? (s : ArrayShape) (indices : List Int64) : Option (Except Fault UInt64) :=
  if indices.length = s.rank then
    offsetFrom? 0 s.dims indices
  else
    some (throw (.refused (.rank s.rank indices.length)))

/-- Nothing that is left to do overflows, as long as the offset is below the product of the lengths
that have been passed. -/
lemma offsetFrom?_eq {offset total : UInt64} (hn : dims.foldlM product? total = some n)
    (hlt : offset.toNat < total.toNat) (indices : List Int64) :
    offsetFrom? offset dims indices = some (offsetFrom offset dims indices) := by
  induction dims generalizing offset total indices with
  | nil => cases indices <;> rfl
  | cons length dims ih =>
    cases indices with
    | nil => rfl
    | cons i indices =>
      rw [offsetFrom?, offsetFrom]
      by_cases hi : i < 0 ∨ length ≤ i.toUInt64
      · rw [if_pos hi, if_pos hi]
      · rw [if_neg hi, if_neg hi]
        obtain ⟨next, hnext, hrest⟩ := exists_of_foldlM_cons hn
        -- the next offset is below the next product, which is a word
        have hplace : i.toUInt64.toNat < length.toNat :=
          UInt64.lt_iff_toNat_lt.mp (UInt64.not_le.mp fun h => hi (Or.inr h))
        have hbelow : offset.toNat * length.toNat + i.toUInt64.toNat < next.toNat :=
          calc offset.toNat * length.toNat + i.toUInt64.toNat
              < offset.toNat * length.toNat + length.toNat := Nat.add_lt_add_left hplace _
            _ = (offset.toNat + 1) * length.toNat := (Nat.succ_mul _ _).symm
            _ ≤ total.toNat * length.toNat := Nat.mul_le_mul_right _ hlt
            _ = next.toNat := (toNat_of_product? hnext).symm
        have hword := Nat.lt_trans hbelow next.toNat_lt
        have hrow : product? offset length = some (offset * length) :=
          product?_eq_some_iff.mpr ⟨Nat.lt_of_le_of_lt (Nat.le_add_right _ _) hword, rfl⟩
        rw [← toNat_of_product? hrow] at hword hbelow
        have hsum : sum? (offset * length) i.toUInt64 = some (offset * length + i.toUInt64) :=
          sum?_eq_some_iff.mpr ⟨hword, rfl⟩
        rw [← toNat_of_sum? hsum] at hbelow
        rw [hrow, Option.bind_eq_bind, Option.bind_some, hsum, Option.bind_some]
        exact ih hrest hbelow indices

lemma offset?_eq (hn : shape.size? = some n) (indices : List Int64) :
    shape.offset? indices = some (shape.offset indices) := by
  rw [offset?, offset]
  by_cases hlength : indices.length = shape.rank
  · rw [if_pos hlength, if_pos hlength, offsetFrom?_eq hn (by decide)]
  · rw [if_neg hlength, if_neg hlength]

/-! ### Lists of indices in lexicographic order -/

lemma row_lt_row_iff {a b p q width : Nat} (hp : p < width) (hq : q < width) :
    a * width + p < b * width + q ↔ a < b ∨ a = b ∧ p < q := by
  rcases Nat.lt_trichotomy a b with h | rfl | h
  · have hrow : (a + 1) * width ≤ b * width := Nat.mul_le_mul_right _ h
    rw [Nat.succ_mul] at hrow
    omega
  · omega
  · have hrow : (b + 1) * width ≤ a * width := Nat.mul_le_mul_right _ h
    rw [Nat.succ_mul] at hrow
    omega

/-- Elements stand in the lexicographic order of their indices. -/
lemma position_lt_position_iff (hi : Fits dims is) (hj : Fits dims js) :
    position dims is < position dims js ↔ List.Lex (· < ·) is js := by
  induction hi generalizing js with
  | nil =>
    cases hj
    exact ⟨fun h => absurd h (Nat.lt_irrefl _), fun h => absurd h List.not_lex_nil⟩
  | @cons length i dims is hi his ih =>
    cases hj with
    | @cons _ j _ js hj hjs =>
      have hrows : i.toInt.toNat < j.toInt.toNat ↔ i < j := by
        rw [Int64.lt_iff_toInt_lt]
        have := hi.1
        have := hj.1
        omega
      have hrow : i.toInt.toNat = j.toInt.toNat ↔ i = j := by
        rw [← Int64.toInt_inj]
        have := hi.1
        have := hj.1
        omega
      rw [position, position, row_lt_row_iff (Fits.position_lt his) (Fits.position_lt hjs), hrows,
        hrow, ih hjs, List.cons_lex_cons_iff]

/-- The places that a signed word can count have their indices. -/
lemma InRange.exists_of_lt {place : Nat} {length : UInt64} (h : place < length.toNat)
    (hlength : length.toNat ≤ 2 ^ 63) : ∃ i, InRange i length ∧ i.toInt.toNat = place := by
  have hword : place < 2 ^ 63 := Nat.lt_of_lt_of_le h hlength
  have hi := Int64.toInt_ofNat_of_lt hword
  exact ⟨Int64.ofNat place, ⟨by omega, by omega⟩, by omega⟩

/-- If the places of each dimension have their indices, then so have all elements. -/
lemma exists_position (hdims : ∀ length ∈ dims, length.toNat ≤ 2 ^ 63) {place : Nat}
    (h : place < volume dims) : ∃ is, Fits dims is ∧ position dims is = place := by
  induction dims generalizing place with
  | nil =>
    rw [volume_nil] at h
    exact ⟨[], .nil, (Nat.lt_one_iff.mp h).symm⟩
  | cons length dims ih =>
    rw [volume_cons] at h
    have hpos : 0 < volume dims := Nat.pos_of_mul_pos_left (Nat.zero_lt_of_lt h)
    -- the row is the quotient and the place in the row the remainder
    obtain ⟨i, hi, hrow⟩ := InRange.exists_of_lt ((Nat.div_lt_iff_lt_mul hpos).mpr h)
      (hdims length List.mem_cons_self)
    obtain ⟨is, his, hrest⟩ := ih (fun l hl => hdims l (List.mem_cons_of_mem _ hl))
      (Nat.mod_lt place hpos)
    exact ⟨i :: is, .cons hi his, by rw [position, hrow, hrest, Nat.div_add_mod']⟩

/-- The last element has the last index in every dimension, and that is a signed word. -/
lemma Fits.le_of_last (h : Fits dims is) (hlast : position dims is + 1 = volume dims) :
    ∀ length ∈ dims, length.toNat ≤ 2 ^ 63 := by
  induction h with
  | nil => nofun
  | @cons length i dims is hi his ih =>
    have hrest := Fits.position_lt his
    have hrow : i.toInt.toNat + 1 ≤ length.toNat := by
      obtain ⟨h0, hlt⟩ := hi
      omega
    have hrows : (i.toInt.toNat + 1) * volume dims ≤ length.toNat * volume dims :=
      Nat.mul_le_mul_right _ hrow
    rw [volume_cons, position] at hlast
    rw [Nat.succ_mul] at hrows
    -- the last element lies in the last row, at the last place of it
    have htail : position dims is + 1 = volume dims := by omega
    have hlength : i.toInt.toNat + 1 = length.toNat := by
      refine Nat.eq_of_mul_eq_mul_right (Nat.zero_lt_of_lt hrest) ?_
      rw [Nat.succ_mul]
      omega
    intro l hl
    rcases List.mem_cons.mp hl with rfl | hl
    · have hsigned := i.toInt_lt
      rw [← hlength]
      omega
    · exact ih htail l hl

/-! ### What offsets tell -/

/-- What is wrong with indices that denote no element: their number, or else the first one that is
not in the range of its dimension. -/
inductive Rejects (shape : ArrayShape) : List Int64 → Fault → Prop where
  | number {is : List Int64} (h : is.length ≠ shape.rank) :
      Rejects shape is (.refused (.rank shape.rank is.length))
  | outside {before : List UInt64} {length : UInt64} {after : List UInt64} {is : List Int64}
      {i : Int64} {is' : List Int64} (hdims : shape.dims = before ++ length :: after)
      (hlength : (is ++ i :: is').length = shape.rank) (hbefore : Fits before is)
      (hi : ¬ InRange i length) :
      Rejects shape (is ++ i :: is') (.indexOutOfRange i length.toNat)

lemma fits_or_rejects (shape : ArrayShape) (is : List Int64) :
    Fits shape.dims is ∨ ∃ e, shape.Rejects is e := by
  by_cases hlength : is.length = shape.rank
  · rcases fits_or_outside hlength with hfits | ⟨_, _, _, _, _, _, hdims, rfl, hbefore, hi⟩
    · exact Or.inl hfits
    · exact Or.inr ⟨_, .outside hdims hlength hbefore hi⟩
  · exact Or.inr ⟨_, .number hlength⟩

lemma offset_of_rejects {e : Fault} (h : shape.Rejects is e) : shape.offset is = .error e := by
  cases h with
  | number h =>
    rw [offset, if_neg h]
    rfl
  | outside hdims hlength hbefore hi =>
    rw [offset, if_pos hlength, hdims, offsetFrom_of_outside hbefore hi]

lemma offset_of_fits (hn : shape.size? = some n) (h : Fits shape.dims is) :
    ∃ o, shape.offset is = .ok o ∧ o.toNat = position shape.dims is := by
  have hbound : ((0 : UInt64).toNat + 1) * volume shape.dims ≤ 2 ^ 64 := by
    rw [UInt64.toNat_zero, Nat.zero_add, Nat.one_mul, ← toNat_of_size? hn]
    exact Nat.le_of_lt n.toNat_lt
  obtain ⟨o, ho, hposition⟩ := offsetFrom_of_fits h hbound
  rw [UInt64.toNat_zero, Nat.zero_mul, Nat.zero_add] at hposition
  have hrank : is.length = shape.rank := h.length_eq.symm
  exact ⟨o, by rw [offset, if_pos hrank, ho], hposition⟩

/-- Exactly the lists that fit have an offset, and it is their position. -/
lemma offset_eq_ok_iff (hn : shape.size? = some n) {o : UInt64} :
    shape.offset is = .ok o ↔ Fits shape.dims is ∧ o.toNat = position shape.dims is := by
  rcases shape.fits_or_rejects is with hfits | ⟨e, he⟩
  · obtain ⟨p, hp, hposition⟩ := offset_of_fits hn hfits
    rw [hp, Except.ok.injEq, ← hposition, UInt64.toNat_inj]
    exact ⟨fun h => ⟨hfits, h.symm⟩, fun h => h.2.symm⟩
  · refine ⟨fun h => ?_, fun ⟨hfits, _⟩ => ?_⟩
    · rw [offset_of_rejects he] at h
      cases h
    · obtain ⟨p, hp, -⟩ := offset_of_fits hn hfits
      rw [offset_of_rejects he] at hp
      cases hp

lemma offset_mapsTo (hn : shape.size? = some n) :
    Set.MapsTo shape.offset {is | Fits shape.dims is} (Except.ok '' {o | o < n}) := by
  intro is his
  obtain ⟨o, ho, hposition⟩ := offset_of_fits hn his
  refine ⟨o, UInt64.lt_iff_toNat_lt.mpr ?_, ho.symm⟩
  rw [hposition, toNat_of_size? hn]
  exact Fits.position_lt his

lemma offset_injOn (hn : shape.size? = some n) :
    Set.InjOn shape.offset {is | Fits shape.dims is} := by
  intro is his js hjs heq
  obtain ⟨o, ho, hi⟩ := offset_of_fits hn his
  obtain ⟨-, hj⟩ := (offset_eq_ok_iff hn).mp (heq.symm.trans ho)
  exact position_injective his hjs (hi.symm.trans hj)

/-- All elements have their indices: there are none, or no dimension has more places than a signed
word can count. -/
def Indexable (s : ArrayShape) : Prop := 0 ∈ s.dims ∨ ∀ length ∈ s.dims, length.toNat ≤ 2 ^ 63

/-- What a vector can hold is indexable: it has less than `2 ^ 63` elements. -/
lemma indexable_of_lt (hn : shape.size? = some n) (hlt : n.toNat < 2 ^ 63) : shape.Indexable := by
  by_cases hzero : 0 ∈ shape.dims
  · exact Or.inl hzero
  · refine Or.inr fun length hmem => ?_
    have hle := Nat.le_of_dvd (volume_pos hzero) (List.dvd_prod (List.mem_map_of_mem hmem))
    rw [← toNat_of_size? hn] at hle
    exact Nat.le_of_lt (Nat.lt_of_le_of_lt hle hlt)

lemma Indexable.surjOn (h : shape.Indexable) (hn : shape.size? = some n) :
    Set.SurjOn shape.offset {is | Fits shape.dims is} (Except.ok '' {o | o < n}) := by
  rintro _ ⟨o, ho, rfl⟩
  have hplace : o.toNat < volume shape.dims := toNat_of_size? hn ▸ UInt64.lt_iff_toNat_lt.mp ho
  rcases h with hzero | hdims
  · have hnone : volume shape.dims = 0 := List.prod_eq_zero (List.mem_map_of_mem hzero)
    rw [hnone] at hplace
    exact absurd hplace (Nat.not_lt_zero _)
  · obtain ⟨is, his, hposition⟩ := exists_position hdims hplace
    exact ⟨is, his, (offset_eq_ok_iff hn).mpr ⟨his, hposition.symm⟩⟩

/-- If offsets reach the last element, then all elements have their indices. -/
lemma indexable_of_surjOn (hn : shape.size? = some n)
    (h : Set.SurjOn shape.offset {is | Fits shape.dims is} (Except.ok '' {o | o < n})) :
    shape.Indexable := by
  by_cases hzero : 0 ∈ shape.dims
  · exact Or.inl hzero
  · have hvolume := toNat_of_size? hn
    have hpos := volume_pos hzero
    have hlast : (n - 1).toNat = n.toNat - 1 :=
      UInt64.toNat_sub_of_le _ _ (UInt64.le_iff_toNat_le.mpr (hvolume ▸ hpos))
    obtain ⟨is, his, ho⟩ := h ⟨n - 1, UInt64.lt_iff_toNat_lt.mpr (by omega), rfl⟩
    obtain ⟨-, hposition⟩ := (offset_eq_ok_iff hn).mp ho
    exact Or.inr (Fits.le_of_last his (by omega))

/-- If the lengths of the dimensions can be multiplied in words, then no list of indices makes an
offset overflow. The lists that fit go one to one to the numbers below the product, in
lexicographic order. They reach all of these exactly if the shape is indexable, which it is
whenever a vector can hold the elements. Every other list is rejected for the first thing that is
wrong with it. -/
theorem offset_rowMajor (hn : shape.size? = some n) :
    (∀ is, shape.offset? is = some (shape.offset is)) ∧
    Set.MapsTo shape.offset {is | Fits shape.dims is} (Except.ok '' {o | o < n}) ∧
    Set.InjOn shape.offset {is | Fits shape.dims is} ∧
    (Set.BijOn shape.offset {is | Fits shape.dims is} (Except.ok '' {o | o < n}) ↔
      shape.Indexable) ∧
    (n.toNat < 2 ^ 63 → shape.Indexable) ∧
    (∀ is js o p, shape.offset is = .ok o → shape.offset js = .ok p →
      (o < p ↔ List.Lex (· < ·) is js)) ∧
    ∀ is, ¬ Fits shape.dims is → ∃ e, shape.Rejects is e ∧ shape.offset is = .error e := by
  refine ⟨offset?_eq hn, offset_mapsTo hn, offset_injOn hn,
    ⟨fun h => indexable_of_surjOn hn h.surjOn,
      fun h => ⟨offset_mapsTo hn, offset_injOn hn, h.surjOn hn⟩⟩,
    indexable_of_lt hn, fun is js o p ho hp => ?_, fun is his => ?_⟩
  · obtain ⟨his, ho⟩ := (offset_eq_ok_iff hn).mp ho
    obtain ⟨hjs, hp⟩ := (offset_eq_ok_iff hn).mp hp
    rw [UInt64.lt_iff_toNat_lt, ho, hp, position_lt_position_iff his hjs]
  · obtain ⟨e, he⟩ := (shape.fits_or_rejects is).resolve_left his
    exact ⟨e, he, offset_of_rejects he⟩

/-- Two layers of three rows with four places each. -/
def layeredShape : ArrayShape := ⟨TypeId.int, true, [2, 3, 4]⟩

/-- Its offsets are the numbers below 24, up to that of the last place. Of two wrong indices the
first one is told. -/
theorem offset_rowMajor_layeredShape :
    layeredShape.size? = some 24 ∧
      Set.BijOn layeredShape.offset {is | Fits layeredShape.dims is}
        (Except.ok '' {o | o < 24}) ∧
      layeredShape.offset? [1, 2, 3] = some (.ok 23) ∧
      layeredShape.offset [1, 3, -1] = .error (.indexOutOfRange 3 3) := by
  have hn : layeredShape.size? = some 24 := by decide
  obtain ⟨hsafe, -, -, hbijective, hheld, -, -⟩ := offset_rowMajor hn
  exact ⟨hn, hbijective.mpr (hheld (by decide)), (hsafe _).trans rfl, rfl⟩

end ArrayShape

end LateBinding
