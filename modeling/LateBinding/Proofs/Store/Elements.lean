import Mathlib.Algebra.BigOperators.Group.List.Basic
import Mathlib.Data.List.Forall2
import LateBinding.Invoker.Run
import LateBinding.Proofs.Except
import LateBinding.Proofs.Store.Plan

/-!
# Array elements

The elements of an array stand row by row in its cell. A list of indices denotes an element if it
has one index for each dimension and each lies in its range; different lists denote different
elements, and no machine word overflows on the way to one. If something is wrong with the indices,
the first thing that is decides on the fault.

Main statements: `ArrayShape.position_injective`, `locateElement_of_denotes`,
`locateElement_of_misses`, `Store.putElement_eq_error_iff`.
-/

namespace LateBinding

/-- The index is in the range of a dimension. -/
def InRange (i : Int64) (length : UInt64) : Prop := 0 ≤ i.toInt ∧ i.toInt < length.toNat

instance (i : Int64) (length : UInt64) : Decidable (InRange i length) :=
  inferInstanceAs (Decidable (_ ∧ _))

lemma toNat_toUInt64_of_nonneg {i : Int64} (h : 0 ≤ i.toInt) :
    (i.toUInt64.toNat : Int) = i.toInt := by
  have hbits : i.toInt = (i.toUInt64.toNat : Int).bmod (2 ^ 64) := BitVec.toInt_eq_toNat_bmod _
  have hlt : i.toUInt64.toNat < 2 ^ 64 := i.toUInt64.toNat_lt
  rw [Int.bmod_def] at hbits
  omega

/-- What is refused of an index are exactly those outside the range. -/
lemma outside_iff {i : Int64} {length : UInt64} :
    (i < 0 ∨ length ≤ i.toUInt64) ↔ ¬ InRange i length := by
  rw [Int64.lt_iff_toInt_lt, UInt64.le_iff_toNat_le, InRange, Int64.toInt_zero]
  by_cases h : 0 ≤ i.toInt
  · have hcast := toNat_toUInt64_of_nonneg h
    omega
  · omega

namespace ArrayShape

variable {shape : ArrayShape} {dims : List UInt64} {indices js : List Int64}

/-! ### Positions -/

/-- The number of elements of some dimensions. -/
def volume (dims : List UInt64) : Nat := (dims.map UInt64.toNat).prod

/-- The number of the elements that come before one in the row-major order. -/
def position : List UInt64 → List Int64 → Nat
  | _ :: dims, i :: indices => i.toInt.toNat * volume dims + position dims indices
  | _, _ => 0

@[simp] lemma volume_nil : volume [] = 1 := rfl

@[simp] lemma volume_cons (length : UInt64) (dims : List UInt64) :
    volume (length :: dims) = length.toNat * volume dims := by
  simp [volume]

/-- One index for each dimension, each in its range. -/
abbrev Fits (dims : List UInt64) (indices : List Int64) : Prop :=
  List.Forall₂ (fun length i => InRange i length) dims indices

lemma Fits.position_lt (h : Fits dims indices) : position dims indices < volume dims := by
  induction h with
  | nil => exact Nat.one_pos
  | @cons length i dims indices hi _ ih =>
    have hrow : i.toInt.toNat + 1 ≤ length.toNat := by
      obtain ⟨h0, hlt⟩ := hi
      omega
    calc i.toInt.toNat * volume dims + position dims indices
        < i.toInt.toNat * volume dims + volume dims := Nat.add_lt_add_left ih _
      _ = (i.toInt.toNat + 1) * volume dims := (Nat.succ_mul _ _).symm
      _ ≤ length.toNat * volume dims := Nat.mul_le_mul_right _ hrow
      _ = volume (length :: dims) := (volume_cons length dims).symm

/-- Different lists of indices denote different elements. -/
theorem position_injective (hi : Fits dims indices) (hj : Fits dims js)
    (h : position dims indices = position dims js) : indices = js := by
  induction hi generalizing js with
  | nil =>
    cases hj
    rfl
  | @cons length i dims indices hi htail ih =>
    cases hj with
    | @cons _ j _ js hj hjs =>
      have hlt := Fits.position_lt htail
      have hlt' := Fits.position_lt hjs
      have hpos : 0 < volume dims := Nat.zero_lt_of_lt hlt
      change i.toInt.toNat * volume dims + position dims indices =
        j.toInt.toNat * volume dims + position dims js at h
      -- the row is the quotient and the place in the row the remainder
      have hrow : i.toInt.toNat = j.toInt.toNat := by
        have hdiv := congrArg (· / volume dims) h
        simpa [Nat.mul_comm _ (volume dims), Nat.mul_add_div hpos, Nat.div_eq_of_lt hlt,
          Nat.div_eq_of_lt hlt'] using hdiv
      have hsame : i = j := Int64.toInt_inj.mp (by have := hi.1; have := hj.1; omega)
      rw [hrow] at h
      rw [hsame, ih hjs (Nat.add_left_cancel h)]

/-! ### Offsets -/

/-- As long as all elements can be counted in a word, the offset is the position. -/
lemma offsetFrom_of_fits (h : Fits dims indices) {offset : UInt64}
    (hbound : (offset.toNat + 1) * volume dims ≤ 2 ^ 64) :
    ∃ o, offsetFrom offset dims indices = .ok o ∧
      o.toNat = offset.toNat * volume dims + position dims indices := by
  induction h generalizing offset with
  | nil => exact ⟨offset, by simp [offsetFrom, pure, Except.pure], by simp [position]⟩
  | @cons length i dims indices hi htail ih =>
    have hpos : 0 < volume dims := Nat.zero_lt_of_lt (Fits.position_lt htail)
    have hcast := toNat_toUInt64_of_nonneg hi.1
    -- the row lies within the array
    have hrow : offset.toNat * length.toNat + i.toUInt64.toNat + 1 ≤
        (offset.toNat + 1) * length.toNat := by
      rw [Nat.succ_mul]
      have := hi.2
      omega
    have hnext : (offset.toNat * length.toNat + i.toUInt64.toNat + 1) * volume dims ≤ 2 ^ 64 := by
      refine Nat.le_trans (Nat.mul_le_mul_right _ hrow) ?_
      rwa [Nat.mul_assoc, ← volume_cons]
    -- so neither the product nor the sum overflows
    have hword : (offset * length + i.toUInt64).toNat =
        offset.toNat * length.toNat + i.toUInt64.toNat := by
      have hlt := Nat.le_trans (Nat.le_mul_of_pos_right _ hpos) hnext
      rw [UInt64.toNat_add, UInt64.toNat_mul, Nat.mod_add_mod, Nat.mod_eq_of_lt hlt]
    rw [← hword] at hnext
    obtain ⟨o, ho, hposition⟩ := ih hnext
    refine ⟨o, ?_, ?_⟩
    · rw [offsetFrom, if_neg (fun h => outside_iff.mp h hi), ho]
    · have hnat : i.toInt.toNat = i.toUInt64.toNat := by omega
      rw [hposition, hword, volume_cons, position, hnat, Nat.add_mul, Nat.mul_assoc,
        Nat.add_assoc]

/-- The first index that is not in its range is a fault. -/
lemma offsetFrom_of_outside {before : List UInt64} {length : UInt64} {after : List UInt64}
    {is : List Int64} {i : Int64} {is' : List Int64} (hbefore : Fits before is)
    (hi : ¬ InRange i length) (offset : UInt64) :
    offsetFrom offset (before ++ length :: after) (is ++ i :: is') =
      .error (.indexOutOfRange i length.toNat) := by
  induction hbefore generalizing offset with
  | nil =>
    rw [List.nil_append, List.nil_append, offsetFrom, if_pos (outside_iff.mpr hi)]
    rfl
  | @cons d j _ _ hj _ ih =>
    rw [List.cons_append, List.cons_append, offsetFrom,
      if_neg (fun h => outside_iff.mp h hj), ih]

/-- With an index for each dimension, all are in their range or there is a first one that is
not. -/
lemma fits_or_outside (h : indices.length = dims.length) :
    Fits dims indices ∨ ∃ before length after is i is', dims = before ++ length :: after ∧
      indices = is ++ i :: is' ∧ Fits before is ∧ ¬ InRange i length := by
  induction dims generalizing indices with
  | nil =>
    obtain rfl := List.length_eq_zero_iff.mp h
    exact Or.inl .nil
  | cons length dims ih =>
    obtain ⟨i, indices, rfl⟩ := List.exists_cons_of_length_eq_add_one h
    by_cases hi : InRange i length
    · rcases ih (Nat.succ.inj h) with hfits | ⟨before, l, after, is, j, is', rfl, rfl, hfits, hj⟩
      · exact Or.inl (.cons hi hfits)
      · exact Or.inr ⟨length :: before, l, after, i :: is, j, is', rfl, rfl, .cons hi hfits, hj⟩
    · exact Or.inr ⟨[], length, dims, [], i, indices, rfl, rfl, .nil, hi⟩

/-! ### What indices denote -/

/-- The values are numbers and denote an element. -/
structure Denotes (shape : ArrayShape) (indices : List Value) (is : List Int64) : Prop where
  numbers : indices = is.map .int
  fits : Fits shape.dims is

/-- The values denote some element. -/
def Admits (shape : ArrayShape) (indices : List Value) : Prop := ∃ is, shape.Denotes indices is

/-- What is wrong with indices that denote no element: their number, or else the first one that is
no number, or else the first one that is not in the range of its dimension. -/
inductive Misses (shape : ArrayShape) : List Value → Fault → Prop where
  | number {indices : List Value} (h : indices.length ≠ shape.rank) :
      Misses shape indices (.refused (.elementRank shape.rank indices.length))
  | noInt {is : List Int64} {v : Value} {rest : List Value}
      (hlength : (is.map Value.int ++ v :: rest).length = shape.rank) (hv : v.asInt? = none) :
      Misses shape (is.map Value.int ++ v :: rest) (.mismatch "int" v.typeName)
  | outside {before : List UInt64} {length : UInt64} {after : List UInt64} {is : List Int64}
      {i : Int64} {is' : List Int64} (hdims : shape.dims = before ++ length :: after)
      (hlength : (is ++ i :: is').length = shape.rank) (hbefore : Fits before is)
      (hi : ¬ InRange i length) :
      Misses shape ((is ++ i :: is').map Value.int) (.indexOutOfRange i length.toNat)

lemma numbers_or_noInt (indices : List Value) :
    (∃ is : List Int64, indices = is.map .int) ∨
      ∃ (is : List Int64) (v : Value) (rest : List Value),
        indices = is.map Value.int ++ v :: rest ∧ v.asInt? = none := by
  induction indices with
  | nil => exact Or.inl ⟨[], rfl⟩
  | cons v indices ih =>
    cases hv : v.asInt? with
    | none => exact Or.inr ⟨[], v, indices, rfl, hv⟩
    | some i =>
      obtain rfl : v = .int i := by
        cases v <;> cases hv
        rfl
      rcases ih with ⟨is, rfl⟩ | ⟨is, w, rest, rfl, hw⟩
      · exact Or.inl ⟨i :: is, rfl⟩
      · exact Or.inr ⟨i :: is, w, rest, rfl, hw⟩

theorem denotes_or_misses (shape : ArrayShape) (indices : List Value) :
    shape.Admits indices ∨ ∃ e, shape.Misses indices e := by
  by_cases hlength : indices.length = shape.rank
  · rcases numbers_or_noInt indices with ⟨is, rfl⟩ | ⟨is, v, rest, rfl, hv⟩
    · rw [List.length_map] at hlength
      rcases fits_or_outside hlength with hfits | ⟨_, l, _, _, i, _, hdims, rfl, hfits, hi⟩
      · exact Or.inl ⟨is, rfl, hfits⟩
      · exact Or.inr ⟨_, .outside hdims hlength hfits hi⟩
    · exact Or.inr ⟨_, .noInt hlength hv⟩
  · exact Or.inr ⟨_, .number hlength⟩

end ArrayShape

/-! ### Locating elements -/

lemma wholeIndices_map_int (is : List Int64) : wholeIndices (is.map .int) = .ok is := by
  induction is with
  | nil => rfl
  | cons i is ih =>
    rw [List.map_cons, wholeIndices, ih]
    rfl

lemma wholeIndices_of_noInt (is : List Int64) {v : Value} (hv : v.asInt? = none)
    (rest : List Value) :
    wholeIndices (is.map Value.int ++ v :: rest) = .error (.mismatch "int" v.typeName) := by
  induction is with
  | nil => cases v <;> first | rfl | cases hv
  | cons i is ih =>
    rw [List.map_cons, List.cons_append, wholeIndices, ih]
    rfl

/-- The cell of an array holds its elements, as many as its dimensions say. -/
structure Store.HoldsArray (st : Store) (shape : ArrayShape) (r : Ref) : Prop where
  length_eq : (st.cell r).length = ArrayShape.volume shape.dims
  length_lt : (st.cell r).length < 2 ^ 64

section Locate

variable {st : Store} {shape : ArrayShape} {r : Ref} {indices : List Value} {is : List Int64}

lemma locateElement_of_length (h : indices.length = shape.rank) :
    locateElement shape.rank (.array shape r) indices = (do
      let indices ← wholeIndices indices
      let offset ← shape.offset indices
      pure (shape, r, offset.toNat)) := by
  rw [locateElement, if_pos h]

lemma ArrayShape.Denotes.length_eq (h : shape.Denotes indices is) :
    indices.length = shape.rank := by
  rw [h.numbers, List.length_map, ← h.fits.length_eq, ArrayShape.rank]

lemma ArrayShape.Denotes.position_lt (h : shape.Denotes indices is)
    (hst : st.HoldsArray shape r) :
    ArrayShape.position shape.dims is < (st.cell r).length :=
  hst.length_eq ▸ h.fits.position_lt

/-- Indices that denote an element lead to its position. -/
theorem locateElement_of_denotes (hst : st.HoldsArray shape r) (h : shape.Denotes indices is) :
    locateElement shape.rank (.array shape r) indices =
      .ok (shape, r, ArrayShape.position shape.dims is) := by
  have hbound : ((0 : UInt64).toNat + 1) * ArrayShape.volume shape.dims ≤ 2 ^ 64 := by
    rw [UInt64.toNat_zero, Nat.zero_add, Nat.one_mul, ← hst.length_eq]
    exact Nat.le_of_lt hst.length_lt
  obtain ⟨o, ho, hposition⟩ := ArrayShape.offsetFrom_of_fits h.fits hbound
  have hoffset : shape.offset is = .ok o := by
    have hrank : is.length = shape.rank := h.fits.length_eq.symm
    rw [ArrayShape.offset, if_pos hrank, ho]
  rw [UInt64.toNat_zero, Nat.zero_mul, Nat.zero_add] at hposition
  rw [locateElement_of_length h.length_eq, h.numbers, wholeIndices_map_int, ← hposition]
  change (do let offset ← shape.offset is; pure (shape, r, offset.toNat)) = _
  rw [hoffset]
  rfl

/-- Indices that denote no element are refused for the first thing that is wrong with them. -/
theorem locateElement_of_misses {e : Fault} (h : shape.Misses indices e) :
    locateElement shape.rank (.array shape r) indices = .error e := by
  cases h with
  | number h =>
    rw [locateElement, if_neg h]
    rfl
  | @noInt is v rest hlength hv =>
    rw [locateElement_of_length hlength, wholeIndices_of_noInt is hv]
    rfl
  | @outside before length after is i is' hdims hlength hbefore hi =>
    have hoffset : shape.offset (is ++ i :: is') = .error (.indexOutOfRange i length.toNat) := by
      rw [ArrayShape.offset, if_pos hlength, hdims, ArrayShape.offsetFrom_of_outside hbefore hi]
    rw [locateElement_of_length (by rwa [List.length_map]), wholeIndices_map_int]
    change (do let offset ← shape.offset _; pure (shape, r, offset.toNat)) = _
    rw [hoffset]
    rfl

/-- The located element is one of the array itself. -/
lemma locateElement_ref {place : ArrayShape × Ref × Nat}
    (h : locateElement shape.rank (.array shape r) indices = .ok place) : place.2.1 = r := by
  by_cases hlength : indices.length = shape.rank
  · rw [locateElement_of_length hlength] at h
    obtain ⟨is, -, h⟩ := exists_of_bind_eq_ok h
    obtain ⟨o, -, h⟩ := exists_of_bind_eq_ok h
    cases h
    rfl
  · rw [locateElement_of_misses (.number hlength)] at h
    cases h

end Locate

/-! ### Reading and writing elements -/

/-- Why an element is not written: indices that denote none, or else a value that does not fit. -/
inductive ArrayShape.Refuses (shape : ArrayShape) : List Value → Value → Fault → Prop where
  | misses {indices : List Value} {e : Fault} (h : shape.Misses indices e) (new : Value) :
      Refuses shape indices new e
  | unfit {indices : List Value} {new : Value} (h : shape.Admits indices)
      (hnew : new.isAssignableTo shape.element shape.elementIsValueType = false) :
      Refuses shape indices new (.mismatch ("element of type " ++ shape.element.tag) new.typeName)

namespace Store

/-- What is read at some indices of an array. -/
def elementAt (st : Store) (shape : ArrayShape) (r : Ref) (indices : List Value) :
    Except Fault Value := do
  let (_, r, offset) ← locateElement shape.rank (.array shape r) indices
  st.readElement r offset

/-- Writes a value at some indices of an array. -/
def putElement (st : Store) (shape : ArrayShape) (r : Ref) (indices : List Value) (new : Value) :
    Except Fault Store := do
  let (shape, r, offset) ← locateElement shape.rank (.array shape r) indices
  if new.isAssignableTo shape.element shape.elementIsValueType then
    st.writeCell r offset (st.toStored shape.elementIsValueType new)
  else
    throw (.mismatch ("element of type " ++ shape.element.tag) new.typeName)

variable {st : Store} {shape : ArrayShape} {r q : Ref} {indices others : List Value}
  {is js : List Int64} {new v : Value} {e : Fault}

lemma elementAt_of_misses (h : shape.Misses indices e) (st : Store) (r : Ref) :
    st.elementAt shape r indices = .error e := by
  rw [elementAt, locateElement_of_misses h]
  rfl

lemma elementAt_of_denotes (hst : st.HoldsArray shape r) (h : shape.Denotes indices is) :
    st.elementAt shape r indices = st.readElement r (ArrayShape.position shape.dims is) := by
  rw [elementAt, locateElement_of_denotes hst h]
  rfl

lemma readElement_of_getElem? {n : Nat} (h : (st.cell r)[n]? = some v) :
    st.readElement r n = .ok v := by
  rw [readElement, h]
  rfl

lemma exists_elementAt (hst : st.HoldsArray shape r) (h : shape.Admits indices) :
    ∃ v, st.elementAt shape r indices = .ok v := by
  obtain ⟨is, h⟩ := h
  have hheld := List.getElem?_eq_getElem (h.position_lt hst)
  exact ⟨_, (elementAt_of_denotes hst h).trans (readElement_of_getElem? hheld)⟩

/-- Reading fails for what is wrong with the indices, and for nothing else. -/
theorem elementAt_eq_error_iff (hst : st.HoldsArray shape r) :
    st.elementAt shape r indices = .error e ↔ shape.Misses indices e := by
  refine ⟨fun h => ?_, fun h => elementAt_of_misses h st r⟩
  rcases shape.denotes_or_misses indices with hadmits | ⟨e', he'⟩
  · obtain ⟨v, hv⟩ := exists_elementAt hst hadmits
    rw [hv] at h
    cases h
  · rw [elementAt_of_misses he', Except.error.injEq] at h
    exact h ▸ he'

lemma elementAt_eq_ok_iff (hst : st.HoldsArray shape r) :
    (∃ v, st.elementAt shape r indices = .ok v) ↔ shape.Admits indices := by
  refine ⟨fun ⟨v, hv⟩ => ?_, exists_elementAt hst⟩
  rcases shape.denotes_or_misses indices with hadmits | ⟨e, he⟩
  · exact hadmits
  · rw [elementAt_of_misses he] at hv
    cases hv

lemma putElement_of_denotes (hst : st.HoldsArray shape r) (h : shape.Denotes indices is)
    (hnew : new.isAssignableTo shape.element shape.elementIsValueType = true) :
    st.putElement shape r indices new = .ok (st.setCell r ((st.cell r).set
      (ArrayShape.position shape.dims is) (st.toStored shape.elementIsValueType new))) := by
  rw [putElement, locateElement_of_denotes hst h]
  exact (if_pos hnew).trans (writeCell_of_lt (h.position_lt hst) _)

lemma putElement_of_refuses (hst : st.HoldsArray shape r) (h : shape.Refuses indices new e) :
    st.putElement shape r indices new = .error e := by
  cases h with
  | misses h =>
    rw [putElement, locateElement_of_misses h]
    rfl
  | unfit h hnew =>
    obtain ⟨is, h⟩ := h
    rw [putElement, locateElement_of_denotes hst h]
    exact if_neg (by rw [hnew]; exact Bool.false_ne_true)

/-- Indices that denote an element and a value that fits are enough to write it, and whatever is
wrong with them decides on the fault. -/
lemma fits_or_refuses (shape : ArrayShape) (indices : List Value) (new : Value) :
    (shape.Admits indices ∧ new.isAssignableTo shape.element shape.elementIsValueType = true) ∨
      ∃ e, shape.Refuses indices new e := by
  rcases shape.denotes_or_misses indices with h | ⟨e, h⟩
  · cases hnew : new.isAssignableTo shape.element shape.elementIsValueType with
    | true => exact Or.inl ⟨h, rfl⟩
    | false => exact Or.inr ⟨_, .unfit h hnew⟩
  · exact Or.inr ⟨e, .misses h new⟩

theorem putElement_eq_error_iff (hst : st.HoldsArray shape r) :
    st.putElement shape r indices new = .error e ↔ shape.Refuses indices new e := by
  refine ⟨fun h => ?_, putElement_of_refuses hst⟩
  rcases fits_or_refuses shape indices new with ⟨⟨is, his⟩, hnew⟩ | ⟨e', he'⟩
  · rw [putElement_of_denotes hst his hnew] at h
    cases h
  · rw [putElement_of_refuses hst he', Except.error.injEq] at h
    exact h ▸ he'

lemma putElement_eq_ok_iff (hst : st.HoldsArray shape r) :
    (∃ st', st.putElement shape r indices new = .ok st') ↔
      shape.Admits indices ∧ new.isAssignableTo shape.element shape.elementIsValueType = true := by
  refine ⟨fun ⟨st', h⟩ => ?_, fun ⟨⟨is, his⟩, hnew⟩ => ⟨_, putElement_of_denotes hst his hnew⟩⟩
  rcases fits_or_refuses shape indices new with hfits | ⟨e, he⟩
  · exact hfits
  · rw [putElement_of_refuses hst he] at h
    cases h

/-! ### After a write -/

lemma cell_set_self (h : st.HoldsArray shape r) (his : shape.Denotes indices is) (v : Value) :
    (st.setCell r ((st.cell r).set (ArrayShape.position shape.dims is) v)).cell r =
      (st.cell r).set (ArrayShape.position shape.dims is) v := by
  refine cell_setCell_self ?_ _
  -- a cell that holds an element is there
  by_contra hr
  have hnone : st.cell r = [] := by
    rw [cell, List.getElem?_eq_none (Nat.le_of_not_lt hr)]
    rfl
  have hlt := his.position_lt h
  rw [hnone] at hlt
  exact Nat.not_lt_zero _ hlt

lemma HoldsArray.set (h : st.HoldsArray shape r) (his : shape.Denotes indices is) (v : Value) :
    (st.setCell r ((st.cell r).set (ArrayShape.position shape.dims is) v)).HoldsArray shape r := by
  constructor <;> rw [cell_set_self h his, List.length_set]
  · exact h.length_eq
  · exact h.length_lt

/-- The element that has been written is read. -/
theorem elementAt_set_self (h : st.HoldsArray shape r) (his : shape.Denotes indices is)
    (v : Value) :
    (st.setCell r ((st.cell r).set (ArrayShape.position shape.dims is) v)).elementAt shape r
      indices = .ok v := by
  refine (elementAt_of_denotes (h.set his v) his).trans (readElement_of_getElem? ?_)
  rw [cell_set_self h his, List.getElem?_set_self (his.position_lt h)]

/-- All others are as before. -/
theorem elementAt_set_of_ne (h : st.HoldsArray shape r) (his : shape.Denotes indices is)
    (hothers : shape.Admits others) (hne : others ≠ indices) (v : Value) :
    (st.setCell r ((st.cell r).set (ArrayShape.position shape.dims is) v)).elementAt shape r
      others = st.elementAt shape r others := by
  obtain ⟨js, hjs⟩ := hothers
  have hposition : ArrayShape.position shape.dims is ≠ ArrayShape.position shape.dims js := by
    intro heq
    refine hne ?_
    rw [his.numbers, hjs.numbers, ArrayShape.position_injective his.fits hjs.fits heq]
  have hheld := List.getElem?_eq_getElem (hjs.position_lt h)
  rw [elementAt_of_denotes (h.set his v) hjs, elementAt_of_denotes h hjs,
    readElement_of_getElem? hheld]
  refine readElement_of_getElem? ?_
  rw [cell_set_self h his, List.getElem?_set_ne hposition, hheld]

/-- And so are those of all other arrays. -/
theorem elementAt_setCell_of_ne (hq : q ≠ r) (slots : List Value) (shape : ArrayShape)
    (indices : List Value) :
    (st.setCell r slots).elementAt shape q indices = st.elementAt shape q indices := by
  unfold elementAt
  cases hlocate : locateElement shape.rank (.array shape q) indices with
  | error e => rfl
  | ok place =>
    obtain ⟨_, p, n⟩ := place
    obtain rfl : p = q := locateElement_ref hlocate
    change (st.setCell r slots).readElement p n = st.readElement p n
    rw [readElement, readElement, cell_setCell_of_ne st (Ne.symm hq)]

end Store

end LateBinding
