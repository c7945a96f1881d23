import LateBinding.Fault
import LateBinding.Value.Basic

/-!
# Array offsets

Arrays are stored row by row: the last index varies fastest. Offsets are computed in machine words,
one dimension after the other.
-/

namespace LateBinding.ArrayShape

/-- Goes on with an offset over the remaining dimensions. The first index that is out of the range
of its dimension is a fault. -/
def offsetFrom (offset : UInt64) : List UInt64 → List Int64 → Except Fault UInt64
  | length :: dims, i :: indices =>
    if i < 0 ∨ length ≤ i.toUInt64 then
      throw (.indexOutOfRange i length.toNat)
    else
      offsetFrom (offset * length + i.toUInt64) dims indices
  | _, _ => pure offset

/-- The place of an element in the row-major order. -/
def offset (s : ArrayShape) (indices : List Int64) : Except Fault UInt64 :=
  if indices.length = s.rank then
    offsetFrom 0 s.dims indices
  else
    throw (.refused (.rank s.rank indices.length))

end LateBinding.ArrayShape
