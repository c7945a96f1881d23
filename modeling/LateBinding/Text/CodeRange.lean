/-!
# Ranges of code points

A property of characters is held as a list of closed ranges of code points, in ascending order.
A character has the property when one of the ranges holds its code.
-/

namespace LateBinding.Text

/-- A closed range of code points: its first and its last code. -/
abbrev CodeRange := Nat × Nat

/-- Whether some range of the list holds the code of `c`. -/
def inRanges (ranges : List CodeRange) (c : Char) : Bool :=
  ranges.any fun r => r.1 ≤ c.toNat && c.toNat ≤ r.2

end LateBinding.Text
