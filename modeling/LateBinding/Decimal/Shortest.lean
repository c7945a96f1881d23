/-!
# Shortest decimal text of a binary number

A double stands for every real that rounds to it. Its shortest decimal is the point of that interval
on the coarsest decimal grid that has one there; where two points of the grid lie in the interval
the nearer one is taken, and of two equally near ones the upper.

The text is positional: all digits are written out, without an exponent.
-/

namespace LateBinding.Decimal

/-- The reals that round to a positive double: three whole numbers of quarter units `num / den`, the
lower end, the double itself and the upper end. -/
structure Rounding where
  low : Nat
  mid : Nat
  high : Nat
  /-- Whether the ends themselves round to the double. -/
  closed : Bool
  num : Nat
  den : Nat

/-- The rounding interval of `mantissa * 2 ^ exponent`. `narrow` says that the double below it lies
only half as far away as the one above it. -/
def Rounding.of (mantissa : Nat) (exponent : Int) (narrow : Bool) : Rounding where
  low := 4 * mantissa - if narrow then 1 else 2
  mid := 4 * mantissa
  high := 4 * mantissa + 2
  closed := mantissa % 2 == 0
  num := Nat.pow 2 (exponent - 2).toNat
  den := Nat.pow 2 (2 - exponent).toNat

namespace Rounding

/-- The step of the grid of multiples of `10 ^ p`. -/
def step (r : Rounding) (p : Int) : Nat := Nat.pow 10 p.toNat * r.den

/-- The quarter unit, in the measure in which the grid has steps of `step`. -/
def unit (r : Rounding) (p : Int) : Nat := r.num * Nat.pow 10 (-p).toNat

/-- Whether the point `n * 10 ^ p` lies in the interval. -/
def holds (r : Rounding) (p : Int) (n : Nat) : Bool :=
  let point := n * r.step p
  if r.closed then
    r.low * r.unit p ≤ point && point ≤ r.high * r.unit p
  else
    r.low * r.unit p < point && point < r.high * r.unit p

/-- The last multiple of `10 ^ p` that is not above the double. -/
def floorAt (r : Rounding) (p : Int) : Nat :=
  r.mid * r.unit p / r.step p

/-- Whether the double lies strictly nearer to the multiple of `10 ^ p` below it than to the one
above it. -/
def nearerBelow (r : Rounding) (p : Int) : Bool :=
  2 * (r.mid * r.unit p % r.step p) < r.step p

/-- The nearest multiple of `10 ^ p` in the interval, if there is one. -/
def onGrid (r : Rounding) (p : Int) : Option Nat :=
  let below := r.floorAt p
  match r.holds p below, r.holds p (below + 1) with
  | true, true => some (if r.nearerBelow p then below else below + 1)
  | true, false => some below
  | false, true => some (below + 1)
  | false, false => none

/-- The first hit on the grids `p`, `p - 1`, ..., `p - steps + 1`. -/
def coarsest (r : Rounding) (p : Int) : Nat → Option (Nat × Int)
  | 0 => none
  | steps + 1 => match r.onGrid p with
    | some n => some (n, p)
    | none => r.coarsest (p - 1) steps

/-- The shortest decimal of a double, as digits and an exponent of ten. No finite double lies above
`10 ^ 309`, and the finest grid that is needed is `10 ^ -343`. -/
def shortest (r : Rounding) : Nat × Int :=
  (r.coarsest 309 660).getD (0, 0)

end Rounding

/-- The text of `n * 10 ^ p`. -/
def positional (n : Nat) (p : Int) : String :=
  let digits := Nat.toDigits 10 n
  if 0 ≤ p then
    String.ofList (digits ++ List.replicate p.toNat '0')
  else
    let places := (-p).toNat
    let padded := List.replicate (places + 1 - digits.length) '0' ++ digits
    let whole := padded.take (padded.length - places)
    let fraction := (padded.drop (padded.length - places)).reverse.dropWhile (· == '0')
    String.ofList (if fraction.isEmpty then whole else whole ++ '.' :: fraction.reverse)

/-- The shortest text that reads back as `x`. The zeros keep their sign, and the values that are no
numbers have words. -/
def ofFloat (x : Float) : String :=
  let bits : Nat := x.toBits.toNat
  let biased : Nat := (bits >>> 52) % 0x800
  let fraction : Nat := bits % 0x10000000000000
  if biased == 0x7ff && fraction != 0 then
    "NaN"
  else
    let body :=
      if biased == 0x7ff then
        "inf"
      else if biased == 0 && fraction == 0 then
        "0"
      else
        let rounding :=
          if biased == 0 then
            Rounding.of fraction (-1074) false
          else
            Rounding.of (0x10000000000000 + fraction) ((biased : Int) - 1075)
              (fraction == 0 && 1 < biased)
        let (n, p) := rounding.shortest
        positional n p
    if bits >>> 63 == 1 then "-" ++ body else body

end LateBinding.Decimal
