import FunctionObjects.Number.Double

/-!
# The shortest decimal that reads back

Between a number and its neighbours lies an interval of reals that all round to it. Of the
decimals in that interval the text of the number uses one with the fewest digits, and among those
the one nearest to the number. The search goes by the count of digits: for one, two, three, …
digits the two points of the decimal grid on either side of the number are tried, and the first
grid with a point in the interval has the answer. All arithmetic is exact, on natural numbers.
-/

namespace FunctionObjects

/-- A positive decimal: `digits` times ten to the power `exponent`. -/
structure Decimal : Type where
  digits : Nat
  exponent : Int
deriving DecidableEq, Inhabited

namespace Decimal

/-- The same decimal without trailing zeros, at most `bound` of which are removed. -/
def strip : (bound : Nat) → Decimal → Decimal
  | 0, d => d
  | bound + 1, d =>
    if d.digits % 10 = 0 then strip bound ⟨d.digits / 10, d.exponent + 1⟩ else d

end Decimal

/-- The reals that round to a finite positive number: all bounds over one denominator, and whether
the bounds themselves belong to it. -/
structure Rounding : Type where
  below : Nat
  value : Nat
  above : Nat
  denominator : Nat
  closed : Bool

namespace Rounding

/-- The interval of a finite positive number. Its ends lie half-way to the neighbours, and the one
below is only half as far away where the significand is the least of its exponent. A tie goes to
the even significand, so the ends belong to the interval of an even one. -/
def ofDouble (x : Double) : Rounding :=
  let m := x.significand
  let step := Nat.pow 2 x.scale
  let down := if m = Double.hiddenBit && 1 < x.exponentBits then 1 else 2
  { below := (4 * m - down) * step
    value := 4 * m * step
    above := (4 * m + 2) * step
    denominator := Nat.pow 2 1076
    closed := m % 2 == 0 }

/-- The interval with every bound multiplied by ten to the power `k`. -/
def shift (r : Rounding) (k : Int) : Rounding :=
  let up := Nat.pow 10 k.toNat
  { r with
    below := r.below * up
    value := r.value * up
    above := r.above * up
    denominator := r.denominator * Nat.pow 10 (-k).toNat }

/-- Whether the natural number `n` lies in the interval. -/
def contains (r : Rounding) (n : Nat) : Bool :=
  let n := n * r.denominator
  if r.closed then r.below ≤ n && n ≤ r.above else r.below < n && n < r.above

/-- The natural number in the interval that is next to the value: the nearer of the two
neighbours, the even one if both are equally near. -/
def neighbour? (r : Rounding) : Option Nat :=
  let floor := r.value / r.denominator
  let rest := 2 * (r.value % r.denominator)
  let nearer :=
    if rest < r.denominator || (rest == r.denominator && floor % 2 == 0) then floor else floor + 1
  let other := if nearer = floor then floor + 1 else floor
  if r.contains nearer then some nearer
  else if r.contains other then some other
  else none

/-- How many of ten's powers, at most `bound`, must be multiplied in to reach 1. -/
def leadingZeros : (bound value denominator : Nat) → Nat
  | 0, _, _ => 0
  | bound + 1, value, denominator =>
    if denominator ≤ value then 0 else 1 + leadingZeros bound (10 * value) denominator

/-- The power of ten just above the value: the value has its first digit before this place. -/
def point (r : Rounding) : Int :=
  let whole := r.value / r.denominator
  if whole = 0 then 1 - (leadingZeros 330 r.value r.denominator : Int)
  else (Nat.toDigits 10 whole).length

/-- The first grid, from `count` digits on, that has a point in the interval. Seventeen digits
tell all numbers apart, so the search never ends without one. -/
def search (r : Rounding) (point : Int) : (bound count : Nat) → Decimal
  | 0, count => ⟨r.value / r.denominator, point - count⟩
  | bound + 1, count =>
    match (r.shift (count - point)).neighbour? with
    | some n => ⟨n, point - count⟩
    | none => search r point bound (count + 1)

end Rounding

/-- The shortest decimal that rounds to a finite number that is not zero, whatever its sign. -/
def Double.shortest (x : Double) : Decimal :=
  let r := Rounding.ofDouble x
  (r.search r.point 17 1).strip 20

end FunctionObjects
