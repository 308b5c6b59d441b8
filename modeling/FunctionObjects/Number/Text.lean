import FunctionObjects.Number.Shortest

/-!
# The text of a number

How a number value is written. Numbers of moderate size are written positionally, the others with
an exponent; which are moderate is decided by the place of the decimal point relative to the first
digit, and `positionalFrom` and `positionalTo` are the limits.
-/

namespace FunctionObjects

namespace Decimal

/-- Positional notation reaches down to five zeros after the point: 0.000001. -/
def positionalFrom : Int := -5

/-- Positional notation reaches up to 21 digits before the point. -/
def positionalTo : Int := 21

def zeros (n : Nat) : List Char := List.replicate n '0'

/-- The exponent mark, the sign, which is never left out, and the exponent. -/
def exponentChars (e : Int) : List Char :=
  'e' :: (if e < 0 then '-' else '+') :: Nat.toDigits 10 e.natAbs

/-- The text of a positive decimal whose digits do not end in zero. The digits are those of `d`,
and the point stands after the first `point` of them, or that many places before or behind. -/
def toChars (d : Decimal) : List Char :=
  let ds := Nat.toDigits 10 d.digits
  let point : Int := ds.length + d.exponent
  if positionalFrom ≤ point && point ≤ positionalTo then
    if 0 ≤ d.exponent then ds ++ zeros d.exponent.toNat
    else if 0 < point then ds.take point.toNat ++ '.' :: ds.drop point.toNat
    else '0' :: '.' :: zeros (-point).toNat ++ ds
  else
    match ds with
    | [] => []
    | [c] => c :: exponentChars (point - 1)
    | c :: rest => c :: '.' :: rest ++ exponentChars (point - 1)

end Decimal

/-- The text of a number: both zeros are "0", every NaN is "NaN", and any other number is the
shortest decimal that reads back, behind its sign. -/
def Double.toText (x : Double) : String :=
  if x.isNaN then "NaN"
  else if x.isZero then "0"
  else
    let magnitude := if x.isInfinite then "Infinity" else String.ofList x.shortest.toChars
    if x.isNegative then "-" ++ magnitude else magnitude

end FunctionObjects
