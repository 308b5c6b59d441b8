/-!
# Double-precision numbers

A number value is an IEEE 754 binary64 datum, kept as its 64 bits: one sign bit, eleven exponent
bits, 52 fraction bits. Keeping the bits makes every question about numbers a question about
natural numbers: which are NaN, which two are numerically equal, what the exact value is.

The value of a finite datum is its significand times a power of two. Counted in the smallest
subnormal, 2^-1074, that power is a natural number, so no fraction is ever formed.
-/

namespace FunctionObjects

/-- A binary64 datum. -/
structure Double : Type where
  bits : UInt64
deriving DecidableEq, Inhabited

namespace Double

/-- The datum with the given bits, the lowest 64 of a number. -/
def ofNatBits (n : Nat) : Double := ⟨UInt64.ofNat n⟩

/-- The weight of the lowest exponent bit, 2^52: the fraction bits lie below it. -/
def hiddenBit : Nat := 0x10000000000000

/-- The exponent bits, all set. -/
def exponentMask : Nat := 0x7ff

def isNegative (x : Double) : Bool := decide (0x8000000000000000 ≤ x.bits.toNat)

/-- The eleven exponent bits. -/
def exponentBits (x : Double) : Nat := x.bits.toNat / hiddenBit % (exponentMask + 1)

/-- The 52 fraction bits. -/
def fractionBits (x : Double) : Nat := x.bits.toNat % hiddenBit

/-- All exponent bits set and a fraction that is not zero: not a number. -/
def isNaN (x : Double) : Bool := x.exponentBits == exponentMask && x.fractionBits != 0

/-- All exponent bits set and no fraction: an infinity. -/
def isInfinite (x : Double) : Bool := x.exponentBits == exponentMask && x.fractionBits == 0

/-- Nothing set but perhaps the sign: one of the two zeros. -/
def isZero (x : Double) : Bool := x.exponentBits == 0 && x.fractionBits == 0

/-- Numerical equality: a NaN equals nothing, the two zeros are equal, and any other two numbers
are equal only if all their bits are. -/
def equal (x y : Double) : Bool :=
  !x.isNaN && !y.isNaN && (x.bits == y.bits || (x.isZero && y.isZero))

/-! ### The exact value of a finite datum -/

/-- The significand as a natural number: the hidden bit is set unless the exponent bits are 0. -/
def significand (x : Double) : Nat :=
  if x.exponentBits = 0 then x.fractionBits else hiddenBit + x.fractionBits

/-- The magnitude is the significand times two to this power, counted in 2^-1074. -/
def scale (x : Double) : Nat := x.exponentBits - 1

/-! ### Conversion from natural numbers -/

def zero : Double := ofNatBits 0

/-- A positive number with `exponent` for its leading bit and a significand of 53 bits. A
significand of 2^53, as rounding may leave it, carries into the exponent; what is too large is
infinity. -/
def ofSignificand (exponent significand : Nat) : Double :=
  ofNatBits
    (min (exponentMask * hiddenBit) ((exponent + 1023) * hiddenBit + (significand - hiddenBit)))

/-- `n / d` rounded to the nearest natural number, a tie to the even neighbour. -/
def roundDiv (n d : Nat) : Nat :=
  let q := n / d
  let twice := 2 * (n % d)
  if d < twice || (twice == d && q % 2 == 1) then q + 1 else q

/-- The number nearest to `n`, of two equally near the one with an even significand. -/
def ofNat (n : Nat) : Double :=
  if n = 0 then zero
  else
    let exponent := n.log2
    if exponent ≤ 52 then ofSignificand exponent (n * Nat.pow 2 (52 - exponent))
    else ofSignificand exponent (roundDiv n (Nat.pow 2 (exponent - 52)))

end Double

end FunctionObjects
