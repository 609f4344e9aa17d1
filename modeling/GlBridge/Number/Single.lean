/-!
# Rounding to single precision

Some calls take numbers of double precision that the driver takes in single precision.  Numbers
are handled as bit patterns.  A finite number is a significand times a power of two; it is rounded
to the nearest number of single precision, a tie to the one with an even significand, and to an
infinity if it is too large.  What is no number stays so, with the high bits of its payload.

* `roundShift` — dividing by a power of two, rounding to the nearest integer;
* `singleOfDouble` — the conversion.
-/

namespace GlBridge

/-- The quotient of `n` and `2 ^ shift`, rounded to the nearest integer, a tie to the even one. -/
def roundShift (n shift : Nat) : Nat :=
  let unit := Nat.pow 2 shift
  let quotient := n / unit
  let rest := 2 * (n % unit)
  if unit < rest ∨ (rest = unit ∧ quotient % 2 = 1) then quotient + 1 else quotient

/-- The number of binary digits. -/
def bitLength (n : Nat) : Nat := if n = 0 then 0 else Nat.log2 n + 1

/-- The bits of infinity in single precision. -/
def singleInfinity : Nat := 0x7F800000

/-- The sign bit in single precision, above all others. -/
def singleSign : Nat := 0x80000000

/-- The lowest bit of the exponent in single precision, which is also the leading bit of a
significand: `2 ^ 23`. -/
def singleUnit : Nat := 0x800000

/-- The sign bit in double precision, above all others. -/
def doubleSign : Nat := 0x8000000000000000

/-- The lowest bit of the exponent in double precision, which is also the leading bit of a
significand: `2 ^ 52`. -/
def doubleUnit : Nat := 0x10000000000000

/-- The bits of the number of single precision nearest to `significand * 2 ^ (exponent - 1074)`,
for numbers that are not negative.  In every binade a pattern is `2 ^ 23` per exponent plus the
excess of the significand, so that a significand rounded up to the next binade carries into the
exponent by itself. -/
def roundMagnitude (significand exponent : Nat) : Nat :=
  let shift := max (bitLength significand - 24) (925 - exponent)
  let rounded := roundShift significand shift
  let field := exponent + shift - 924
  if rounded < singleUnit then rounded
  else min singleInfinity (field * singleUnit + (rounded - singleUnit))

/-- The bits in single precision of a number given by its bits in double precision.  What is no
number keeps the 22 bits of its payload below the highest one, which is set. -/
def singleOfDouble (bits : UInt64) : UInt32 :=
  let n := bits.toNat
  let sign := n / doubleSign * singleSign
  let exponent := n / doubleUnit % 2048
  let fraction := n % doubleUnit
  let magnitude :=
    if exponent = 2047 then
      if fraction = 0 then singleInfinity
      else singleInfinity + 0x400000 + fraction / 0x20000000 % 0x400000
    else if exponent = 0 then roundMagnitude fraction 0
    else roundMagnitude (fraction + doubleUnit) (exponent - 1)
  (sign + magnitude).toUInt32

example : singleOfDouble 0x3FB999999999999A = 0x3DCCCCCD := by decide
example : singleOfDouble 0x47EFFFFFEFFFFFFF = 0x7F7FFFFF := by decide
example : singleOfDouble 0x47EFFFFFF0000000 = 0x7F800000 := by decide
example : singleOfDouble 0x3690000000000001 = 1 := by decide
example : singleOfDouble 0xBFF0000000000000 = 0xBF800000 := by decide
example : singleOfDouble 0x7FF8000000000000 = 0x7FC00000 := by decide

end GlBridge
