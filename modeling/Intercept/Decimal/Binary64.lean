/-!
# Double precision numbers

A double is its 64-bit pattern. Every finite double is, up to its sign, a natural number of units
`2 ^ (-1074)`: `significand · 2 ^ scale` of them. Reading the pattern in this way makes rounding a
statement about natural numbers, and each operation below is exact arithmetic followed by one
rounding to the nearest double, ties going to the even pattern.
-/

namespace Intercept

/-- A double precision number, given by its bit pattern. -/
structure Binary64 where
  bits : UInt64
deriving DecidableEq, Repr, Inhabited

namespace Binary64

/-- The place value of the sign bit. -/
def signBit : Nat := 1 <<< 63

/-- The place value of the last bit of the exponent field, and of the leading bit of a significand
that is not subnormal. -/
def leadingBit : Nat := 1 <<< 52

/-- How many units make one. -/
def unitsOfOne : Nat := 1 <<< 1074

/-- The pattern without its sign bit. Magnitudes are ordered as their patterns are. -/
def magnitude (x : Binary64) : Nat := x.bits.toNat % signBit

/-- Whether the sign bit is set; zero carries a sign as well. -/
def isNegative (x : Binary64) : Bool := signBit ≤ x.bits.toNat

/-- The pattern of positive infinity; every finite magnitude lies below it. -/
def infinity : Nat := 2047 * leadingBit

/-- How many times the unit is doubled in the binade of `x`. -/
def scale (x : Binary64) : Nat := x.magnitude / leadingBit - 1

/-- The significand, with its leading bit unless `x` is subnormal. -/
def significand (x : Binary64) : Nat :=
  if x.magnitude < leadingBit then x.magnitude else leadingBit + x.magnitude % leadingBit

/-- The absolute value in units of `2 ^ (-1074)`. -/
def units (x : Binary64) : Nat := x.significand <<< x.scale

/-- The finite double of a sign and a magnitude. -/
def ofMagnitude (negative : Bool) (m : Nat) : Binary64 :=
  ⟨UInt64.ofNat (if negative then signBit + m else m)⟩

/-- Negation flips the sign, also of zero. -/
def neg (x : Binary64) : Binary64 := ofMagnitude (!x.isNegative) x.magnitude

/-- Positive zero. -/
def zero : Binary64 := ⟨0⟩

/-- Whether `x` is a zero of either sign. -/
def isZero (x : Binary64) : Bool := x.magnitude = 0

/-- `num / den` rounded to the nearest integer, a tie going to the even one. -/
def roundHalfEven (num den : Nat) : Nat :=
  let q := num / den
  let r := num % den
  if 2 * r < den then q
  else if den < 2 * r then q + 1
  else q + q % 2

/-- The magnitude nearest to `num / den` units. The quotient is halved until 53 bits are left; the
carry of a significand that rounds up to `2 ^ 53` moves into the exponent field by itself. -/
def nearestMagnitude (num den : Nat) : Nat :=
  let excess := (num / den).log2 - 52
  excess * leadingBit + roundHalfEven num (den <<< excess)

/-- The non-negative double nearest to `num / den` units, if it is finite. -/
def ofUnits? (num den : Nat) : Option Binary64 :=
  let m := nearestMagnitude num den
  if m < infinity then some (ofMagnitude false m) else none

/-- The double nearest to a natural number, if it is finite. -/
def ofNat? (n : Nat) : Option Binary64 := ofUnits? (n * unitsOfOne) 1

/-- The rounded product of two magnitudes, if it is finite. -/
def mul? (x y : Binary64) : Option Binary64 := ofUnits? (x.units * y.units) unitsOfOne

/-- The rounded quotient of two magnitudes, for a divisor other than zero. -/
def div? (x y : Binary64) : Option Binary64 := ofUnits? (x.units * unitsOfOne) y.units

/-- The rational `num / den` rounded to a double, if it is finite. -/
def ofQuotient? (num den : Nat) : Option Binary64 := ofUnits? (num * unitsOfOne) den

/-- The nearest integer to the absolute value, halves going away from zero. -/
def roundHalfUp (x : Binary64) : Nat := (2 * x.units + unitsOfOne) / (2 * unitsOfOne)

end Binary64

end Intercept
