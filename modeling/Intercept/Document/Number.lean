import Intercept.Decimal.Shortest

/-!
# Numbers of a document

A number is an integer that fits into 64 bits, with or without sign, or a double. Integer literals
in that range stay integers; minus zero, fractions, exponents and larger integers are doubles.
-/

namespace Intercept

/-- A number in a document. -/
inductive Number where
  /-- An integer from `0` to `2 ^ 64 - 1`. -/
  | natural (value : UInt64)
  /-- The integer `-magnitude`, for a magnitude from `1` to `2 ^ 63`. -/
  | negative (magnitude : UInt64)
  /-- A finite double. -/
  | double (value : Binary64)
deriving DecidableEq, Repr

namespace Number

/-- The number of integers with sign and 64 bits that are not negative. -/
def signedLimit : Nat := 1 <<< 63

/-- The text of a double: positional from `1e-5` up to `1e16`, always with a fraction, and
scientific beyond. -/
def renderDouble (x : Binary64) : String :=
  let body :=
    if x.isZero then "0.0"
    else
      let s := x.shortest
      let ds := (toString s.digits).toList
      let point : Int := ds.length + s.exponent
      if -4 ≤ point ∧ point ≤ 16 then Binary64.positional ds point
      else Binary64.scientific ds point
  if x.isNegative then "-" ++ body else body

/-- The text of a number. -/
def render : Number → String
  | natural n => toString n.toNat
  | negative m => "-" ++ toString m.toNat
  | double x => renderDouble x

/-- The power of ten `10 ^ k` as a double. -/
def powerOfTen (k : Nat) : Binary64 := (Binary64.ofNat? (Nat.pow 10 k)).getD .zero

/-- Divide by `10 ^ k`, in steps of at most `10 ^ 308`, each of them rounded. -/
def divideByPower : Nat → Binary64 → Nat → Binary64
  | 0, x, _ => x
  | fuel + 1, x, k =>
    if k ≤ 308 then (x.div? (powerOfTen k)).getD .zero
    else if x.isZero then x
    else divideByPower fuel ((x.div? (powerOfTen 308)).getD .zero) (k - 308)

/-- The double of a literal `significand · 10 ^ exponent`: the significand is rounded first and then
scaled by the double nearest to the power of ten. A literal too large for a double has none. -/
def ofScientific? (significand : Nat) (exponent : Int) : Option Binary64 := do
  let x ← Binary64.ofNat? significand
  if exponent < 0 then some (divideByPower 5 x exponent.natAbs)
  else if exponent ≤ 308 then x.mul? (powerOfTen exponent.toNat)
  else if x.isZero then some x
  else none

end Number

end Intercept
