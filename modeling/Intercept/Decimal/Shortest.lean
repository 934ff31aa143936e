import Intercept.Decimal.Binary64

/-!
# Shortest decimal digits

The decimal text of a double is built from the fewest digits that still read back as the same
double, and among those from the ones nearest to it. The reals that round to a double form an
interval around it, which contains its end points exactly when the significand is even. For one,
two, … digits the two neighbours of the value on that decimal grid are tested against the interval;
seventeen digits always suffice.
-/

namespace Intercept.Binary64

/-- A decimal `digits · 10 ^ exponent`. -/
structure Scaled where
  digits : Nat
  exponent : Int
deriving DecidableEq, Repr

/-- The position of the leading decimal digit of `c` quarters of a unit, for positive `c`. -/
def leadingExponent (c : Nat) : Int :=
  let one := 4 * unitsOfOne
  if one ≤ c then ((toString (c / one)).length : Int) - 1
  else -((toString (one / c)).length : Int)

/-- Four times the units of `x`, and the two ends of the interval that rounds to `x`. -/
def interval (x : Binary64) : Nat × Nat × Nat :=
  let u := 1 <<< x.scale
  let c := 4 * x.units
  let below := if x.significand = leadingBit ∧ 0 < x.scale then u else 2 * u
  (c - below, c, c + 2 * u)

/-- The decimal on the grid with last digit at `10 ^ p` that lies in the interval of `x` and is
nearest to `x`, if there is one. -/
def onGrid? (x : Binary64) (p : Int) : Option Scaled :=
  let (lo, c, hi) := x.interval
  let a := Nat.pow 10 (-p).toNat
  let b := Nat.pow 10 p.toNat * (4 * unitsOfOne)
  let inside (d : Nat) : Bool :=
    if x.significand % 2 = 0 then lo * a ≤ d * b && d * b ≤ hi * a
    else lo * a < d * b && d * b < hi * a
  let d := c * a / b
  match inside d, inside (d + 1) with
  | false, false => none
  | true, false => some ⟨d, p⟩
  | false, true => some ⟨d + 1, p⟩
  | true, true => some ⟨roundHalfEven (c * a) b, p⟩

/-- Drop trailing zeros from the digits, at most `fuel` of them. -/
def Scaled.strip : Nat → Scaled → Scaled
  | 0, s => s
  | fuel + 1, s => if s.digits % 10 = 0 then strip fuel ⟨s.digits / 10, s.exponent + 1⟩ else s

/-- The shortest decimal that reads back as `x`, for `x` finite and not zero. -/
def shortest (x : Binary64) : Scaled :=
  let lead := leadingExponent (4 * x.units)
  let found := (List.range 17).findSome? fun (n : Nat) => onGrid? x (lead - n)
  (found.getD ⟨0, 0⟩).strip 20

/-- Zeros, `n` of them. -/
def zeros (n : Nat) : String := String.ofList (List.replicate n '0')

/-- A decimal without exponent: digits `ds` with the point after the first `point` of them. -/
def positional (ds : List Char) (point : Int) : String :=
  if point ≤ 0 then "0." ++ zeros (-point).toNat ++ String.ofList ds
  else
    let n := point.toNat
    if ds.length ≤ n then String.ofList ds ++ zeros (n - ds.length) ++ ".0"
    else String.ofList (ds.take n) ++ "." ++ String.ofList (ds.drop n)

/-- One leading digit and a signed power of ten. -/
def scientific (ds : List Char) (point : Int) : String :=
  let e := point - 1
  let fraction := if ds.length ≤ 1 then "" else "." ++ String.ofList (ds.drop 1)
  let sign := if e < 0 then "-" else "+"
  String.ofList (ds.take 1) ++ fraction ++ "e" ++ sign ++ toString e.natAbs

end Intercept.Binary64
