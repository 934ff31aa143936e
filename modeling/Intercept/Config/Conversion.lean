import Intercept.Config.Section
import Intercept.Text.Lower
import Intercept.Text.Numeral

/-!
# Lenient conversions

Configuration files and the environment cannot always express the type of a setting, so scalars of
one type may stand for another: words for truth values, truth values for zero and one, texts for
integers, and numbers for texts. Null and containers stand for nothing but themselves.
-/

namespace Intercept

namespace Conversions

/-- The truth value that a word stands for, in any case. -/
def flagOfWord? (s : String) : Option Bool :=
  match Text.lower s with
  | "true" | "on" | "yes" => some true
  | "false" | "off" | "no" => some false
  | _ => none

/-- The integer nearest to a double, halves away from zero, cut to the range of words. -/
def wordOfDouble (x : Binary64) : UInt64 :=
  if x.isNegative || Binary64.infinity < x.magnitude then 0
  else UInt64.ofNat (Nat.min x.roundHalfUp (UInt64.size - 1))

/-- The text of a double without exponent, and without fraction if it is whole. -/
def textOfDouble (x : Binary64) : String :=
  let body :=
    if x.isZero then "0"
    else if Binary64.infinity < x.magnitude then "NaN"
    else if x.magnitude = Binary64.infinity then "inf"
    else
      let s := x.shortest
      let ds := (toString s.digits).toList
      let point : Int := ds.length + s.exponent
      if ds.length ≤ point then String.ofList ds ++ Binary64.zeros (point.toNat - ds.length)
      else Binary64.positional ds point
  if x.isNegative && x.magnitude ≤ Binary64.infinity then "-" ++ body else body

/-- Integers have 64 bits with their sign here: those from `2 ^ 63` on are rounded to doubles. -/
def signed (n : Number) : Number :=
  match n with
  | .natural m =>
    if m.toNat < Number.signedLimit then n else ((Binary64.ofNat? m.toNat).map Number.double).getD n
  | n => n

/-- The text of a number. -/
def textOfNumber (n : Number) : String :=
  match signed n with
  | .natural m => toString m.toNat
  | .negative m => "-" ++ toString m.toNat
  | .double x => textOfDouble x

/-- The word that a number stands for, unless it is a negative integer. -/
def wordOfNumber? (n : Number) : Option UInt64 :=
  match signed n with
  | .natural m => some m
  | .negative _ => none
  | .double x => some (wordOfDouble x)

/-- Whether a number is zero. -/
def isZeroNumber : Number → Bool
  | .natural n => n = 0
  | .negative _ => false
  | .double x => x.isZero

/-- Scalars may stand for each other. -/
def lenient : Conversions where
  text? := fun
    | .string s => some s
    | .bool b => some (toString b)
    | .number n => some (textOfNumber n)
    | _ => none
  flag? := fun
    | .bool b => some b
    | .number n => some (!isZeroNumber n)
    | .string "1" => some true
    | .string "0" => some false
    | .string s => flagOfWord? s
    | _ => none
  word? := fun
    | .number n => wordOfNumber? n
    | .bool b => some (if b then 1 else 0)
    | .string s =>
      match flagOfWord? s with
      | some b => some (if b then 1 else 0)
      | none => Numeral.readWord? s
    | _ => none
  allowsRest := true

end Conversions

end Intercept
