/-!
# Digits

Hexadecimal digits and their values, which are also the digits of every smaller base, and characters
by their code points.
-/

namespace Intercept.Text

/-- The value of a hexadecimal digit in either case. -/
def hexValue? (c : Char) : Option Nat :=
  if '0' ≤ c ∧ c ≤ '9' then some (c.toNat - '0'.toNat)
  else if 'a' ≤ c ∧ c ≤ 'f' then some (c.toNat - 'a'.toNat + 10)
  else if 'A' ≤ c ∧ c ≤ 'F' then some (c.toNat - 'A'.toNat + 10)
  else none

/-- The value of a digit in a base up to 16. -/
def digitValue? (base : Nat) (c : Char) : Option Nat := (hexValue? c).filter (· < base)

/-- Whether a character is a digit in a base up to 16. -/
def isDigitOf (base : Nat) (c : Char) : Bool := (digitValue? base c).isSome

/-- The number that digits of a base spell, most significant first. -/
def valueIn (base : Nat) (digits : List Char) : Nat :=
  digits.foldl (fun n c => base * n + (digitValue? base c).getD 0) 0

/-- A lower-case hexadecimal digit. -/
def hexDigit (n : Nat) : Char :=
  if n < 10 then Char.ofNat ('0'.toNat + n) else Char.ofNat ('a'.toNat + (n - 10))

/-- The character with a code point, if there is one. -/
def charOf? (n : Nat) : Option Char := if n.isValidChar then some (Char.ofNat n) else none

end Intercept.Text
