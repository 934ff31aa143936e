/-!
# Decimal numerals

Unsigned numbers as they occur in headers, paths and request bodies: an optional plus sign and at
least one ASCII digit. Leading zeros carry no weight, so a number has many spellings; 64-bit words
are the numerals below `2 ^ 64`.
-/

namespace Intercept.Numeral

/-- The value of an ASCII decimal digit. -/
def digit? (c : Char) : Option Nat :=
  if '0' ≤ c ∧ c ≤ '9' then some (c.toNat - '0'.toNat) else none

/-- Continue reading digits, most significant first, after the value `n`. -/
def readFrom? (n : Nat) : List Char → Option Nat
  | [] => some n
  | c :: cs => (digit? c).bind fun d => readFrom? (10 * n + d) cs

/-- A non-empty run of digits. -/
def readDigits? : List Char → Option Nat
  | [] => none
  | cs => readFrom? 0 cs

/-- A numeral: an optional plus sign, then at least one digit and nothing else. -/
def read? (s : String) : Option Nat :=
  match s.toList with
  | '+' :: cs => readDigits? cs
  | cs => readDigits? cs

/-- A numeral that fits into 64 bits. -/
def readWord? (s : String) : Option UInt64 :=
  (read? s).bind fun n => if n < UInt64.size then some (UInt64.ofNat n) else none

end Intercept.Numeral
