import Intercept.Text.Printable

/-!
# Diagnostic quoting

Names and texts appear in diagnostics between double quotes. The quote, the backslash and four
control characters have short escapes; every other character that would not be visible is written
by its code point, and the rest stands for itself.
-/

namespace Intercept.Text

/-- The hexadecimal digits of a number, lower case and without leading zeros. -/
def hexDigits (n : Nat) : List Char := Nat.toDigits 16 n

/-- One character between quotes. -/
def quotedChar (c : Char) : List Char :=
  if c = '"' then ['\\', '"']
  else if c = '\\' then ['\\', '\\']
  else if c = '\t' then ['\\', 't']
  else if c = '\r' then ['\\', 'r']
  else if c = '\n' then ['\\', 'n']
  else if c = '\x00' then ['\\', '0']
  else if isPrintable c then [c]
  else ['\\', 'u', '\x7b'] ++ hexDigits c.toNat ++ ['\x7d']

/-- A text between quotes. -/
def quoted (s : String) : String :=
  "\"" ++ String.ofList (s.toList.flatMap quotedChar) ++ "\""

end Intercept.Text
