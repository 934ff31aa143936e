import Intercept.Document.Parser
import Intercept.Text.Split

/-!
# Single values of configuration texts

Strings in four kinds of quotes, integers in four bases, floating-point numbers, and points in time,
which are kept as texts in one form.

Line breaks are single line feeds here; the reader of a whole text sees to that.
-/

namespace Intercept.Toml

/-- Characters that stand for themselves in comments and on one line of a string. -/
def isTextChar (c : Char) : Bool := c = '\t' || (' ' ≤ c && c ≠ '\x7f')

/-- Space and tab. -/
def isSpace (c : Char) : Bool := c = ' ' || c = '\t'

/-- Drop spaces and tabs. -/
def skipSpace (cs : List Char) : List Char := cs.dropWhile isSpace

/-! ### Strings -/

/-- The character of an escape, after its backslash. -/
def escape? : List Char → Option (Char × List Char)
  | 'b' :: cs => some ('\x08', cs)
  | 't' :: cs => some ('\t', cs)
  | 'n' :: cs => some ('\n', cs)
  | 'f' :: cs => some ('\x0c', cs)
  | 'r' :: cs => some ('\r', cs)
  | '"' :: cs => some ('"', cs)
  | '\\' :: cs => some ('\\', cs)
  | 'u' :: cs => do
    let (n, cs) ← Document.hexUnit? cs
    let c ← Text.charOf? n
    some (c, cs)
  | 'U' :: cs => do
    let (high, cs) ← Document.hexUnit? cs
    let (low, cs) ← Document.hexUnit? cs
    let c ← Text.charOf? (high * UInt16.size + low)
    some (c, cs)
  | _ => none

/-- A string on one line after its opening quote, with the characters read so far newest first.
Between double quotes there are escapes. -/
def lineString? (quote : Char) : Nat → List Char → List Char → Option (String × List Char)
  | 0, _, _ => none
  | _ + 1, _, [] => none
  | fuel + 1, acc, c :: cs =>
    if c = quote then some (String.ofList acc.reverse, cs)
    else if c = '\\' ∧ quote = '"' then do
      let (c, cs) ← escape? cs
      lineString? quote fuel (c :: acc) cs
    else if isTextChar c then lineString? quote fuel (c :: acc) cs
    else none

/-- A backslash at the end of a line: everything up to the next text is dropped. -/
def lineContinuation? (cs : List Char) : Option (List Char) :=
  match skipSpace cs with
  | '\n' :: cs => some (cs.dropWhile fun c => isSpace c || c = '\n')
  | _ => none

/-- A string of several lines after its opening quotes. Of up to five quotes in a row the last three
close the string. -/
def blockString? (quote : Char) : Nat → List Char → List Char → Option (String × List Char)
  | 0, _, _ => none
  | _ + 1, _, [] => none
  | fuel + 1, acc, c :: cs =>
    if c = quote then
      let run := (c :: cs).takeWhile (· = quote)
      let rest := cs.dropWhile (· = quote)
      if run.length < 3 then blockString? quote fuel (run ++ acc) rest
      else if run.length ≤ 5 then some (String.ofList (run.drop 3 ++ acc).reverse, rest)
      else none
    else if c = '\\' ∧ quote = '"' then
      match lineContinuation? cs with
      | some cs => blockString? quote fuel acc cs
      | none => do
        let (c, cs) ← escape? cs
        blockString? quote fuel (c :: acc) cs
    else if isTextChar c ∨ c = '\n' then blockString? quote fuel (c :: acc) cs
    else none

/-- A string after its first quote. A line break right after three quotes does not count. -/
def string? (quote : Char) (cs : List Char) : Option (String × List Char) :=
  match cs with
  | a :: b :: rest =>
    if a = quote ∧ b = quote then
      let rest := if rest.head? = some '\n' then rest.drop 1 else rest
      blockString? quote (rest.length + 1) [] rest
    else lineString? quote (cs.length + 1) [] cs
  | cs => lineString? quote (cs.length + 1) [] cs

/-! ### Numbers -/

/-- Digits with single underscores between them. -/
def digits? (isDigit : Char → Bool) (cs : List Char) : Option (List Char) :=
  let runs := Text.splitAt '_' cs
  if runs.all fun r => !r.isEmpty && r.all isDigit then some runs.flatten else none

/-- Decimal digits without leading zeros. -/
def decimalDigits? (cs : List Char) : Option (List Char) :=
  match digits? Char.isDigit cs with
  | some ('0' :: _ :: _) => none
  | ds => ds

/-- The number spelled in a base, with underscores. -/
def basedNumber? (base : Nat) (cs : List Char) : Option Nat :=
  (digits? (Text.isDigitOf base) cs).map (Text.valueIn base)

/-- The sign at the front, and what follows it. -/
def splitSign : List Char → Bool × List Char
  | '-' :: cs => (true, cs)
  | '+' :: cs => (false, cs)
  | cs => (false, cs)

/-- A non-negative integer of 64 bits with sign. -/
def natural? (n : Nat) : Option Number :=
  if n < Number.signedLimit then some (.natural (UInt64.ofNat n)) else none

/-- An integer of 64 bits with sign, in one of four bases. -/
def integer? (cs : List Char) : Option Number :=
  match cs with
  | '0' :: 'x' :: cs => (basedNumber? 16 cs).bind natural?
  | '0' :: 'o' :: cs => (basedNumber? 8 cs).bind natural?
  | '0' :: 'b' :: cs => (basedNumber? 2 cs).bind natural?
  | cs => do
    let (negative, cs) := splitSign cs
    let ds ← decimalDigits? cs
    let n := Text.valueIn 10 ds
    if negative ∧ n ≠ 0 then
      if n ≤ Number.signedLimit then some (.negative (UInt64.ofNat n)) else none
    else natural? n

/-- The double nearest to `n * 10 ^ e`, if it is finite. The power is not computed for numbers far
outside the range of doubles. -/
def scaled? (n : Nat) (e : Int) : Option Binary64 :=
  let places : Int := (toString n).length + e
  if n = 0 ∨ places < -400 then some .zero
  else if 400 < places then none
  else Binary64.ofQuotient? (n * Nat.pow 10 e.toNat) (Nat.pow 10 (-e).toNat)

/-- An exponent after its letter: a sign at most, then digits. -/
def exponent? (cs : List Char) : Option Int :=
  let (negative, cs) := splitSign cs
  (digits? Char.isDigit cs).map fun ds =>
    let e : Int := Text.valueIn 10 ds
    if negative then -e else e

/-- A floating-point number without sign: digits with a fraction, an exponent, or both, or a
word. -/
def magnitude? (cs : List Char) : Option Binary64 :=
  match String.ofList cs with
  | "inf" => some ⟨UInt64.ofNat Binary64.infinity⟩
  | "nan" => some ⟨UInt64.ofNat (Binary64.infinity + 1)⟩
  | _ => do
    let isExponentLetter (c : Char) : Bool := c = 'e' || c = 'E'
    let mantissa := cs.takeWhile (!isExponentLetter ·)
    let ending := cs.dropWhile (!isExponentLetter ·)
    let fraction := mantissa.dropWhile (· ≠ '.')
    guard (!(ending.isEmpty && fraction.isEmpty))
    let whole ← decimalDigits? (mantissa.takeWhile (· ≠ '.'))
    let places ← if fraction.isEmpty then some [] else digits? Char.isDigit (fraction.drop 1)
    let exponent ← if ending.isEmpty then some 0 else exponent? (ending.drop 1)
    scaled? (Text.valueIn 10 (whole ++ places)) (exponent - places.length)

/-- A floating-point number. -/
def float? (cs : List Char) : Option Binary64 :=
  let (negative, cs) := splitSign cs
  (magnitude? cs).map fun x => if negative then x.neg else x

/-! ### Points in time -/

/-- The number of two digits, if it lies within bounds. -/
def twoDigits? (first last : Nat) (a b : Char) : Option Nat :=
  let n := Text.valueIn 10 [a, b]
  if a.isDigit && b.isDigit && first ≤ n && n ≤ last then some n else none

/-- How many days a month has. -/
def daysOf (year month : Nat) : Nat :=
  if month = 2 then
    if year % 4 = 0 ∧ (year % 100 ≠ 0 ∨ year % 400 = 0) then 29 else 28
  else if month = 4 ∨ month = 6 ∨ month = 9 ∨ month = 11 then 30
  else 31

/-- A day at the front. -/
def day? (cs : List Char) : Option (List Char × List Char) :=
  let year := cs.take 4
  match cs.drop 4 with
  | '-' :: m :: n :: '-' :: d :: e :: rest => do
    guard (year.all Char.isDigit)
    let month ← twoDigits? 1 12 m n
    let _ ← twoDigits? 1 (daysOf (Text.valueIn 10 year) month) d e
    some (year ++ ['-', m, n, '-', d, e], rest)
  | _ => none

/-- The fraction of a second, with nine digits at most and no zeros at its end. -/
def fractionText (digits : List Char) : List Char :=
  let digits := ((digits.take 9).reverse.dropWhile (· = '0')).reverse
  if digits.isEmpty then [] else '.' :: digits

/-- A time of the day at the front. -/
def clock? : List Char → Option (List Char × List Char)
  | h :: i :: ':' :: m :: n :: ':' :: s :: t :: cs => do
    let _ ← twoDigits? 0 23 h i
    let _ ← twoDigits? 0 59 m n
    let _ ← twoDigits? 0 60 s t
    let time := [h, i, ':', m, n, ':', s, t]
    match cs with
    | '.' :: cs =>
      match Document.digitRun cs with
      | ([], _) => none
      | (ds, cs) => some (time ++ fractionText ds, cs)
    | cs => some (time, cs)
  | _ => none

/-- The distance from universal time that a point in time may end with. -/
def offset? : List Char → Option (List Char)
  | [] => some []
  | ['Z'] | ['z'] => some ['Z']
  | [sign, h, i, ':', m, n] => do
    let hours ← twoDigits? 0 23 h i
    let minutes ← twoDigits? 0 59 m n
    guard (sign = '+' ∨ sign = '-')
    some [if hours + minutes = 0 then '+' else sign, h, i, ':', m, n]
  | _ => none

/-- A day, a time of the day, or both with or without an offset. -/
def moment? (cs : List Char) : Option (List Char) :=
  match day? cs with
  | some (day, []) => some day
  | some (day, c :: cs) => do
    guard (c = 'T' ∨ c = 't' ∨ c = ' ')
    let (time, cs) ← clock? cs
    let offset ← offset? cs
    some (day ++ 'T' :: time ++ offset)
  | none => do
    let (time, cs) ← clock? cs
    guard cs.isEmpty
    some time

/-! ### Words -/

/-- Characters of numbers, truth values and points in time. -/
def isWordChar (c : Char) : Bool :=
  c.isAlphanum || c = '+' || c = '-' || c = '_' || c = '.' || c = ':'

/-- Cut off the longest word. A day may be followed by a blank and a time. -/
def cutWord (cs : List Char) : List Char × List Char :=
  let word := cs.takeWhile isWordChar
  let rest := cs.dropWhile isWordChar
  match rest with
  | ' ' :: c :: _ =>
    if c.isDigit && (day? word).any (·.2.isEmpty) then
      (word ++ ' ' :: (rest.drop 1).takeWhile isWordChar, (rest.drop 1).dropWhile isWordChar)
    else (word, rest)
  | _ => (word, rest)

/-- The value of a word. -/
def word? (cs : List Char) : Option Document :=
  match String.ofList cs with
  | "true" => some (.bool true)
  | "false" => some (.bool false)
  | _ =>
    ((integer? cs).map Document.number).orElse fun _ =>
      ((float? cs).map fun x => .number (.double x)).orElse fun _ =>
        (moment? cs).map fun t => .string (String.ofList t)

end Intercept.Toml
