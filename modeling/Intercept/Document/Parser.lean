import Intercept.Document.Basic
import Intercept.Text.Digit

/-!
# Reading documents

The grammar of RFC 8259 without extensions: four characters are blank, literals have no leading
zeros, control characters are escaped, escaped surrogates come in pairs, and containers are nested
at most 127 deep. The text of a document is one value between blanks. Bytes are a document when they
are UTF-8 and their text is.

Each reader takes the remaining characters and answers with what it read and with what is left. The
readers of containers call each other along the text, so they count down from its length.
-/

namespace Intercept.Document

/-- How deep containers may be nested. -/
def maxDepth : Nat := 127

/-- Space, tab, line feed and carriage return. -/
def isBlank (c : Char) : Bool := c = ' ' || c = '\t' || c = '\n' || c = '\r'

/-- Drop leading blanks. -/
def skipBlanks (cs : List Char) : List Char := cs.dropWhile isBlank

/-! ### Strings -/

/-- Four hexadecimal digits. -/
def hexUnit? : List Char → Option (Nat × List Char)
  | a :: b :: c :: d :: cs => do
    let a ← Text.hexValue? a
    let b ← Text.hexValue? b
    let c ← Text.hexValue? c
    let d ← Text.hexValue? d
    some (((a * 16 + b) * 16 + c) * 16 + d, cs)
  | _ => none

/-- The character of an escape of one letter. -/
def shortEscape? : Char → Option Char
  | '"' => some '"'
  | '\\' => some '\\'
  | '/' => some '/'
  | 'b' => some '\x08'
  | 'f' => some '\x0c'
  | 'n' => some '\n'
  | 'r' => some '\r'
  | 't' => some '\t'
  | _ => none

/-- The character of a numeric escape, after the letter that announces it. A high surrogate unit
must be followed by the escape of a low one, and no low one stands alone. -/
def unicodeEscape? (cs : List Char) : Option (Char × List Char) := do
  let (u, cs) ← hexUnit? cs
  if 0xD800 ≤ u ∧ u < 0xDC00 then
    match cs with
    | '\\' :: 'u' :: cs =>
      let (v, cs) ← hexUnit? cs
      if 0xDC00 ≤ v ∧ v < 0xE000 then
        some (Char.ofNat (0x10000 + (u - 0xD800) * 0x400 + (v - 0xDC00)), cs)
      else none
    | _ => none
  else if 0xDC00 ≤ u ∧ u < 0xE000 then none
  else some (Char.ofNat u, cs)

/-- The characters of a string up to its closing quote, newest first in front of `acc`. -/
def stringTail? : Nat → List Char → List Char → Option (String × List Char)
  | 0, _, _ => none
  | _ + 1, _, [] => none
  | _ + 1, acc, '"' :: cs => some (String.ofList acc.reverse, cs)
  | fuel + 1, acc, '\\' :: 'u' :: cs => do
    let (c, cs) ← unicodeEscape? cs
    stringTail? fuel (c :: acc) cs
  | fuel + 1, acc, '\\' :: c :: cs => do
    let c ← shortEscape? c
    stringTail? fuel (c :: acc) cs
  | fuel + 1, acc, c :: cs =>
    if c = '\\' ∨ c < ' ' then none else stringTail? fuel (c :: acc) cs

/-- The rest of a string after its opening quote. -/
def stringBody? (cs : List Char) : Option (String × List Char) :=
  stringTail? (cs.length + 1) [] cs

/-! ### Numbers -/

/-- The longest run of digits at the front. -/
def digitRun (cs : List Char) : List Char × List Char :=
  (cs.takeWhile Char.isDigit, cs.dropWhile Char.isDigit)

/-- Append digits to a significand as long as it fits into 64 bits; answers also how many digits
were taken. The first digit that does not fit ends this, and all digits after it are left. -/
def significandOf : Nat → Nat → List Char → Nat × Nat
  | n, taken, [] => (n, taken)
  | n, taken, c :: cs =>
    let m := 10 * n + (c.toNat - '0'.toNat)
    if m < UInt64.size then significandOf m (taken + 1) cs else (n, taken)

/-- The digits of an integer part: a single zero, or a run that starts with another digit. -/
def integerPart? (cs : List Char) : Option (List Char × List Char) :=
  match digitRun cs with
  | ([], _) => none
  | ('0' :: _ :: _, _) => none
  | (ds, cs) => some (ds, cs)

/-- An optional fraction: a point and at least one digit. -/
def fractionPart? : List Char → Option (List Char × List Char)
  | '.' :: cs =>
    match digitRun cs with
    | ([], _) => none
    | (ds, cs) => some (ds, cs)
  | cs => some ([], cs)

/-- The digits of an exponent, which is required once its letter has been read. -/
def exponentDigits? (negative : Bool) (cs : List Char) : Option (Option Int × List Char) :=
  match digitRun cs with
  | ([], _) => none
  | (ds, cs) =>
    let e : Int := Text.valueIn 10 ds
    some (some (if negative then -e else e), cs)

/-- An optional exponent. -/
def exponentPart? : List Char → Option (Option Int × List Char)
  | c :: cs =>
    if c = 'e' ∨ c = 'E' then
      match cs with
      | '+' :: cs => exponentDigits? false cs
      | '-' :: cs => exponentDigits? true cs
      | cs => exponentDigits? false cs
    else some (none, c :: cs)
  | [] => some (none, [])

/-- The number of a literal, from its sign, its digits and its exponent. Digits that no longer fit
into a 64-bit significand only count as powers of ten before the point, and not at all behind it. -/
def numberOf? (negative : Bool) (whole fraction : List Char) (exponent : Option Int) :
    Option Number :=
  let (n, taken) := significandOf 0 0 whole
  let dropped := whole.length - taken
  match fraction, exponent, dropped with
  | [], none, 0 =>
    if !negative then some (.natural (UInt64.ofNat n))
    else if 1 ≤ n ∧ n ≤ Number.signedLimit then some (.negative (UInt64.ofNat n))
    else (Binary64.ofNat? n).map fun x => .double x.neg
  | _, _, _ => do
    let (m, places) := significandOf n 0 fraction
    let x ← Number.ofScientific? m (dropped - places + exponent.getD 0)
    some (.double (if negative then x.neg else x))

/-- A number, after its optional sign. -/
def unsignedNumber? (negative : Bool) (cs : List Char) : Option (Number × List Char) := do
  let (whole, cs) ← integerPart? cs
  let (fraction, cs) ← fractionPart? cs
  let (exponent, cs) ← exponentPart? cs
  let n ← numberOf? negative whole fraction exponent
  some (n, cs)

/-- A number literal. -/
def number? : List Char → Option (Number × List Char)
  | '-' :: cs => unsignedNumber? true cs
  | cs => unsignedNumber? false cs

/-! ### Values -/

/-- The rest of a text after a word. -/
def afterWord? : List Char → List Char → Option (List Char)
  | [], cs => some cs
  | w :: ws, c :: cs => if w = c then afterWord? ws cs else none
  | _ :: _, [] => none

/-- A string, number or word. -/
def scalar? : List Char → Option (Document × List Char)
  | '"' :: cs => (stringBody? cs).map fun (s, cs) => (.string s, cs)
  | 'n' :: cs => (afterWord? "ull".toList cs).map fun cs => (.null, cs)
  | 't' :: cs => (afterWord? "rue".toList cs).map fun cs => (.bool true, cs)
  | 'f' :: cs => (afterWord? "alse".toList cs).map fun cs => (.bool false, cs)
  | cs => (number? cs).map fun (n, cs) => (.number n, cs)

mutual

/-- A value at the front of the text, with `depth` levels of containers left. -/
def value? : Nat → Nat → List Char → Option (Document × List Char)
  | 0, _, _ => none
  | fuel + 1, depth, cs =>
    match cs with
    | '[' :: cs =>
      match depth with
      | 0 => none
      | depth + 1 => (itemsBody? fuel depth cs).map fun (ds, cs) => (ofItems ds, cs)
    | '\x7b' :: cs =>
      match depth with
      | 0 => none
      | depth + 1 => (membersBody? fuel depth cs).map fun (fs, cs) => (ofFields fs, cs)
    | cs => scalar? cs

/-- The items of an array, after its opening bracket. -/
def itemsBody? : Nat → Nat → List Char → Option (List Document × List Char)
  | 0, _, _ => none
  | fuel + 1, depth, cs =>
    match skipBlanks cs with
    | ']' :: cs => some ([], cs)
    | cs => items? fuel depth [] cs

/-- The items from the next one on, with the earlier ones newest first. -/
def items? : Nat → Nat → List Document → List Char → Option (List Document × List Char)
  | 0, _, _, _ => none
  | fuel + 1, depth, acc, cs => do
    let (d, cs) ← value? fuel depth cs
    match skipBlanks cs with
    | ',' :: cs => items? fuel depth (d :: acc) (skipBlanks cs)
    | ']' :: cs => some ((d :: acc).reverse, cs)
    | _ => none

/-- The fields of an object as they are written, after its opening brace. -/
def membersBody? : Nat → Nat → List Char → Option (List (String × Document) × List Char)
  | 0, _, _ => none
  | fuel + 1, depth, cs =>
    match skipBlanks cs with
    | '\x7d' :: cs => some ([], cs)
    | cs => members? fuel depth [] cs

/-- The fields from the next one on, with the earlier ones newest first. -/
def members? : Nat → Nat → List (String × Document) → List Char →
    Option (List (String × Document) × List Char)
  | 0, _, _, _ => none
  | fuel + 1, depth, acc, cs =>
    match cs with
    | '"' :: cs => do
      let (k, cs) ← stringBody? cs
      match skipBlanks cs with
      | ':' :: cs => do
        let (d, cs) ← value? fuel depth (skipBlanks cs)
        match skipBlanks cs with
        | ',' :: cs => members? fuel depth ((k, d) :: acc) (skipBlanks cs)
        | '\x7d' :: cs => some (((k, d) :: acc).reverse, cs)
        | _ => none
      | _ => none
    | _ => none

end

/-- A budget for the readers that suffices for a text: no call spends three without consuming. -/
def budget (cs : List Char) : Nat := 3 * cs.length + 1

/-- The document written by a list of characters. -/
def parseChars? (cs : List Char) : Option Document := do
  let (d, rest) ← value? (budget cs) maxDepth (skipBlanks cs)
  if (skipBlanks rest).isEmpty then some d else none

/-- The document that a text writes. -/
def parse? (s : String) : Option Document := parseChars? s.toList

/-- The fields of the object that a text writes, in order and with repetitions. -/
def parseFields? (s : String) : Option (List (String × Document)) :=
  match skipBlanks s.toList with
  | '\x7b' :: cs => do
    let (fs, rest) ← membersBody? (budget cs) (maxDepth - 1) cs
    if (skipBlanks rest).isEmpty then some fs else none
  | _ => none

/-- The document that bytes write. -/
def parseBytes? (bytes : ByteArray) : Option Document := (String.fromUTF8? bytes).bind parse?

end Intercept.Document
