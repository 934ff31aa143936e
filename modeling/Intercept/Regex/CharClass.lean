import Intercept.Text.CaseFold
import Intercept.Text.WordChar

/-!
# Character classes

What a regular expression can say about one character: ranges, named classes, properties, and unions,
intersections and differences of these. Under case folding a class is widened to all characters that
differ from a member at most in case; this happens to a named class or a property before its negation,
where a bracket closes before its negation, and on both sides of a set operation.

The properties of Unicode, among them the general categories and the scripts, are not listed here.
Which characters have a property is looked up in a table.
-/

namespace Intercept.Regex

/-- The classes with an escape of one letter. -/
inductive EscapeClass where
  | digit
  | space
  | word
deriving DecidableEq, Repr

/-- The classes of ASCII characters with a name between colons. -/
inductive NamedClass where
  | alnum | alpha | ascii | blank | cntrl | digit | graph | lower | print | punct | space | upper
  | word | xdigit
deriving DecidableEq, Repr

/-- A class by its name. -/
def NamedClass.ofName? : String → Option NamedClass
  | "alnum" => some alnum
  | "alpha" => some alpha
  | "ascii" => some ascii
  | "blank" => some blank
  | "cntrl" => some cntrl
  | "digit" => some digit
  | "graph" => some graph
  | "lower" => some lower
  | "print" => some print
  | "punct" => some punct
  | "space" => some space
  | "upper" => some upper
  | "word" => some word
  | "xdigit" => some xdigit
  | _ => none

/-- Whether a character belongs to a named class. -/
def NamedClass.mem (k : NamedClass) (c : Char) : Bool :=
  let n := c.toNat
  match k with
  | alnum => c.isAlphanum
  | alpha => c.isAlpha
  | ascii => n < 0x80
  | blank => c = ' ' || c = '\t'
  | cntrl => n < 0x20 || n = 0x7F
  | digit => c.isDigit
  | graph => 0x21 ≤ n && n ≤ 0x7E
  | lower => c.isLower
  | print => 0x20 ≤ n && n ≤ 0x7E
  | punct => 0x21 ≤ n && n ≤ 0x7E && !c.isAlphanum
  | space => c = ' ' || 9 ≤ n && n ≤ 13
  | upper => c.isUpper
  | word => c.isAlphanum || c = '_'
  | xdigit => c.isDigit || 'a' ≤ c && c ≤ 'f' || 'A' ≤ c && c ≤ 'F'

/-- Whether a character belongs to an escape class, over all of Unicode or over ASCII alone. -/
def EscapeClass.mem (unicode : Bool) (k : EscapeClass) (c : Char) : Bool :=
  match k, unicode with
  | digit, true => Text.isDigit c
  | space, true => Text.isSpace c
  | word, true => Text.isWord c
  | digit, false => NamedClass.digit.mem c
  | space, false => NamedClass.space.mem c
  | word, false => NamedClass.word.mem c

/-- The characters that have a property, as ranges of code points. -/
abbrev CharSet := List (Nat × Nat)

/-- The properties by their names, as these stand between the braces of an escape. How a name may be
written, and that it may consist of a property and a value of it, is a matter of the table. -/
abbrev PropertyTable := String → Option CharSet

/-- The table of someone who knows of no properties. -/
def PropertyTable.unknown : PropertyTable := fun _ => none

/-- The operations between two parts of a bracket. -/
inductive SetOp where
  | intersection
  | difference
  | symmetric
deriving DecidableEq, Repr

/-- The same operation on truth values. -/
def SetOp.apply : SetOp → Bool → Bool → Bool
  | intersection, a, b => a && b
  | difference, a, b => a && !b
  | symmetric, a, b => a != b

/-- A class as it is written. -/
inductive CharClass where
  | empty
  | range (first last : Char)
  | escape (kind : EscapeClass) (negated : Bool)
  | named (kind : NamedClass) (negated : Bool)
  | property (set : CharSet) (negated : Bool)
  | union (a b : CharClass)
  | op (o : SetOp) (a b : CharClass)
  | bracket (negated : Bool) (inner : CharClass)
deriving DecidableEq, Repr

/-- How classes are read. -/
structure ClassMode where
  ignoreCase : Bool := false
  unicode : Bool := true
deriving DecidableEq, Repr

/-- The characters that count as the same one in a mode. -/
def ClassMode.variants (m : ClassMode) (c : Char) : List Char :=
  if !m.ignoreCase then [c]
  else if m.unicode then Text.caseVariants c
  else (Text.caseVariants c).filter fun d => d = c || d.toNat < 0x80

/-- Whether a class, as read in a mode, has a character. -/
def CharClass.mem (m : ClassMode) : CharClass → Char → Bool
  | empty, _ => false
  | range first last, c => first ≤ c && c ≤ last
  | escape kind negated, c => kind.mem m.unicode c != negated
  | named kind negated, c => (m.variants c).any (fun d => kind.mem d) != negated
  | property set negated, c =>
    (m.variants c).any (fun d => Text.inRanges set d.toNat) != negated
  | union a b, c => a.mem m c || b.mem m c
  | op o a b, c => o.apply ((m.variants c).any (a.mem m)) ((m.variants c).any (b.mem m))
  | bracket negated inner, c => (m.variants c).any (inner.mem m) != negated

/-- Whether a class only spells characters of the ASCII range. A property is one of all Unicode
characters, whichever have it. -/
def CharClass.spellsAscii : CharClass → Bool
  | range _ last => last.toNat < 0x80
  | property _ _ => false
  | union a b => a.spellsAscii && b.spellsAscii
  | op _ a b => a.spellsAscii && b.spellsAscii
  | bracket _ inner => inner.spellsAscii
  | _ => true

/-- Whether a class can be read in a mode: without Unicode it must stay within ASCII. -/
def CharClass.isValid (m : ClassMode) (k : CharClass) : Bool :=
  m.unicode ||
    k.spellsAscii && (List.range 0x80).all fun n => !k.mem m (Char.ofNat (0x80 + n))

end Intercept.Regex
