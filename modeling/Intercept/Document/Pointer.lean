import Intercept.Document.Path

/-!
# Pointers

A packet names the place of its state document by a key in which dots separate the levels. The key
is read as an RFC 6901 pointer with a slash in front and slashes for dots: `~1` and `~0` in a token
stand for a slash and a tilde, and a position in an array is written without sign or superfluous
zeros.
-/

namespace Intercept

/-- Decode the two escapes of a pointer token. -/
def unescapeToken : List Char → List Char
  | '~' :: '1' :: cs => '/' :: unescapeToken cs
  | '~' :: '0' :: cs => '~' :: unescapeToken cs
  | c :: cs => c :: unescapeToken cs
  | [] => []

/-- The tokens that a key with dots stands for. -/
def pointerTokens (key : String) : List String :=
  let slashed := key.toList.map fun c => if c = '.' then '/' else c
  (Text.splitAt '/' slashed).map fun token => String.ofList (unescapeToken token)

/-- An array position: digits without sign and without superfluous leading zero. -/
def pointerIndex? (token : String) : Option UInt64 :=
  match token.toList with
  | '+' :: _ => none
  | '0' :: _ :: _ => none
  | _ => Numeral.readWord? token

namespace Document

/-- The child that one pointer token leads to. -/
def tokenStep? (d : Document) (token : String) : Option Document :=
  match d with
  | object _ _ => d.field? token
  | array _ _ => (pointerIndex? token).bind fun i => d.item? i.toNat
  | _ => none

/-- Follow the tokens of a pointer. -/
def followTokens? (d : Document) : List String → Option Document
  | [] => some d
  | t :: ts => (d.tokenStep? t).bind fun c => c.followTokens? ts

/-- The value at a key. -/
def atKey? (d : Document) (key : String) : Option Document := d.followTokens? (pointerTokens key)

end Document

end Intercept
