import Intercept.Document.Basic
import Intercept.Text.Digit

/-!
# Writing documents

The compact text of a document: no blanks, fields in the order of their names, and in strings only
the quote, the backslash and the control characters below the space escaped.
-/

namespace Intercept.Document

/-- A character inside a quoted string. -/
def escapeChar (c : Char) : List Char :=
  if c = '"' then ['\\', '"']
  else if c = '\\' then ['\\', '\\']
  else if c = '\x08' then ['\\', 'b']
  else if c = '\x0c' then ['\\', 'f']
  else if c = '\n' then ['\\', 'n']
  else if c = '\r' then ['\\', 'r']
  else if c = '\t' then ['\\', 't']
  else if c < ' ' then ['\\', 'u', '0', '0', Text.hexDigit (c.toNat / 16), Text.hexDigit (c.toNat % 16)]
  else [c]

/-- A string in quotes. -/
def quote (s : String) : String :=
  "\"" ++ String.ofList (s.toList.flatMap escapeChar) ++ "\""

/-- The compact text of a document. -/
def render : Document → String
  | null => "null"
  | bool true => "true"
  | bool false => "false"
  | number n => n.render
  | string s => quote s
  | array n item =>
    "[" ++ ",".intercalate ((List.finRange n).map fun i => render (item i)) ++ "]"
  | object ks child =>
    "\x7b" ++ ",".intercalate (ks.names.attach.map fun ⟨k, h⟩ => quote k ++ ":" ++ render (child k h))
      ++ "\x7d"

end Intercept.Document
