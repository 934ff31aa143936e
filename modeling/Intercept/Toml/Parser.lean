import Intercept.Toml.Scalar
import Intercept.Toml.Table

/-!
# Reading configuration texts

A text is a sequence of statements on lines of their own: the header of a table, the header of one
more table in a list, or a key with its value. Blank lines and comments stand anywhere between them
and inside arrays. The result is one document.
-/

namespace Intercept.Toml

/-- Drop blanks, line breaks and comments. The flag tells whether a comment is open. -/
def skipLines : Bool → List Char → Option (List Char)
  | _, [] => some []
  | inComment, c :: cs =>
    if c = '\n' then skipLines false cs
    else if inComment then if isTextChar c then skipLines true cs else none
    else if isSpace c then skipLines false cs
    else if c = '#' then skipLines true cs
    else some (c :: cs)

/-- The end of a statement: blanks and a comment at most, then the end of the line. -/
def endLine? (cs : List Char) : Option (List Char) :=
  match skipSpace cs with
  | [] => some []
  | '\n' :: cs => some cs
  | '#' :: cs =>
    let comment := cs.takeWhile (· ≠ '\n')
    if comment.all isTextChar then some (cs.drop comment.length) else none
  | _ => none

/-! ### Keys -/

/-- Characters of keys without quotes. -/
def isKeyChar (c : Char) : Bool := c.isAlphanum || c = '_' || c = '-'

/-- A key without dots. -/
def simpleKey? : List Char → Option (String × List Char)
  | '"' :: cs => lineString? '"' (cs.length + 1) [] cs
  | '\'' :: cs => lineString? '\'' (cs.length + 1) [] cs
  | cs =>
    let key := cs.takeWhile isKeyChar
    if key.isEmpty then none else some (String.ofList key, cs.dropWhile isKeyChar)

/-- The simple keys of a dotted key, with blanks around each. -/
def key? : Nat → List Char → Option (List String × List Char)
  | 0, _ => none
  | fuel + 1, cs => do
    let (k, cs) ← simpleKey? (skipSpace cs)
    match skipSpace cs with
    | '.' :: cs => do
      let (ks, cs) ← key? fuel cs
      some (k :: ks, cs)
    | cs => some ([k], cs)

/-- A dotted key in two parts: the way, and the last simple key. -/
def splitKey? (cs : List Char) : Option (List String × String × List Char) := do
  let (ks, cs) ← key? (cs.length + 1) cs
  let name ← ks.getLast?
  some (ks.dropLast, name, cs)

/-! ### Values -/

mutual

/-- A value at the front. -/
def value? : Nat → List Char → Option (Document × List Char)
  | 0, _ => none
  | fuel + 1, cs =>
    match cs with
    | '"' :: cs => (string? '"' cs).map fun (s, cs) => (.string s, cs)
    | '\'' :: cs => (string? '\'' cs).map fun (s, cs) => (.string s, cs)
    | '[' :: cs => (items? fuel [] cs).map fun (ds, cs) => (.ofItems ds, cs)
    | '\x7b' :: cs =>
      match skipSpace cs with
      | '\x7d' :: cs => some (.ofFields [], cs)
      | cs => (entries? fuel [] cs).map fun (es, cs) => (.ofFields (fieldsOf es), cs)
    | cs =>
      let (word, cs) := cutWord cs
      (word? word).map fun d => (d, cs)

/-- The items of an array from the next one on, with the earlier ones newest first. A comma may
follow the last item. -/
def items? : Nat → List Document → List Char → Option (List Document × List Char)
  | 0, _, _ => none
  | fuel + 1, acc, cs => do
    match ← skipLines false cs with
    | ']' :: cs => some (acc.reverse, cs)
    | cs => do
      let (d, cs) ← value? fuel cs
      match ← skipLines false cs with
      | ',' :: cs => items? fuel (d :: acc) cs
      | ']' :: cs => some ((d :: acc).reverse, cs)
      | _ => none

/-- The entries of a table on one line from the next one on, after the earlier ones. -/
def entries? : Nat → Entries → List Char → Option (Entries × List Char)
  | 0, _, _ => none
  | fuel + 1, es, cs => do
    let (es, cs) ← entry? fuel es [] cs
    match skipSpace cs with
    | ',' :: cs => entries? fuel es cs
    | '\x7d' :: cs => some (es, cs)
    | _ => none

/-- A key and its value, entered into the table at the end of a path. -/
def entry? : Nat → Entries → List String → List Char → Option (Entries × List Char)
  | 0, _, _, _ => none
  | fuel + 1, es, table, cs => do
    let (path, name, cs) ← splitKey? cs
    match cs with
    | '=' :: cs => do
      let (d, cs) ← value? fuel (skipSpace cs)
      let es ← es.assignIn table path name d
      some (es, cs)
    | _ => none

end

/-! ### Statements -/

/-- The statements from the next one on. Keys belong to the table of the last header. -/
def statements? : Nat → Entries → List String → List Char → Option Entries
  | 0, _, _, _ => none
  | fuel + 1, es, table, cs => do
    match ← skipLines false cs with
    | [] => some es
    | '[' :: '[' :: cs => do
      let (path, name, cs) ← splitKey? cs
      match cs with
      | ']' :: ']' :: cs => do
        let cs ← endLine? cs
        let es ← es.addTable path name
        statements? fuel es (path ++ [name]) cs
      | _ => none
    | '[' :: cs => do
      let (path, name, cs) ← splitKey? cs
      match cs with
      | ']' :: cs => do
        let cs ← endLine? cs
        let es ← es.openTable path name
        statements? fuel es (path ++ [name]) cs
      | _ => none
    | cs => do
      let (es, cs) ← entry? (2 * cs.length + 2) es table cs
      let cs ← endLine? cs
      statements? fuel es table cs

/-- Write every line break as a single line feed. -/
def joinBreaks : List Char → List Char
  | '\r' :: '\n' :: cs => '\n' :: joinBreaks cs
  | c :: cs => c :: joinBreaks cs
  | [] => []

/-- The document of a text. -/
def parse? (s : String) : Option Document :=
  let cs := joinBreaks s.toList
  (statements? (cs.length + 1) [] [] cs).map fun es => .ofFields (fieldsOf es)

end Intercept.Toml
