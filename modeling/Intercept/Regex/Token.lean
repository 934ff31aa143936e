import Intercept.Regex.Basic
import Intercept.Text.Digit

/-!
# Tokens of regular expressions

The text of an expression is a sequence of tokens: characters and classes, conditions, quantifiers,
brackets of groups, flags and bars. What a token means can depend on flags, but where it ends
depends on them only in one respect: with the flag `x`, blanks and comments are ignored, between
tokens and inside most of them. An escape that names a property is refused if the table at hand does
not have it.
-/

namespace Intercept.Regex

/-- The flags that an expression can set for itself. -/
inductive Flag where
  /-- `i`: letters match in either case. -/
  | ignoreCase
  /-- `m`: line anchors match at the ends of lines. -/
  | multiLine
  /-- `s`: the dot matches line feeds, too. -/
  | dotAll
  /-- `U`: greedy and lazy loops change places. -/
  | swapGreed
  /-- `u`: classes cover all of Unicode. -/
  | unicode
  /-- `R`: lines may end in carriage returns. -/
  | crlf
  /-- `x`: blanks and comments are ignored. -/
  | ignoreBlanks
deriving DecidableEq, Repr

/-- A flag by its letter. -/
def Flag.ofLetter? : Char → Option Flag
  | 'i' => some ignoreCase
  | 'm' => some multiLine
  | 's' => some dotAll
  | 'U' => some swapGreed
  | 'u' => some unicode
  | 'R' => some crlf
  | 'x' => some ignoreBlanks
  | _ => none

/-- What an escape, or a plain character, stands for. -/
inductive Primitive where
  /-- A character; `isByte` marks one that is given by two hexadecimal digits. -/
  | literal (c : Char) (isByte : Bool)
  | cls (kind : EscapeClass) (negated : Bool)
  | property (set : CharSet) (negated : Bool)
  | start
  | finish
  | boundary (negated : Bool)
  | wordStart
  | wordEnd
  | wordStartHalf
  | wordEndHalf
deriving DecidableEq, Repr

/-- A token. -/
inductive Token where
  | primitive (p : Primitive)
  | dot
  | caret
  | dollar
  | bracket (cls : CharClass)
  /-- Opens a group that is remembered, under a name if it has one. -/
  | openGroup (name : Option String)
  /-- Opens a group that is not remembered and sets flags inside it. -/
  | openFlags (flags : List (Flag × Bool))
  /-- Sets flags up to the end of the group around it. -/
  | setFlags (flags : List (Flag × Bool))
  | close
  | bar
  /-- Repeats what stands in front of it. -/
  | quantifier (min : Nat) (max : Option Nat) (isLazy : Bool)
deriving DecidableEq, Repr

/-! ### Blanks and comments -/

/-- Drop blanks and comments; a comment ends with its line. -/
def skipIgnored (inComment : Bool) : List Char → List Char
  | [] => []
  | c :: cs =>
    if inComment then skipIgnored (c ≠ '\n') cs
    else if c = '#' then skipIgnored true cs
    else if Text.isSpace c then skipIgnored false cs
    else c :: cs

/-- Drop what is ignored between tokens. -/
def skipIf (blanks : Bool) (cs : List Char) : List Char :=
  if blanks then skipIgnored false cs else cs

/-- The characters up to a closing brace, but those that are ignored, and the text after it. -/
def braced? (blanks inComment : Bool) : List Char → Option (List Char × List Char)
  | [] => none
  | c :: cs =>
    if inComment then braced? blanks (c ≠ '\n') cs
    else if c = '\x7d' then some ([], cs)
    else if blanks && c = '#' then braced? blanks true cs
    else if blanks && Text.isSpace c then braced? blanks false cs
    else (braced? blanks false cs).map fun (body, cs) => (c :: body, cs)

/-- The next characters, but those that are ignored, and the text after them. -/
def taken? (blanks : Bool) : Nat → List Char → Option (List Char × List Char)
  | 0, cs => some ([], cs)
  | n + 1, cs =>
    match skipIf blanks cs with
    | [] => none
    | c :: cs => (taken? blanks n cs).map fun (ds, cs) => (c :: ds, cs)

/-! ### Escapes -/

/-- The characters with a meaning of their own. -/
def isMeta (c : Char) : Bool := "\\.+*?()|[]\x7b\x7d^$#&-~".toList.contains c

/-- The characters that may be escaped to stand for themselves. -/
def isEscapable (c : Char) : Bool :=
  isMeta c || c.toNat < 0x80 && !c.isAlphanum && c ≠ '<' && c ≠ '>'

/-- The number that hexadecimal digits spell. -/
def hexNumber? (cs : List Char) : Option Nat :=
  cs.foldlM (fun n c => (Text.hexValue? c).map (16 * n + ·)) 0

/-- A character given by its code point, in braces or in a fixed number of digits. -/
def hexEscape? (blanks : Bool) (digits : Nat) (cs : List Char) : Option (Primitive × List Char) :=
  match skipIf blanks cs with
  | '\x7b' :: cs => do
    let (ds, cs) ← braced? blanks false cs
    guard (!ds.isEmpty)
    let c ← (hexNumber? ds).bind Text.charOf?
    some (.literal c false, cs)
  | cs => do
    let (ds, cs) ← taken? blanks digits cs
    let c ← (hexNumber? ds).bind Text.charOf?
    some (.literal c (digits = 2), cs)

/-- A property, by its name in braces or by one letter. -/
def property? (properties : PropertyTable) (blanks negated : Bool) (cs : List Char) :
    Option (Primitive × List Char) :=
  match skipIf blanks cs with
  | [] => none
  | '\x7b' :: cs => do
    let (name, cs) ← braced? blanks false cs
    let set ← properties (String.ofList name)
    some (.property set negated, cs)
  | c :: cs => do
    guard (c ≠ '\\')
    let set ← properties (String.singleton c)
    some (.property set negated, cs)

/-- The name of a special word boundary: letters and hyphens. -/
def isBoundaryName (c : Char) : Bool := c.isAlpha || c = '-'

/-- What follows the escape of a word boundary. A brace right after it opens the name of a special one,
unless what it holds cannot be a name. -/
def boundary? (blanks : Bool) : List Char → Option (Primitive × List Char)
  | '\x7b' :: cs =>
    match skipIf blanks cs with
    | [] => none
    | c :: _ =>
      if isBoundaryName c then do
        let (name, cs) ← braced? blanks false cs
        match String.ofList name with
        | "start" => some (.wordStart, cs)
        | "end" => some (.wordEnd, cs)
        | "start-half" => some (.wordStartHalf, cs)
        | "end-half" => some (.wordEndHalf, cs)
        | _ => none
      else some (.boundary false, '\x7b' :: cs)
  | cs => some (.boundary false, cs)

/-- What an escape stands for, after its backslash. -/
def escape? (properties : PropertyTable) (blanks : Bool) : List Char → Option (Primitive × List Char)
  | [] => none
  | 'x' :: cs => hexEscape? blanks 2 cs
  | 'u' :: cs => hexEscape? blanks 4 cs
  | 'U' :: cs => hexEscape? blanks 8 cs
  | 'p' :: cs => property? properties blanks false cs
  | 'P' :: cs => property? properties blanks true cs
  | 'd' :: cs => some (.cls .digit false, cs)
  | 'D' :: cs => some (.cls .digit true, cs)
  | 's' :: cs => some (.cls .space false, cs)
  | 'S' :: cs => some (.cls .space true, cs)
  | 'w' :: cs => some (.cls .word false, cs)
  | 'W' :: cs => some (.cls .word true, cs)
  | 'a' :: cs => some (.literal '\x07' false, cs)
  | 'f' :: cs => some (.literal '\x0c' false, cs)
  | 't' :: cs => some (.literal '\t' false, cs)
  | 'n' :: cs => some (.literal '\n' false, cs)
  | 'r' :: cs => some (.literal '\r' false, cs)
  | 'v' :: cs => some (.literal '\x0b' false, cs)
  | 'A' :: cs => some (.start, cs)
  | 'z' :: cs => some (.finish, cs)
  | 'b' :: cs => boundary? blanks cs
  | 'B' :: cs => some (.boundary true, cs)
  | '<' :: cs => some (.wordStart, cs)
  | '>' :: cs => some (.wordEnd, cs)
  | c :: cs => if isEscapable c then some (.literal c false, cs) else none

/-! ### Brackets -/

/-- A named class between colons, after its bracket. -/
def namedClass? : List Char → Option (CharClass × List Char)
  | ':' :: cs =>
    let (negated, cs) := match cs with
      | '^' :: cs => (true, cs)
      | cs => (false, cs)
    let name := cs.takeWhile (· ≠ ':')
    match cs.drop name.length with
    | ':' :: ']' :: rest =>
      (NamedClass.ofName? (String.ofList name)).map fun k => (.named k negated, rest)
    | _ => none
  | _ => none

/-- One item of a bracket: an escape or a plain character. -/
def bracketItem? (properties : PropertyTable) (blanks : Bool) :
    List Char → Option (Primitive × List Char)
  | [] => none
  | '\\' :: cs => escape? properties blanks cs
  | c :: cs => some (.literal c false, cs)

/-- An item that stands for itself. -/
def Primitive.toClass? : Primitive → Option CharClass
  | .literal c _ => some (.range c c)
  | .cls k negated => some (.escape k negated)
  | .property s negated => some (.property s negated)
  | _ => none

/-- A hyphen stands between the ends of a range unless it is the last item or one of two. -/
def rangeFollows (blanks : Bool) : List Char → Option (List Char)
  | '-' :: cs =>
    match skipIf blanks cs with
    | ']' :: _ | '-' :: _ => none
    | cs' => some cs'
  | _ => none

/-- An item or a range of characters. -/
def bracketRange? (properties : PropertyTable) (blanks : Bool) (cs : List Char) :
    Option (CharClass × List Char) := do
  let (p, cs) ← bracketItem? properties blanks cs
  let cs := skipIf blanks cs
  match rangeFollows blanks cs with
  | none => do
    let k ← p.toClass?
    some (k, cs)
  | some cs => do
    let (q, cs) ← bracketItem? properties blanks cs
    match p, q with
    | .literal first _, .literal last _ =>
      if first ≤ last then some (.range first last, cs) else none
    | _, _ => none

/-- The operation that is still to be performed, with its first part. -/
abbrev PendingOp := Option (SetOp × CharClass)

/-- Perform the pending operation. -/
def PendingOp.complete (pending : PendingOp) (k : CharClass) : CharClass :=
  match pending with
  | none => k
  | some (o, a) => .op o a k

/-- The operator at the front of a text. -/
def setOp? : List Char → Option (SetOp × List Char)
  | '&' :: '&' :: cs => some (.intersection, cs)
  | '-' :: '-' :: cs => some (.difference, cs)
  | '~' :: '~' :: cs => some (.symmetric, cs)
  | _ => none

/-- Hyphens at the beginning of a bracket stand for themselves. -/
def leadingHyphens (blanks : Bool) : Nat → CharClass → List Char → CharClass × List Char
  | 0, k, cs => (k, cs)
  | fuel + 1, k, cs =>
    match skipIf blanks cs with
    | '-' :: cs => leadingHyphens blanks fuel (.union k (.range '-' '-')) cs
    | cs => (k, cs)

mutual

/-- A bracket after its opening: an optional negation, then the first items, which may be a closing
bracket that stands for itself. -/
def bracket? (properties : PropertyTable) (blanks : Bool) :
    Nat → List Char → Option (CharClass × List Char)
  | 0, _ => none
  | fuel + 1, cs =>
    let (negated, cs) := match skipIf blanks cs with
      | '^' :: cs => (true, cs)
      | cs => (false, cs)
    let (k, cs) := leadingHyphens blanks cs.length .empty cs
    let (k, cs) := match k, cs with
      | .empty, ']' :: cs => (CharClass.range ']' ']', cs)
      | k, cs => (k, cs)
    (bracketRest? properties blanks fuel none k cs).map fun (k, cs) => (.bracket negated k, cs)

/-- The rest of a bracket, after the items of `k` and with an operation that may be pending. -/
def bracketRest? (properties : PropertyTable) (blanks : Bool) :
    Nat → PendingOp → CharClass → List Char → Option (CharClass × List Char)
  | 0, _, _, _ => none
  | fuel + 1, pending, k, cs =>
    let cs := skipIf blanks cs
    match setOp? cs with
    | some (o, cs) => bracketRest? properties blanks fuel (some (o, pending.complete k)) .empty cs
    | none =>
      match cs with
      | [] => none
      | ']' :: cs => some (pending.complete k, cs)
      | '[' :: cs =>
        match namedClass? cs with
        | some (inner, cs) => bracketRest? properties blanks fuel pending (.union k inner) cs
        | none => do
          let (inner, cs) ← bracket? properties blanks fuel cs
          bracketRest? properties blanks fuel pending (.union k inner) cs
      | cs => do
        let (inner, cs) ← bracketRange? properties blanks cs
        bracketRest? properties blanks fuel pending (.union k inner) cs

end

/-! ### Quantifiers -/

/-- A question mark after a quantifier makes it lazy. -/
def lazyMark : List Char → Bool × List Char
  | '?' :: cs => (true, cs)
  | cs => (false, cs)

/-- A count below `2 ^ 32` with blanks around it. -/
def count? (cs : List Char) : Option Nat :=
  let cs := cs.dropWhile Text.isSpace
  let ds := cs.takeWhile Char.isDigit
  let n := Text.valueIn 10 ds
  if ds.isEmpty || UInt32.size ≤ n || !(cs.drop ds.length).all Text.isSpace then none else some n

/-- The bounds of a loop, which stand between braces. -/
def bounds? (cs : List Char) : Option (Nat × Option Nat) :=
  let front := cs.takeWhile (· ≠ ',')
  match cs.drop front.length with
  | [] => (count? front).map fun min => (min, some min)
  | [_] => (count? front).map fun min => (min, none)
  | _ :: back => do
    let min ← count? front
    let max ← count? back
    if min ≤ max then some (min, some max) else none

/-! ### Groups and flags -/

/-- Whether a character may be part of a group name, at its beginning or later. -/
def isNameChar (first : Bool) (c : Char) : Bool :=
  if first then c = '_' || Text.isWord c && !Text.isDigit c
  else c = '_' || c = '.' || c = '[' || c = ']' || Text.isWord c

/-- The name of a group, up to its closing angle. -/
def groupName? (cs : List Char) : Option (String × List Char) :=
  let name := cs.takeWhile (· ≠ '>')
  match name, cs.drop name.length with
  | c :: rest, '>' :: cs =>
    if isNameChar true c && rest.all (isNameChar false) then some (String.ofList name, cs) else none
  | _, _ => none

/-- Flags up to a colon or a closing parenthesis, which is answered as well. Each flag occurs at
most once, and at most one minus, which is not the last. -/
def flags? (seen : List (Flag × Bool)) (minus : Bool) (dangling : Bool) :
    List Char → Option (List (Flag × Bool) × Char × List Char)
  | [] => none
  | c :: cs =>
    if c = ':' ∨ c = ')' then if dangling then none else some (seen, c, cs)
    else if c = '-' then if minus then none else flags? seen true true cs
    else do
      let f ← Flag.ofLetter? c
      if seen.any fun e => e.1 = f then none else flags? (seen ++ [(f, !minus)]) minus false cs

/-- What follows an opening parenthesis. -/
def openGroup? (blanks : Bool) (cs : List Char) : Option (Token × List Char) :=
  match skipIf blanks cs with
  | '?' :: '=' :: _ | '?' :: '!' :: _ => none
  | '?' :: '<' :: '=' :: _ | '?' :: '<' :: '!' :: _ => none
  | '?' :: 'P' :: '<' :: cs | '?' :: '<' :: cs =>
    (groupName? cs).map fun (name, cs) => (.openGroup (some name), cs)
  | '?' :: cs => do
    let (fs, c, cs) ← flags? [] false false cs
    if c = ':' then some (.openFlags fs, cs)
    else if fs.isEmpty then none
    else some (.setFlags fs, cs)
  | cs => some (.openGroup none, cs)

/-- The token at the front of a text. -/
def token? (properties : PropertyTable) (blanks : Bool) : List Char → Option (Token × List Char)
  | [] => none
  | '.' :: cs => some (.dot, cs)
  | '^' :: cs => some (.caret, cs)
  | '$' :: cs => some (.dollar, cs)
  | '|' :: cs => some (.bar, cs)
  | ')' :: cs => some (.close, cs)
  | '(' :: cs => openGroup? blanks cs
  | '[' :: cs =>
    (bracket? properties blanks (2 * cs.length + 2) cs).map fun (k, cs) => (.bracket k, cs)
  | '*' :: cs => let (isLazy, cs) := lazyMark cs; some (.quantifier 0 none isLazy, cs)
  | '+' :: cs => let (isLazy, cs) := lazyMark cs; some (.quantifier 1 none isLazy, cs)
  | '?' :: cs => let (isLazy, cs) := lazyMark cs; some (.quantifier 0 (some 1) isLazy, cs)
  | '\x7b' :: cs => do
    let (body, cs) ← braced? blanks false cs
    let (min, max) ← bounds? body
    let (isLazy, cs) := lazyMark (skipIf blanks cs)
    some (.quantifier min max isLazy, cs)
  | '\\' :: cs => (escape? properties blanks cs).map fun (p, cs) => (.primitive p, cs)
  | c :: cs => some (.primitive (.literal c false), cs)

end Intercept.Regex
