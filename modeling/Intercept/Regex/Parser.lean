import Intercept.Regex.Token

/-!
# Reading regular expressions

The tokens of an expression are taken in one by one by a machine that keeps what has been read of
the innermost group, and below it the groups around it. A closing parenthesis completes the
innermost group; the end of the text completes the expression, if no group is open.
-/

namespace Intercept.Regex

/-- The flags in force. -/
structure Flags where
  ignoreCase : Bool := false
  multiLine : Bool := false
  dotAll : Bool := false
  swapGreed : Bool := false
  unicode : Bool := true
  crlf : Bool := false
  ignoreBlanks : Bool := false
deriving DecidableEq, Repr

namespace Flags

/-- Set or clear one flag. -/
def set (fs : Flags) (f : Flag) (on : Bool) : Flags :=
  match f with
  | .ignoreCase => { fs with ignoreCase := on }
  | .multiLine => { fs with multiLine := on }
  | .dotAll => { fs with dotAll := on }
  | .swapGreed => { fs with swapGreed := on }
  | .unicode => { fs with unicode := on }
  | .crlf => { fs with crlf := on }
  | .ignoreBlanks => { fs with ignoreBlanks := on }

/-- Set and clear several flags. -/
def setAll (fs : Flags) (changes : List (Flag × Bool)) : Flags :=
  changes.foldl (fun fs (f, on) => fs.set f on) fs

/-- How classes are read. -/
def mode (fs : Flags) : ClassMode := { ignoreCase := fs.ignoreCase, unicode := fs.unicode }

end Flags

/-- A class in force, if it can be read. -/
def charsOf? (fs : Flags) (k : CharClass) : Option Regex :=
  if k.isValid fs.mode then some (.chars fs.mode k) else none

/-- A single character. -/
def literalOf? (fs : Flags) (c : Char) (isByte : Bool) : Option Regex :=
  if !fs.unicode && 0x80 ≤ c.toNat then
    if isByte && c.toNat < 0x100 then none else some (.chars { unicode := true } (.range c c))
  else some (.chars fs.mode (.bracket false (.range c c)))

/-- What the dot stands for: all characters but those that end a line. -/
def dotOf? (fs : Flags) : Option Regex :=
  if !fs.unicode then none
  else
    let ends : CharClass :=
      if fs.dotAll then .empty
      else if fs.crlf then .union (.range '\n' '\n') (.range '\r' '\r')
      else .range '\n' '\n'
    some (.chars {} (.bracket true ends))

/-- What a circumflex stands for. -/
def caretOf (fs : Flags) : Regex :=
  .look (if !fs.multiLine then .start else if fs.crlf then .crlfStart else .lineStart)

/-- What a dollar stands for. -/
def dollarOf (fs : Flags) : Regex :=
  .look (if !fs.multiLine then .finish else if fs.crlf then .crlfEnd else .lineEnd)

/-- What an escape or a plain character stands for. -/
def primitiveOf? (fs : Flags) : Primitive → Option Regex
  | .literal c isByte => literalOf? fs c isByte
  | .cls k negated => charsOf? { fs with ignoreCase := false } (.escape k negated)
  | .property s negated => charsOf? fs (.property s negated)
  | .start => some (.look .start)
  | .finish => some (.look .finish)
  | .boundary negated => some (.look (.boundary fs.unicode negated))
  | .wordStart => some (.look (.wordStart fs.unicode))
  | .wordEnd => some (.look (.wordEnd fs.unicode))
  | .wordStartHalf => some (.look (.wordStartHalf fs.unicode))
  | .wordEndHalf => some (.look (.wordEndHalf fs.unicode))

/-- One piece of an alternative: an expression, or a place where flags were set, which cannot be
repeated. -/
abbrev Piece := Option Regex

/-- What has been read of a group. -/
structure Level where
  /-- The alternatives that are complete, last one first. -/
  done : List Regex := []
  /-- The pieces of the alternative that is being read, last one first. -/
  pieces : List Piece := []
deriving DecidableEq, Repr

namespace Level

/-- The alternative that is being read, as it stands. -/
def current (l : Level) : Regex := concatAll (l.pieces.reverse.filterMap id)

/-- Add a piece. -/
def push (l : Level) (p : Piece) : Level := { l with pieces := p :: l.pieces }

/-- Begin another alternative. -/
def nextAlternative (l : Level) : Level := { done := l.current :: l.done, pieces := [] }

/-- All alternatives. -/
def result (l : Level) : Regex := altAll (l.current :: l.done).reverse

end Level

/-- A group that is being read: what is around it, the flags to return to, and its index if it is to
be remembered. -/
structure OpenGroup where
  outer : Level
  flags : Flags
  index : Option Nat
deriving DecidableEq, Repr

/-- The state of the machine. -/
structure Reading where
  level : Level := {}
  groups : List OpenGroup := []
  flags : Flags := {}
  /-- The index of the next group that is remembered. -/
  nextIndex : Nat := 1
  names : List String := []
deriving DecidableEq, Repr

namespace Reading

/-- Add an expression to the current alternative. -/
def push (s : Reading) (r : Regex) : Reading := { s with level := s.level.push (some r) }

/-- Repeat the last piece of the current alternative. -/
def quantify? (s : Reading) (min : Nat) (max : Option Nat) (isLazy : Bool) : Option Reading :=
  match s.level.pieces with
  | some r :: rest =>
    let greedy := isLazy == s.flags.swapGreed
    some { s with level := { s.level with pieces := some (repeated r min max greedy) :: rest } }
  | _ => none

/-- Enter a group. -/
def enter (s : Reading) (index : Option Nat) (flags : Flags) : Reading :=
  { s with level := {}, groups := ⟨s.level, s.flags, index⟩ :: s.groups, flags }

/-- Take in one token. -/
def step? (s : Reading) : Token → Option Reading
  | .primitive p => (primitiveOf? s.flags p).map s.push
  | .dot => (dotOf? s.flags).map s.push
  | .caret => some (s.push (caretOf s.flags))
  | .dollar => some (s.push (dollarOf s.flags))
  | .bracket k => (charsOf? s.flags k).map s.push
  | .openGroup name =>
    match name with
    | none => some { s.enter (some s.nextIndex) s.flags with nextIndex := s.nextIndex + 1 }
    | some n =>
      if n ∈ s.names then none
      else
        some { s.enter (some s.nextIndex) s.flags with
          nextIndex := s.nextIndex + 1, names := n :: s.names }
  | .openFlags changes => some (s.enter none (s.flags.setAll changes))
  | .setFlags changes =>
    some { s with level := s.level.push none, flags := s.flags.setAll changes }
  | .close =>
    match s.groups with
    | [] => none
    | g :: groups =>
      let r := match g.index with
        | some i => .group i s.level.result
        | none => s.level.result
      some { s with level := g.outer.push (some r), groups, flags := g.flags }
  | .bar => some { s with level := s.level.nextAlternative }
  | .quantifier min max isLazy => s.quantify? min max isLazy

/-- Take in a text, with a budget of tokens. -/
def run? (properties : PropertyTable) : Nat → Reading → List Char → Option Reading
  | 0, _, _ => none
  | fuel + 1, s, cs =>
    match skipIf s.flags.ignoreBlanks cs with
    | [] => some s
    | cs => do
      let (t, cs) ← token? properties s.flags.ignoreBlanks cs
      let s ← s.step? t
      run? properties fuel s cs

end Reading

/-- The expression that a text spells. -/
def parse? (properties : PropertyTable) (pattern : String) : Option Regex := do
  let s ← Reading.run? properties (pattern.length + 1) {} pattern.toList
  if s.groups.isEmpty then some s.level.result else none

end Intercept.Regex
