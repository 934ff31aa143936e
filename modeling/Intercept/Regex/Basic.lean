import Intercept.Regex.CharClass

/-!
# Regular expressions

The tree of a regular expression, and what it means on a text. An expression matches from one
position of the text to another; positions count code points.
-/

namespace Intercept

namespace Regex

/-- Conditions on a position that consume nothing. Words are made of Unicode word characters, or of
ASCII ones where `unicode` is not set. -/
inductive Look where
  | start
  | finish
  | lineStart
  | lineEnd
  /-- Line ends are single carriage returns, line feeds, or the two together. -/
  | crlfStart
  | crlfEnd
  | boundary (unicode negated : Bool)
  | wordStart (unicode : Bool)
  | wordEnd (unicode : Bool)
  | wordStartHalf (unicode : Bool)
  | wordEndHalf (unicode : Bool)
deriving DecidableEq, Repr

/-- The character in front of a position. -/
def before? (text : Array Char) (i : Nat) : Option Char := if i = 0 then none else text[i - 1]?

/-- Whether there is a word character. -/
def isWordAt (unicode : Bool) (c : Option Char) : Bool :=
  match c with
  | some c => EscapeClass.word.mem unicode c
  | none => false

/-- Whether a condition holds at a position. -/
def Look.holds (text : Array Char) (i : Nat) : Look → Bool
  | start => i = 0
  | finish => i = text.size
  | lineStart => i = 0 || before? text i = some '\n'
  | lineEnd => i = text.size || text[i]? = some '\n'
  | crlfStart =>
    i = 0 || before? text i = some '\n' || before? text i = some '\r' && text[i]? ≠ some '\n'
  | crlfEnd =>
    i = text.size || text[i]? = some '\r' || text[i]? = some '\n' && before? text i ≠ some '\r'
  | boundary u negated =>
    (isWordAt u (before? text i) != isWordAt u text[i]?) != negated
  | wordStart u => !isWordAt u (before? text i) && isWordAt u text[i]?
  | wordEnd u => isWordAt u (before? text i) && !isWordAt u text[i]?
  | wordStartHalf u => !isWordAt u (before? text i)
  | wordEndHalf u => !isWordAt u text[i]?

end Regex

open Regex

/-- A regular expression. -/
inductive Regex where
  /-- Matches without consuming anything. -/
  | empty
  /-- Matches one character of a class. -/
  | chars (mode : ClassMode) (cls : CharClass)
  | look (condition : Look)
  /-- Matches as its content does, and remembers where. -/
  | group (index : Nat) (content : Regex)
  | concat (first second : Regex)
  /-- Prefers the first of two expressions. -/
  | alt (first second : Regex)
  /-- Matches its content at least `min` times and, if there is a limit, at most `max` times; a
  greedy loop prefers more rounds. -/
  | loop (content : Regex) (min : Nat) (max : Option Nat) (greedy : Bool)
deriving DecidableEq, Repr

namespace Regex

/-- Whether an expression can only match without consuming anything. -/
def isHollow : Regex → Bool
  | empty => true
  | chars _ _ => false
  | look _ => true
  | group _ r => r.isHollow
  | concat r s => r.isHollow && s.isHollow
  | alt r s => r.isHollow && s.isHollow
  | loop r _ max _ => r.isHollow || max = some 0

/-- Whether an expression might match without consuming anything. -/
def isNullable : Regex → Bool
  | empty => true
  | chars _ _ => false
  | look _ => true
  | group _ r => r.isNullable
  | concat r s => r.isNullable && s.isNullable
  | alt r s => r.isNullable || s.isNullable
  | loop r min _ _ => min = 0 || r.isNullable

/-- A loop without pointless rounds: content that consumes nothing is matched at most once, no
rounds at all are the empty expression, and exactly one round is the content. -/
def repeated (r : Regex) (min : Nat) (max : Option Nat) (greedy : Bool) : Regex :=
  let (min, max) := if r.isHollow then (Nat.min min 1, some (Nat.min (max.getD 1) 1)) else (min, max)
  if min = 0 ∧ max = some 0 then empty
  else if min = 1 ∧ max = some 1 then r
  else loop r min max greedy

/-- Expressions one after the other. -/
def concatAll : List Regex → Regex
  | [] => empty
  | [r] => r
  | r :: rs => concat r (concatAll rs)

/-- Expressions to choose from, the first one preferred. -/
def altAll : List Regex → Regex
  | [] => empty
  | [r] => r
  | r :: rs => alt r (altAll rs)

/-- The number of groups: one more than the greatest index, the whole match being group zero. -/
def groupCount : Regex → Nat
  | empty => 1
  | chars _ _ => 1
  | look _ => 1
  | group i r => max (i + 1) r.groupCount
  | concat r s => max r.groupCount s.groupCount
  | alt r s => max r.groupCount s.groupCount
  | loop r _ _ _ => r.groupCount

/-! ### Meaning -/

mutual

/-- `Matches text r i j` says that `r` matches the text from position `i` to position `j`. -/
inductive Matches (text : Array Char) : Regex → Nat → Nat → Prop where
  | empty {i : Nat} : Matches text .empty i i
  | chars {m : ClassMode} {k : CharClass} {i : Nat} {c : Char} (h : text[i]? = some c)
      (hc : k.mem m c = true) : Matches text (.chars m k) i (i + 1)
  | look {l : Look} {i : Nat} (h : l.holds text i = true) : Matches text (.look l) i i
  | group {n : Nat} {r : Regex} {i j : Nat} (h : Matches text r i j) :
      Matches text (.group n r) i j
  | concat {r s : Regex} {i j k : Nat} (h₁ : Matches text r i j) (h₂ : Matches text s j k) :
      Matches text (.concat r s) i k
  | altLeft {r s : Regex} {i j : Nat} (h : Matches text r i j) : Matches text (.alt r s) i j
  | altRight {r s : Regex} {i j : Nat} (h : Matches text s i j) : Matches text (.alt r s) i j
  | loop {r : Regex} {min n : Nat} {max : Option Nat} {greedy : Bool} {i j : Nat} (hmin : min ≤ n)
      (hmax : ∀ m, max = some m → n ≤ m) (h : Rounds text r n i j) :
      Matches text (.loop r min max greedy) i j

/-- `Rounds text r n i j` says that `n` matches of `r`, one after the other, lead from position `i`
to position `j`. -/
inductive Rounds (text : Array Char) : Regex → Nat → Nat → Nat → Prop where
  | none {r : Regex} {i : Nat} : Rounds text r 0 i i
  | more {r : Regex} {n i j k : Nat} (h₁ : Matches text r i j) (h₂ : Rounds text r n j k) :
      Rounds text r (n + 1) i k

end

/-- An expression occurs in a text if it matches from some position to some position. -/
def Occurs (text : Array Char) (r : Regex) : Prop :=
  ∃ i j, i ≤ text.size ∧ Matches text r i j

end Regex

end Intercept
