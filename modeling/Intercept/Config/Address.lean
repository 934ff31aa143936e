import Intercept.Text.Digit

/-!
# Socket addresses

An IPv4 or IPv6 address with a port. IPv4 octets are written without leading zeros, ports may have
them, and an IPv6 address stands in brackets, with an optional numeric scope. When printed, the first
longest run of at least two zero groups of an IPv6 address is left out, and an address that maps an
IPv4 address ends in its dotted form.
-/

namespace Intercept

/-- Where a socket listens. -/
inductive Address where
  /-- Four octets and a port. -/
  | v4 (octets : List Nat) (port : Nat)
  /-- Eight groups of 16 bits, a scope and a port. -/
  | v6 (groups : List Nat) (scope : Nat) (port : Nat)
deriving DecidableEq, Repr

namespace Address

/-! ### Reading -/

/-- The number spelled by all digits at the front: at least one, at most `maxDigits` if a limit is
given, not above `bound`, and without leading zero unless `zeros` allows it. -/
def number? (base : Nat) (maxDigits : Option Nat) (bound : Nat) (zeros : Bool) (cs : List Char) :
    Option (Nat × List Char) :=
  let ds := cs.takeWhile (Text.isDigitOf base)
  let n := Text.valueIn base ds
  if ds.isEmpty || maxDigits.any (· < ds.length) || (!zeros && ds.head? == some '0' && 1 < ds.length)
      || bound < n then none
  else some (n, cs.drop ds.length)

/-- Drop one expected character. -/
def expect? (c : Char) : List Char → Option (List Char)
  | d :: cs => if d = c then some cs else none
  | [] => none

/-- Four octets joined by dots. -/
def octets? (cs : List Char) : Option (List Nat × List Char) := do
  let octet := number? 10 (some 3) 255 false
  let (a, cs) ← octet cs
  let (b, cs) ← octet (← expect? '.' cs)
  let (c, cs) ← octet (← expect? '.' cs)
  let (d, cs) ← octet (← expect? '.' cs)
  some ([a, b, c, d], cs)

/-- A port after its colon. -/
def port? (cs : List Char) : Option (Nat × List Char) := do
  number? 10 none 65535 true (← expect? ':' cs)

/-- The separator in front of a group, which only the first group of a chunk lacks. -/
def separator? (first : Bool) (cs : List Char) : Option (List Char) :=
  if first then some cs else expect? ':' cs

/-- Up to `room` groups of an IPv6 address, and whether the last two of them were dotted. -/
def groups : Nat → Bool → List Char → List Nat × Bool × List Char
  | 0, _, cs => ([], false, cs)
  | room + 1, first, cs =>
    let dotted := if room = 0 then none else (separator? first cs).bind octets?
    match dotted with
    | some ([a, b, c, d], cs) => ([a * 256 + b, c * 256 + d], true, cs)
    | _ =>
      match (separator? first cs).bind (number? 16 (some 4) 65535 true) with
      | none => ([], false, cs)
      | some (g, cs) =>
        let (gs, dotted, cs) := groups room false cs
        (g :: gs, dotted, cs)

/-- The eight groups of an IPv6 address, with `::` for at least one group of zeros. -/
def ipv6? (cs : List Char) : Option (List Nat × List Char) :=
  let (head, dotted, cs) := groups 8 true cs
  if head.length = 8 then some (head, cs)
  else if dotted then none
  else do
    let cs ← expect? ':' cs
    let cs ← expect? ':' cs
    let (tail, _, cs) := groups (7 - head.length) true cs
    some (head ++ List.replicate (8 - head.length - tail.length) 0 ++ tail, cs)

/-- A scope after its percent sign. -/
def scope? (cs : List Char) : Option (Nat × List Char) := do
  number? 10 none (UInt32.size - 1) true (← expect? '%' cs)

/-- An IPv4 address with port. -/
def parseV4? (cs : List Char) : Option Address := do
  let (octets, cs) ← octets? cs
  let (port, cs) ← port? cs
  if cs.isEmpty then some (v4 octets port) else none

/-- An IPv6 address in brackets with port. -/
def parseV6? (cs : List Char) : Option Address := do
  let (groups, cs) ← ipv6? (← expect? '[' cs)
  let (scope, cs) := (scope? cs).getD (0, cs)
  let (port, cs) ← port? (← expect? ']' cs)
  if cs.isEmpty then some (v6 groups scope port) else none

/-- Read an address. -/
def parse? (s : String) : Option Address := (parseV4? s.toList).orElse fun _ => parseV6? s.toList

/-! ### Writing -/

/-- Octets joined by dots. -/
def renderOctets (octets : List Nat) : String := ".".intercalate (octets.map toString)

/-- Groups in hexadecimal, joined by colons. -/
def renderGroups (groups : List Nat) : String :=
  ":".intercalate (groups.map fun g => String.ofList (Nat.toDigits 16 g))

/-- How many zeros a list starts with. -/
def zeroRun (groups : List Nat) : Nat := (groups.takeWhile (· = 0)).length

/-- Start and length of the first longest run of zeros. -/
def longestZeros (groups : List Nat) : Nat × Nat :=
  (List.range groups.length).foldl
    (fun best i => let n := zeroRun (groups.drop i); if best.2 < n then (i, n) else best) (0, 0)

/-- An IPv6 address. -/
def renderV6 (groups : List Nat) : String :=
  match groups with
  | [0, 0, 0, 0, 0, 0xffff, a, b] =>
    "::ffff:" ++ renderOctets [a / 256, a % 256, b / 256, b % 256]
  | _ =>
    let (start, n) := longestZeros groups
    if 1 < n then renderGroups (groups.take start) ++ "::" ++ renderGroups (groups.drop (start + n))
    else renderGroups groups

/-- The text of an address. -/
def render : Address → String
  | v4 octets port => renderOctets octets ++ ":" ++ toString port
  | v6 groups scope port =>
    "[" ++ renderV6 groups ++ (if scope = 0 then "" else "%" ++ toString scope) ++ "]:"
      ++ toString port

end Address

end Intercept
