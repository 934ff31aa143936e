import Intercept.Regex.Basic

/-!
# Captures

Where the groups of an expression match. Of all matches the one that begins first is taken, and
among these the one that the choices of the expression prefer: the first alternative that succeeds,
the most rounds of a greedy loop, the fewest of a lazy one.

The expression is laid out as a graph of states, and the search follows the edges in order of
preference. It never enters a state twice at the same position, because what could not be completed
from there once cannot be completed at all. This bounds the search, and it ends loops whose rounds
consume nothing.
-/

namespace Intercept.Regex

/-- A state of the graph; edges lead to the numbers of other states. -/
inductive State where
  | chars (mode : ClassMode) (cls : CharClass) (next : Nat)
  | look (condition : Look) (next : Nat)
  /-- Remember the position in a slot. -/
  | save (slot : Nat) (next : Nat)
  /-- Try one edge, then the other. -/
  | split (preferred other : Nat)
  | accept

namespace Graph

/-- A graph under construction, and the state that an expression begins with. -/
abbrev Laid := Nat × Array State

/-- Add a state and begin with it. -/
def add (g : Array State) (s : State) : Laid := (g.size, g.push s)

/-- A choice between one more round and leaving a loop. -/
def choice (greedy : Bool) (round leave : Nat) : State :=
  if greedy then .split round leave else .split leave round

/-- Lay out a number of expressions one behind the other, last one first. -/
def layTimes (lay : Nat → Array State → Laid) : Nat → Nat → Array State → Laid
  | 0, next, g => (next, g)
  | n + 1, next, g =>
    let (start, g) := lay next g
    layTimes lay n start g

/-- Lay out optional rounds, each of which can be left for the end of the loop. -/
def layOptional (lay : Nat → Array State → Laid) (greedy : Bool) (leave : Nat) :
    Nat → Nat → Array State → Laid
  | 0, next, g => (next, g)
  | n + 1, next, g =>
    let (start, g) := lay next g
    let (again, g) := add g (choice greedy start leave)
    layOptional lay greedy leave n again g

/-- Lay out one or more rounds. -/
def layMany (lay : Nat → Array State → Laid) (greedy : Bool) (next : Nat) (g : Array State) : Laid :=
  let (again, g) := add g .accept
  let (start, g) := lay again g
  (start, g.setIfInBounds again (choice greedy start next))

/-- Lay out an expression in front of a state. -/
def lay : Regex → Nat → Array State → Laid
  | .empty, next, g => (next, g)
  | .chars m k, next, g => add g (.chars m k next)
  | .look l, next, g => add g (.look l next)
  | .group i r, next, g =>
    let (finish, g) := add g (.save (2 * i + 1) next)
    let (start, g) := lay r finish g
    add g (.save (2 * i) start)
  | .concat r s, next, g =>
    let (middle, g) := lay s next g
    lay r middle g
  | .alt r s, next, g =>
    let (second, g) := lay s next g
    let (first, g) := lay r next g
    add g (.split first second)
  | .loop r min none greedy, next, g =>
    match min with
    | 0 =>
      if r.isNullable then
        let (start, g) := layMany (lay r) greedy next g
        add g (choice greedy start next)
      else
        let (again, g) := add g .accept
        let (start, g) := lay r again g
        (again, g.setIfInBounds again (choice greedy start next))
    | n + 1 =>
      let (start, g) := layMany (lay r) greedy next g
      layTimes (lay r) n start g
  | .loop r min (some max) greedy, next, g =>
    let (start, g) := layOptional (lay r) greedy next (max - min) next g
    layTimes (lay r) min start g

/-- The graph of an expression. -/
def ofRegex (r : Regex) : Laid := lay r 0 #[.accept]

end Graph

/-- The remembered positions, by slot. -/
abbrev Slots := Array (Option Nat)

/-- A search: the first success, or none, and the states that were entered, with their positions. -/
abbrev Explored := Option Slots × Array Bool

/-- Search from a state at a position. -/
def explore (graph : Array State) (text : Array Char) :
    Nat → Nat → Nat → Slots → Array Bool → Explored
  | 0, _, _, _, seen => (none, seen)
  | fuel + 1, state, i, slots, seen =>
    let place := state * (text.size + 1) + i
    if seen.getD place true then (none, seen)
    else
      let seen := seen.setIfInBounds place true
      match graph[state]? with
      | none => (none, seen)
      | some .accept => (some slots, seen)
      | some (.chars m k next) =>
        match text[i]? with
        | some c => if k.mem m c then explore graph text fuel next (i + 1) slots seen else (none, seen)
        | none => (none, seen)
      | some (.look l next) =>
        if l.holds text i then explore graph text fuel next i slots seen else (none, seen)
      | some (.save slot next) =>
        explore graph text fuel next i (slots.setIfInBounds slot (some i)) seen
      | some (.split a b) =>
        match explore graph text fuel a i slots seen with
        | (some found, seen) => (some found, seen)
        | (none, seen) => explore graph text fuel b i slots seen

/-- Search from every position in turn. -/
def exploreFrom (graph : Array State) (text : Array Char) (fuel start : Nat) (slots : Slots) :
    List Nat → Array Bool → Option Slots
  | [], _ => none
  | i :: is, seen =>
    match explore graph text fuel start i slots seen with
    | (some found, _) => some found
    | (none, seen) => exploreFrom graph text fuel start slots is seen

/-- The slots of the preferred match: two for each group, where it begins and where it ends. -/
def slots? (r : Regex) (text : Array Char) : Option Slots :=
  let (start, graph) := Graph.ofRegex r
  let places := graph.size * (text.size + 1)
  exploreFrom graph text (places + 1) start (Array.replicate (2 * r.groupCount) none)
    (List.range (text.size + 1)) (Array.replicate places false)

/-- The text of a group in the preferred match of an expression: none if the expression does not
occur, and the empty text if the group takes no part. -/
def captured? (r : Regex) (index : Nat) (text : String) : Option String :=
  let chars := text.toList.toArray
  (slots? r chars).map fun slots =>
    match slots.getD (2 * index) none, slots.getD (2 * index + 1) none with
    | some i, some j => String.ofList ((chars.toList.take j).drop i)
    | _, _ => ""

end Intercept.Regex
