import Intercept.Regex.Basic

/-!
# Searching

Whether an expression occurs in a text. The search keeps the set of positions that have been
reached, as a list without repetitions, and lets the expression take all of them on at once; a loop
goes on as long as it reaches new positions. So the work is bounded by the size of the expression
and the square of the length of the text, whatever the expression is.
-/

namespace Intercept.Regex

/-- The positions in either list, each once. -/
def unite (is js : List Nat) : List Nat := js.foldl (fun s j => if s.contains j then s else s ++ [j]) is

/-- Apply a function a number of times. -/
def iterate {α : Type} (f : α → α) : Nat → α → α
  | 0, a => a
  | n + 1, a => iterate f n (f a)

/-- The positions that up to `n` rounds of a step reach from some positions. -/
def closure (step : List Nat → List Nat) : Nat → List Nat → List Nat
  | 0, s => s
  | n + 1, s => unite s (closure step n (step s))

/-- The positions that an expression reaches from some positions. -/
def reach (text : Array Char) : Regex → List Nat → List Nat
  | .empty, s => s
  | .chars m k, s =>
    s.filterMap fun i => (text[i]?.filter (k.mem m)).map fun _ => i + 1
  | .look l, s => s.filter fun i => l.holds text i
  | .group _ r, s => reach text r s
  | .concat r₁ r₂, s => reach text r₂ (reach text r₁ s)
  | .alt r₁ r₂, s => unite (reach text r₁ s) (reach text r₂ s)
  | .loop r min max _, s =>
    let rounds := match max with
      | some m => Nat.min (m - min) (text.size + 1)
      | none => text.size + 1
    closure (reach text r) rounds (iterate (reach text r) min s)

/-- Whether an expression occurs in a text. -/
def occurs (r : Regex) (text : String) : Bool :=
  let text := text.toList.toArray
  !(reach text r (List.range (text.size + 1))).isEmpty

end Intercept.Regex
