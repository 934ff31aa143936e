import Intercept.Notice

/-!
# The hook table

The packet hooks of a session, in the order in which they run. Hooks are told apart by number, never
by their fields, and an insertion puts a hook behind all others. Sorting arranges them by descending
priority and leaves hooks of equal priority in their order. The chain of an operation are the hooks
registered on exactly that operation.

`α` is the type of handlers.
-/

namespace Intercept

/-- A packet hook. -/
structure Hook (α : Type) where
  id : Nat
  label : HookLabel
  handler : α

namespace Hook

variable {α : Type}

def target (h : Hook α) : String := h.label.target

def priority (h : Hook α) : Int32 := h.label.priority

def module (h : Hook α) : String := h.label.module

end Hook

/-- The packet hooks of a session. -/
structure HookTable (α : Type) where
  hooks : List (Hook α) := []

namespace HookTable

variable {α : Type}

/-- Add a hook behind all others. -/
def insert (t : HookTable α) (h : Hook α) : HookTable α := ⟨t.hooks ++ [h]⟩

/-- Whether a hook is in the table. -/
def contains (t : HookTable α) (id : Nat) : Bool := t.hooks.any fun h => h.id = id

/-- Take a hook out. -/
def remove (t : HookTable α) (id : Nat) : HookTable α := ⟨t.hooks.filter fun h => h.id ≠ id⟩

/-- Put a hook in front of the first one that has no greater priority. -/
def insertByPriority (h : Hook α) : List (Hook α) → List (Hook α)
  | [] => [h]
  | g :: gs => if g.priority ≤ h.priority then h :: g :: gs else g :: insertByPriority h gs

/-- Arrange the hooks by descending priority, equal priorities in their order. -/
def sort (t : HookTable α) : HookTable α := ⟨t.hooks.foldr insertByPriority []⟩

/-- The hooks on an operation, in the order in which they run. -/
def chain (t : HookTable α) (target : String) : List (Hook α) :=
  t.hooks.filter fun h => h.target = target

/-- The number of hooks. -/
def size (t : HookTable α) : Nat := t.hooks.length

end HookTable

/-- The target that stands for every operation. -/
def wildcard : String := "*"

/-- The hooks that a packet passes through: those on every operation, then those on its own. -/
def HookTable.chainFor {α : Type} (t : HookTable α) (op : String) : List (Hook α) :=
  t.chain wildcard ++ if op = wildcard then [] else t.chain op

end Intercept
