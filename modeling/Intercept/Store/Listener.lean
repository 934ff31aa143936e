import Intercept.Document.Basic

/-!
# Listeners

Events of the session state are sent to listeners. A listener is a bounded queue with a receiving
end: an event offered to it is appended if there is room, lost if there is none, and refused once
the receiver is gone. Sending never waits. Several hooks, of several sessions, may share a listener.
-/

namespace Intercept

/-- A change at a path, with the new value if it was asked for and exists. -/
structure Event where
  path : String
  payload : Option Document

/-- A bounded queue of events. -/
structure Listener where
  capacity : Nat
  waiting : List Event := []
  isClosed : Bool := false

/-- What becomes of an event offered to a listener. -/
inductive Offer where
  | accepted
  | full
  | closed
deriving DecidableEq, Repr

namespace Listener

/-- What becomes of the next event. -/
def outcome (l : Listener) : Offer :=
  if l.isClosed then .closed
  else if l.waiting.length < l.capacity then .accepted
  else .full

/-- The queue after an event has been offered. -/
def offer (l : Listener) (e : Event) : Listener :=
  match l.outcome with
  | .accepted => { l with waiting := l.waiting ++ [e] }
  | _ => l

/-- Take events from the front, at most `max` if a limit is given. -/
def take (l : Listener) (max : Option Nat) : List Event × Listener :=
  let n := max.getD l.waiting.length
  (l.waiting.take n, { l with waiting := l.waiting.drop n })

/-- Drop the receiving end, and with it whatever is waiting. -/
def close (l : Listener) : Listener := { l with waiting := [], isClosed := true }

end Listener

/-- The listeners of a process, by name. -/
abbrev Listeners := List (String × Listener)

namespace Listeners

/-- The listener of a name. -/
def find? (ls : Listeners) (name : String) : Option Listener :=
  (List.find? (fun e => e.1 = name) ls).map (·.2)

/-- Change the listener of a name. -/
def update (ls : Listeners) (name : String) (f : Listener → Listener) : Listeners :=
  ls.map fun e => if e.1 = name then (e.1, f e.2) else e

/-- What becomes of an event for the listener of a name; an unknown listener is a closed one. -/
def outcome (ls : Listeners) (name : String) : Offer :=
  ((find? ls name).map (·.outcome)).getD .closed

/-- Offer an event to the listener of a name. -/
def offer (ls : Listeners) (name : String) (e : Event) : Listeners :=
  ls.update name (·.offer e)

end Listeners

end Intercept
