import Intercept.Config.Basic
import Intercept.Document.Path
import Intercept.Notice
import Intercept.Store.Listener

/-!
# The session state store

A store follows the state of a session that the server owns. It is unloaded until the first
snapshot. Path hooks subscribe a listener to one exact path; a registration waits in a bounded queue
and is installed when the next document is taken in, so it sees a delta wholly or not at all.

Every registration has a number of its own, so hooks that agree in all their fields are told apart.
A hook that is unhooked while it waits keeps its place in the queue but is not installed.
-/

namespace Intercept

/-- A subscription to a path. -/
structure PathHook where
  id : Nat
  path : String
  module : String
  /-- The name of the listener that receives the events. -/
  listener : String
  /-- Whether events carry the new value. -/
  wantPayload : Bool
deriving DecidableEq, Repr

/-- A registration that has not been installed yet. -/
structure Waiting where
  hook : PathHook
  /-- Cleared when the hook is unhooked while it waits. -/
  isActive : Bool := true
deriving DecidableEq, Repr

/-- What is known of the state of one session, and who is told about it. -/
structure Store where
  config : StateConfig
  /-- The state as far as packets have told it. -/
  state : Document := .null
  isLoaded : Bool := false
  /-- Registrations to be installed, oldest first. -/
  queue : List Waiting := []
  /-- Installed hooks in the order of their registration. -/
  installed : List PathHook := []
  /-- How many events have been lost to full listeners. -/
  dropped : Nat := 0
  /-- The number of the next registration. -/
  nextId : Nat := 0

namespace Store

/-- How many registrations may wait: as many as configured, and at least one. -/
def queueRoom (s : Store) : Nat := max s.config.hookQueueCapacity.toNat 1

/-- The installed hooks on a path, in the order of their registration. -/
def hooksAt (s : Store) (path : String) : List PathHook :=
  s.installed.filter fun h => h.path = path

/-- The number of installed hooks; waiting ones are not counted. -/
def hookCount (s : Store) : Nat := s.installed.length

/-- Register a path hook. Answers its number, or none if the queue is full. -/
def hook (s : Store) (path module listener : String) (wantPayload : Bool) :
    Store × Option Nat × List Signal :=
  if s.queue.length < s.queueRoom then
    let h : PathHook := { id := s.nextId, path, module, listener, wantPayload }
    ({ s with queue := s.queue ++ [{ hook := h }], nextId := s.nextId + 1 }, some s.nextId, [])
  else (s, none, [.notice (.pathHookRefused path module)])

/-- Remove a path hook, wherever it is. Doing so again changes nothing. -/
def unhook (s : Store) (id : Nat) : Store :=
  { s with
    queue := s.queue.map fun w => if w.hook.id = id then { w with isActive := false } else w
    installed := s.installed.filter fun h => h.id ≠ id }

/-- Install the waiting hooks that are still active, and empty the queue. -/
def installWaiting (s : Store) : Store :=
  { s with
    queue := []
    installed := s.installed ++ (s.queue.filter (·.isActive)).map (·.hook) }

/-- The state, once it is loaded. A reader waits until then. -/
def loaded? (s : Store) : Option Document := if s.isLoaded then some s.state else none

/-- The value at a path of a loaded state. -/
def lookup (state : Document) (path : String) : Except EngineError Document :=
  match state.resolve? path with
  | some d => .ok d
  | none => .error (.notFound path)

/-- Read a path; none while the store is not loaded. -/
def get? (s : Store) (path : String) : Option (Except EngineError Document) :=
  s.loaded?.map fun state => lookup state path

end Store

end Intercept
