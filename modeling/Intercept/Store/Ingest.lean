import Intercept.Document.Merge
import Intercept.Document.Parser
import Intercept.Document.Pointer
import Intercept.Store.Basic

/-!
# Taking in packets

The snapshot operation replaces the state and marks it loaded. In every other packet a delta is
looked for; once the state is loaded, a delta is laid over it and an event is sent for every hook on
every field that the delta names. Packets without a document leave the store as it is.

A delta's events follow the walk of the delta, and on one path the order of registration. A full
listener loses the event. Hooks whose listener is closed are removed when the walk is over.
-/

namespace Intercept

/-- What a packet holds at a key. -/
inductive Extract where
  /-- The payload is no document. -/
  | malformed
  /-- The document has nothing at the key. -/
  | absent
  | found (document : Document)

namespace Store

/-- Look for the document at a key of a payload. -/
def extract (payload : ByteArray) (key : String) : Extract :=
  match Document.parseBytes? payload with
  | none => .malformed
  | some root =>
    match root.atKey? key with
    | none => .absent
    | some d => .found d

/-- Space, tab, line feed, form feed and carriage return. -/
def isBlankByte (b : UInt8) : Bool := b = 32 || b = 9 || b = 10 || b = 12 || b = 13

/-- Whether a payload has nothing but blanks. -/
def isBlankPayload (payload : ByteArray) : Bool := payload.data.all isBlankByte

/-! ### Notification -/

/-- A walk of a delta in progress. -/
structure Notification where
  listeners : Listeners
  delivered : Nat := 0
  dropped : Nat := 0
  /-- The hooks whose listener turned out to be closed. -/
  closed : List Nat := []
  signals : List Signal := []

/-- The hooks to notify of a delta, visit by visit. -/
def visits (installed : List PathHook) (delta : Document) : List PathHook :=
  delta.walk.flatMap fun path => installed.filter fun h => h.path = path

/-- The event for a hook, with the value from the state if the hook wants it. -/
def eventFor (state : Document) (h : PathHook) : Event :=
  { path := h.path, payload := if h.wantPayload then state.resolve? h.path else none }

/-- Send one event. -/
def Notification.send (state : Document) (n : Notification) (h : PathHook) : Notification :=
  match n.listeners.outcome h.listener with
  | .accepted =>
    { n with
      listeners := n.listeners.offer h.listener (eventFor state h)
      delivered := n.delivered + 1 }
  | .full =>
    { n with
      dropped := n.dropped + 1
      signals := n.signals ++ [.notice (.eventDropped h.path h.module)] }
  | .closed => { n with closed := h.id :: n.closed }

/-- Send the events of a delta; the state already contains it. -/
def notify (installed : List PathHook) (delta state : Document) (ls : Listeners) : Notification :=
  (visits installed delta).foldl (Notification.send state) { listeners := ls }

/-! ### Snapshots and deltas -/

/-- Replace the state by a snapshot. -/
def applySnapshot (s : Store) (document : Document) : Store :=
  { s.installWaiting with state := document, isLoaded := true }

/-- Lay a delta over the state, notify the hooks, and remove those with closed listeners. -/
def applyDelta (s : Store) (ls : Listeners) (op : String) (delta : Document) :
    Store × Listeners × List Signal :=
  let s := s.installWaiting
  let state := s.state.merge delta
  let n := notify s.installed delta state ls
  let kept := s.installed.filter fun h => !n.closed.contains h.id
  let counted : List Signal := if n.dropped = 0 then [] else [.count .eventsDropped n.dropped]
  let merged := Notice.deltaMerged op n.delivered n.dropped (s.installed.length - kept.length)
  ({ s with state, installed := kept, dropped := s.dropped + n.dropped }, n.listeners,
    n.signals ++ counted ++ [.notice merged])

/-- Take in a packet of the snapshot operation. -/
def ingestSnapshot (s : Store) (op : String) (payload : ByteArray) : Store × List Signal :=
  match extract payload s.config.snapshotKey with
  | .malformed => (s, [.notice (.snapshotMalformed op)])
  | .absent => (s, [.notice (.snapshotMissing op s.config.snapshotKey)])
  | .found document => (s.applySnapshot document, [])

/-- Take in a packet of another operation, for a loaded state. -/
def ingestDelta (s : Store) (ls : Listeners) (op : String) (payload : ByteArray) :
    Store × Listeners × List Signal :=
  if isBlankPayload payload then (s, ls, [])
  else
    match extract payload s.config.deltaKey with
    | .found delta => s.applyDelta ls op delta
    | _ => (s, ls, [])

/-- Take in a packet. -/
def ingest (s : Store) (ls : Listeners) (op : String) (payload : ByteArray) :
    Store × Listeners × List Signal :=
  if op = s.config.snapshotOp then
    let (s, signals) := s.ingestSnapshot op payload
    (s, ls, signals)
  else if s.isLoaded then s.ingestDelta ls op payload
  else (s, ls, [])

end Store

end Intercept
