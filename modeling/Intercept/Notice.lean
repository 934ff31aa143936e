import Intercept.Error
import Intercept.Text.Quoted

/-!
# Notices and counters

Everything the engine reports about its own work: notices for the log, and amounts added to metric
counters. Both are values with a cause, in the order in which they arise; their wording is one
function.
-/

namespace Intercept

/-- What identifies a packet hook in diagnostics: the operation it is registered on, its priority
and its module. -/
structure HookLabel where
  target : String
  priority : Int32
  module : String
deriving DecidableEq, Repr

/-- The diagnostic text of a packet hook. -/
def HookLabel.render (h : HookLabel) : String :=
  "PacketHook \x7b target: " ++ Text.quoted h.target ++ ", priority: " ++ toString h.priority.toInt
    ++ ", module: " ++ Text.quoted h.module ++ ", .. \x7d"

/-- A notice for the log. Sessions are named by their identity, modules and operations by name. -/
inductive Notice where
  /-- A module name is registered again. -/
  | moduleRepeated (module : String)
  /-- A module's init function failed. -/
  | initFault (module session fault : String)
  /-- A shutdown callback failed. -/
  | shutdownFault (module session fault : String)
  /-- A shutdown callback took the place of another one. -/
  | shutdownReplaced (module : String)
  /-- A packet hook failed. -/
  | hookFault (module op session fault : String)
  /-- A hook to be removed is not there. -/
  | hookAbsent (hook : HookLabel)
  /-- A hook was registered after its module's init function had returned. -/
  | hookLate (hook : HookLabel)
  /-- A hook was registered after its session had ended. -/
  | hookOrphaned (hook : HookLabel)
  /-- There is no room for another waiting path hook. -/
  | pathHookRefused (path module : String)
  /-- An event was lost to a full listener. -/
  | eventDropped (path module : String)
  /-- A snapshot packet lacks its document. -/
  | snapshotMissing (op key : String)
  /-- A snapshot packet is no document. -/
  | snapshotMalformed (op : String)
  /-- A delta was merged and its events were sent. -/
  | deltaMerged (op : String) (delivered dropped closed : Nat)
  /-- No certificate could be produced for a host. -/
  | certificateFailed (host : String) (error : EngineError)
  /-- A certificate made room for another one. -/
  | certificateEvicted (host : String)
  /-- Certificates are switched off. -/
  | tlsDisabled
  /-- A game host's region is unknown. -/
  | regionUnmapped (host captured : String)
  /-- A start callback failed. -/
  | startFault (fault : String)
  /-- A uid header is no number. -/
  | uidHeaderRejected (op uid : String)
  /-- A login body is no document. -/
  | loginMalformed
  /-- A login body has no numeric uid; the document is given as text. -/
  | loginWithoutUid (body : String)
  /-- A tunnel was asked for. -/
  | connectRefused (host : String)
  /-- The origin server cannot be reached. -/
  | unreachable (host : String)
deriving DecidableEq, Repr

namespace Notice

/-- The wording of a notice. -/
def message : Notice → String
  | moduleRepeated m => s!"Module {m} registered more than once"
  | initFault m s f => s!"Module {m} panicked during init for {s}: {f}"
  | shutdownFault m s f => s!"Module {m} panicked during shutdown for {s}: {f}"
  | shutdownReplaced m => s!"Module {m} replaced its shutdown callback"
  | hookFault m op s f => s!"Recovered from panic while executing {m} on {op} for {s}: {f}"
  | hookAbsent h => "Tried to remove hook that doesn't exist: " ++ h.render
  | hookLate h => "Failed to add hook " ++ h.render ++ ", module " ++ h.module ++
      " already initialized"
  | hookOrphaned h => "Failed to add hook " ++ h.render ++ ", session has ended"
  | pathHookRefused p m => s!"Failed to queue state hook {p} for {m}, registration queue full"
  | eventDropped p m => s!"State event for {p} dropped, listener of {m} is full"
  | snapshotMissing op key => s!"{op} carries no '{key}' document, snapshot skipped"
  | snapshotMalformed op => s!"{op}: malformed payload, snapshot skipped"
  | deltaMerged op n d c =>
    s!"{op} merged, {n} state events delivered, {d} dropped, {c} hooks closed"
  | certificateFailed host e =>
    s!"Cache missed on {host} and failed to generate cert: " ++ e.message
  | certificateEvicted host => s!"certstore: {host} evicted"
  | tlsDisabled => "TLS interception disabled"
  | regionUnmapped host c => s!"Game host {host} has no region mapping for '{c}'"
  | startFault f => s!"Start callback panicked: {f}"
  | uidHeaderRejected op uid => s!"Ignoring {op} with non-numeric uid header " ++ Text.quoted uid
  | loginMalformed => "Malformed login request"
  | loginWithoutUid body => s!"Login request without a numeric uid: {body}"
  | connectRefused host => s!"CONNECT to {host} refused, no TLS transport attached"
  | unreachable host => s!"Failed to reach {host}"

/-- Whether the notice is routine, and not a warning. -/
def isRoutine : Notice → Bool
  | deltaMerged .. => true
  | certificateEvicted _ => true
  | _ => false

/-- The log line of a notice: its level and its wording. -/
def render (n : Notice) : String := (if n.isRoutine then "DEBUG " else "WARN ") ++ n.message

end Notice

/-- The metric counters. -/
inductive Counter where
  | hookFaults
  | eventsDropped
  | certificateHits
  | certificateMisses
  | sessionsCreated
deriving DecidableEq, Repr

/-- The name under which a counter is exported. -/
def Counter.name : Counter → String
  | hookFaults => "gatehook_hook_faults_total"
  | eventsDropped => "gatehook_state_events_dropped_total"
  | certificateHits => "gatehook_cert_cache_hits_total"
  | certificateMisses => "gatehook_cert_cache_misses_total"
  | sessionsCreated => "gatehook_sessions_created_total"

/-- A report of the engine about its own work. -/
inductive Signal where
  | notice (n : Notice)
  | count (c : Counter) (amount : Nat)
deriving DecidableEq, Repr

namespace Signal

/-- The notices among some signals, in order. -/
def notices (signals : List Signal) : List Notice :=
  signals.filterMap fun
    | notice n => some n
    | count _ _ => none

/-- What a signal adds to a counter. -/
def amount (c : Counter) : Signal → Nat
  | notice _ => 0
  | count d n => if d = c then n else 0

/-- What some signals add to a counter. -/
def total (c : Counter) (signals : List Signal) : Nat :=
  signals.foldr (fun s n => s.amount c + n) 0

end Signal

end Intercept
