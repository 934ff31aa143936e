import Intercept.Module.Registry
import Intercept.Store.Basic

/-!
# Scripted modules

A script is a list of actions that a module performs, as data: it can be stored, sent and compared,
and is compiled to module code. Scripted modules share a memory in which they keep their contexts and
handles under names, and in which they write a trace of what they have seen.

Names are qualified by the session, `<session>/<name>`. Several things kept under one name form a
list, and an action that refers to a name means the last of them unless it gives a position.
-/

namespace Intercept.Script

/-- An action of a script. Actions on the payload are for packet handlers; the conditions end the
script when they do not hold. -/
inductive Action where
  /-- Go on only in the session of this user. -/
  | onlyUid (uid : UInt64)
  /-- Go on only if the context is at this position among those of its name. -/
  | onlyNth (position : Nat)
  /-- Go on only in packets of this operation. -/
  | onlyOp (op : String)
  | fail (fault : Fault)
  /-- Put bytes behind the payload. -/
  | append (bytes : ByteArray)
  /-- Put bytes in front of the payload. -/
  | prepend (bytes : ByteArray)
  /-- Replace the payload. -/
  | set (bytes : ByteArray)
  /-- Put the operation behind the payload. -/
  | appendOp
  /-- Trace the packet. -/
  | record
  /-- Trace the value at a path. -/
  | get (path : String)
  | unhook (name : String) (position : Option Nat)
  | unhookPath (name : String) (position : Option Nat)
  /-- Register a packet hook that runs a script. -/
  | hook (name target : String) (priority : Int32) (body : List Action)
  | pathHook (name path listener : String) (wantPayload : Bool)
  /-- Set a shutdown callback that runs a script. -/
  | onShutdown (note : Document) (body : List Action)
  /-- Trace what the context shows. -/
  | info
  /-- Trace a value. -/
  | note (value : Document)

/-- An entry of the trace. The session is named by its identity. -/
inductive Record where
  /-- A start callback has run. -/
  | started (note : Document)
  /-- A registration was refused. -/
  | refused (session module name : String)
  | shutdown (session module : String) (note : Document) (processEnds : Bool)
  | info (session module : String) (view : ContextView)
  | note (session module : String) (value : Document)
  /-- A packet went through the hook of this name. -/
  | packet (session module name : String) (packet : Packet)
  /-- A path was read; none while the state is not loaded. -/
  | value (session module path : String) (result : Option (Except EngineError Document))

/-- The session that an entry is about. -/
def Record.session : Record → String
  | .started _ => ""
  | .refused s _ _ => s
  | .shutdown s _ _ _ => s
  | .info s _ _ => s
  | .note s _ _ => s
  | .packet s _ _ _ => s
  | .value s _ _ _ => s

/-- What scripted modules remember. -/
structure Memory where
  trace : List Record := []
  contexts : List (String × ContextId) := []
  hooks : List (String × HookHandle) := []
  pathHooks : List (String × PathHookHandle) := []

/-- The thing kept under a name, at a position or else the last one. -/
def find? {α : Type} (kept : List (String × α)) (name : String) (position : Option Nat) :
    Option α :=
  let found := (kept.filter fun e => e.1 = name).map (·.2)
  match position with
  | some n => found[n]?
  | none => found.getLast?


/-- Where a script runs. -/
structure Frame where
  ctx : ContextId
  session : String
  uid : UInt64
  module : String
  /-- The name of the packet hook that runs the script, if one does. -/
  hookName : String := ""
  /-- The packet that is handled. -/
  packet : Packet := { op := "", payload := ByteArray.empty }

namespace Frame

/-- A name in the session of the frame. -/
def qualify (f : Frame) (name : String) : String := f.session ++ "/" ++ name

/-- Write an entry of the trace and go on. -/
def log (r : Record) (next : Program Memory) : Program Memory :=
  .remember (fun m => { m with trace := m.trace ++ [r] }) next

end Frame

open Intercept.Script.Frame

mutual

/-- Perform actions one after the other, starting with a payload, and return the payload. -/
def perform (f : Frame) : List Action → ByteArray → Program Memory
  | [], data => .finish data
  | a :: rest, data => performOne f a data (fun data => perform f rest data)

/-- Perform one action, then go on with the payload it leaves. -/
def performOne (f : Frame) : Action → ByteArray → (ByteArray → Program Memory) → Program Memory
  | .onlyUid uid, data, next => if f.uid = uid then next data else .finish data
  | .onlyNth n, data, next =>
    .recall fun m =>
      if find? m.contexts (f.qualify f.module) (some n) = some f.ctx then next data
      else .finish data
  | .onlyOp op, data, next => if f.packet.op = op then next data else .finish data
  | .fail fault, _, _ => .fail fault
  | .append bytes, data, next => next (data ++ bytes)
  | .prepend bytes, data, next => next (bytes ++ data)
  | .set bytes, _, next => next bytes
  | .appendOp, data, next => next (data ++ f.packet.op.toUTF8)
  | .record, data, next =>
    log (.packet f.session f.module f.hookName { f.packet with payload := data }) (next data)
  | .get path, data, next =>
    .inspect f.ctx fun v =>
      log (.value f.session f.module path (v.state.map fun d => Store.lookup d path)) (next data)
  | .unhook name position, data, next =>
    .recall fun m =>
      match find? m.hooks (f.qualify name) position with
      | some h => .unhook h (next data)
      | none => next data
  | .unhookPath name position, data, next =>
    .recall fun m =>
      match find? m.pathHooks (f.qualify name) position with
      | some h => .unhookPath h (next data)
      | none => next data
  | .hook name target priority body, data, next =>
    .hook f.ctx target priority
      (fun p => perform { f with hookName := name, packet := p } body p.payload)
      fun
        | some h =>
          .remember (fun m => { m with hooks := m.hooks ++ [(f.qualify name, h)] }) (next data)
        | none => log (.refused f.session f.module name) (next data)
  | .pathHook name path listener wantPayload, data, next =>
    .pathHook f.ctx path listener wantPayload fun
      | some h =>
        .remember (fun m => { m with pathHooks := m.pathHooks ++ [(f.qualify name, h)] })
          (next data)
      | none => log (.refused f.session f.module name) (next data)
  | .onShutdown note body, data, next =>
    .onShutdown f.ctx
      (fun processEnds =>
        log (.shutdown f.session f.module note processEnds)
          (perform { f with hookName := "", packet := { op := "", payload := ByteArray.empty } }
            body ByteArray.empty))
      (next data)
  | .info, data, next =>
    .inspect f.ctx fun v => log (.info f.session f.module v) (next data)
  | .note value, data, next => log (.note f.session f.module value) (next data)

end

/-- The frame of a context, as the context shows itself. -/
def frameOf (ctx : ContextId) (v : ContextView) : Frame where
  ctx := ctx
  session := v.key.display
  uid := v.key.uid
  module := v.module

/-- Perform actions in a context. -/
def performIn (ctx : ContextId) (actions : List Action) : Program Memory :=
  .inspect ctx fun v => perform (frameOf ctx v) actions ByteArray.empty

/-- A scripted module: its init function keeps the context under the module's name and performs the
actions. -/
def module (name : String) (init : List Action) : ModuleDescriptor Memory where
  name := name
  init ctx :=
    .inspect ctx fun v =>
      let f := frameOf ctx v
      .remember (fun m => { m with contexts := m.contexts ++ [(f.qualify name, ctx)] })
        (perform f init ByteArray.empty)

/-- A scripted start callback: it traces a note, and then fails if it is given a fault. -/
def startCallback (note : Document) (fault : Option Fault) : Program Memory :=
  log (.started note)
    (match fault with
      | some f => .fail f
      | none => .finish ByteArray.empty)

end Intercept.Script
