import Intercept.Notice
import Intercept.Session.Key

/-!
# Module code

Modules extend the engine with code of their own. What such code can do is listed here, and nothing
else: it keeps memory that all modules share, looks at the sessions it was given contexts of,
registers and removes hooks, and ends by returning bytes or by failing. A piece of module code is a
tree with one node for every step it takes and a branch for every answer it can get, so any
behaviour of a module, with handlers and callbacks that are trees again, is a value.

`σ` is the type of the shared memory.
-/

namespace Intercept

/-- A module's context in a session: the number of the session among all that were started, and of
the context in it. -/
structure ContextId where
  session : Nat
  index : Nat
deriving DecidableEq, Repr

/-- A registered packet hook. -/
structure HookHandle where
  session : Nat
  id : Nat
  label : HookLabel
deriving DecidableEq, Repr

/-- A registered path hook. -/
structure PathHookHandle where
  session : Nat
  id : Nat
  path : String
  module : String
deriving DecidableEq, Repr

/-- What a failing piece of code says. -/
inductive Fault where
  | text (message : String)
  /-- The failure carries no text. -/
  | untyped
deriving DecidableEq, Repr

/-- The wording of a failure. -/
def Fault.message : Fault → String
  | text m => m
  | untyped => "non-string panic payload"

/-- What a handler is told about the exchange that a packet belongs to. -/
structure PacketMeta where
  host : String := ""
  requestOp : String := ""
  /-- The body as the client sent it. -/
  requestData : Option ByteArray := none

/-- A packet on its way through the hooks. -/
structure Packet where
  op : String
  payload : ByteArray
  exchange : PacketMeta := {}

/-- What module code can see of a context. -/
structure ContextView where
  module : String := ""
  key : SessionKey := ⟨"", 0⟩
  /-- Whether the module's init function has returned. -/
  isInitialized : Bool := false
  /-- How many packet hooks have been registered through the context. -/
  hookCount : Nat := 0
  /-- The session state, once it is loaded. -/
  state : Option Document := none

/-- The diagnostic text of a context. -/
def ContextView.debug (v : ContextView) : String :=
  "ModuleContext \x7b name: " ++ Text.quoted v.module ++ ", session: " ++ v.key.debug
    ++ ", initialized: " ++ toString v.isInitialized ++ ", .. \x7d"

/-- A piece of module code. -/
inductive Program (σ : Type) where
  /-- Return. The output counts only where a packet is handled. -/
  | finish (output : ByteArray)
  /-- Fail. -/
  | fail (fault : Fault)
  /-- Look into the shared memory. -/
  | recall (next : σ → Program σ)
  /-- Change the shared memory. -/
  | remember (change : σ → σ) (next : Program σ)
  /-- Look at a context. -/
  | inspect (ctx : ContextId) (next : ContextView → Program σ)
  /-- Register a packet hook on an operation, or on all operations with the target `*`. -/
  | hook (ctx : ContextId) (target : String) (priority : Int32) (handler : Packet → Program σ)
      (next : Option HookHandle → Program σ)
  /-- Remove a packet hook. -/
  | unhook (handle : HookHandle) (next : Program σ)
  /-- Subscribe a listener to a path of the session state. -/
  | pathHook (ctx : ContextId) (path listener : String) (wantPayload : Bool)
      (next : Option PathHookHandle → Program σ)
  /-- Remove a path hook. -/
  | unhookPath (handle : PathHookHandle) (next : Program σ)
  /-- Set the callback for the end of the session. It is told whether the process ends, too. -/
  | onShutdown (ctx : ContextId) (callback : Bool → Program σ) (next : Program σ)

/-- How a piece of module code ended. -/
inductive Outcome where
  | finished (output : ByteArray)
  | failed (fault : Fault)

end Intercept
