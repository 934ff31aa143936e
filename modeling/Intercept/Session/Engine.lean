import Intercept.Module.Registry
import Intercept.Session.HookTable
import Intercept.Store.Ingest

/-!
# Sessions and the engine

A session has a store of its own, a table of packet hooks, and a context for every module. The
engine holds every session that was ever started, by number, together with what they share: the
memory of the modules, the listeners, and the signals emitted so far.

A session stays alive as long as something refers to it; handles to the hooks of a session that is
no longer alive do nothing. Contexts outlive their session.
-/

namespace Intercept

/-- A module's part in a session. -/
structure Context (σ : Type) where
  module : String
  /-- Set when the module's init function has returned; from then on no packet hook is accepted. -/
  isInitialized : Bool := false
  /-- The packet hooks registered through this context. -/
  hooks : List Nat := []
  /-- The path hooks registered through this context. -/
  pathHooks : List Nat := []
  /-- The callback for the end of the session. -/
  shutdown : Option (Bool → Program σ) := none

/-- All state of one session. -/
structure Session (σ : Type) where
  key : SessionKey
  store : Store
  table : HookTable (Packet → Program σ) := {}
  /-- One context for each module, in the order of the registry. -/
  contexts : List (Context σ) := []
  /-- The contexts of the modules whose init function did not fail. -/
  modules : List Nat := []
  /-- Set when every module has been initialised and the hooks are in order. -/
  isInitialized : Bool := false
  /-- Whether something still refers to the session. -/
  isAlive : Bool := true
  /-- The number of the next packet hook. -/
  nextHook : Nat := 0

/-- The sessions of a process and what they share. -/
structure Engine (σ : Type) where
  memory : σ
  listeners : Listeners := []
  sessions : List (Session σ) := []
  signals : List Signal := []

namespace Session

variable {σ : Type}

/-- The names of the modules that were initialised without failure. -/
def moduleNames (s : Session σ) : List String :=
  s.modules.filterMap fun i => s.contexts[i]?.map (·.module)

/-- The number of packet hooks. -/
def hookCount (s : Session σ) : Nat := s.table.size

/-- The diagnostic text of a session. -/
def debug (s : Session σ) : String :=
  "Dispatch \x7b session: " ++ s.key.debug ++ ", hooks: " ++ toString s.hookCount
    ++ ", initialized: " ++ toString s.isInitialized ++ ", .. \x7d"

/-- Change one context. -/
def updateContext (s : Session σ) (i : Nat) (f : Context σ → Context σ) : Session σ :=
  { s with contexts := s.contexts.modify i f }

/-- What a module can see of its context. -/
def view (s : Session σ) (c : Context σ) : ContextView where
  module := c.module
  key := s.key
  isInitialized := c.isInitialized
  hookCount := c.hooks.length
  state := s.store.loaded?

end Session

namespace Engine

variable {σ : Type}

/-- A session by its number. -/
def session? (e : Engine σ) (n : Nat) : Option (Session σ) := e.sessions[n]?

/-- A context together with its session. -/
def context? (e : Engine σ) (ctx : ContextId) : Option (Session σ × Context σ) := do
  let s ← e.session? ctx.session
  let c ← s.contexts[ctx.index]?
  some (s, c)

/-- Change one session. -/
def updateSession (e : Engine σ) (n : Nat) (f : Session σ → Session σ) : Engine σ :=
  { e with sessions := e.sessions.modify n f }

/-- Emit signals. -/
def emit (e : Engine σ) (signals : List Signal) : Engine σ :=
  { e with signals := e.signals ++ signals }

/-- Emit one notice. -/
def note (e : Engine σ) (n : Notice) : Engine σ := e.emit [.notice n]

/-- What module code sees of a context; an unknown context looks blank. -/
def view (e : Engine σ) (ctx : ContextId) : ContextView :=
  ((e.context? ctx).map fun (s, c) => s.view c).getD {}

/-! ### The steps of module code -/

/-- Register a packet hook. Refused once the module is initialised or the session has ended. -/
def hook (e : Engine σ) (ctx : ContextId) (target : String) (priority : Int32)
    (handler : Packet → Program σ) : Engine σ × Option HookHandle :=
  match e.context? ctx with
  | none => (e, none)
  | some (s, c) =>
    let label : HookLabel := ⟨target, priority, c.module⟩
    if c.isInitialized then (e.note (.hookLate label), none)
    else if !s.isAlive then (e.note (.hookOrphaned label), none)
    else
      let id := s.nextHook
      let e := e.updateSession ctx.session fun s =>
        { s.updateContext ctx.index fun c => { c with hooks := c.hooks ++ [id] } with
          table := s.table.insert ⟨id, label, handler⟩
          nextHook := id + 1 }
      (e, some ⟨ctx.session, id, label⟩)

/-- Remove a packet hook of a live session. That it is not there is reported. -/
def unhook (e : Engine σ) (h : HookHandle) : Engine σ :=
  match e.session? h.session with
  | none => e
  | some s =>
    if !s.isAlive then e
    else if s.table.contains h.id then
      e.updateSession h.session fun s => { s with table := s.table.remove h.id }
    else e.note (.hookAbsent h.label)

/-- Register a path hook with the store of a context's session. -/
def pathHook (e : Engine σ) (ctx : ContextId) (path listener : String) (wantPayload : Bool) :
    Engine σ × Option PathHookHandle :=
  match e.context? ctx with
  | none => (e, none)
  | some (s, c) =>
    let (store, id?, signals) := s.store.hook path c.module listener wantPayload
    let e := (e.updateSession ctx.session fun s => { s with store }).emit signals
    match id? with
    | none => (e, none)
    | some id =>
      let e := e.updateSession ctx.session fun s =>
        s.updateContext ctx.index fun c => { c with pathHooks := c.pathHooks ++ [id] }
      (e, some ⟨ctx.session, id, path, c.module⟩)

/-- Remove a path hook. -/
def unhookPath (e : Engine σ) (h : PathHookHandle) : Engine σ :=
  e.updateSession h.session fun s => { s with store := s.store.unhook h.id }

/-- Set a context's shutdown callback. That it replaces another one is reported. -/
def onShutdown (e : Engine σ) (ctx : ContextId) (callback : Bool → Program σ) : Engine σ :=
  match e.context? ctx with
  | none => e
  | some (_, c) =>
    let e := e.updateSession ctx.session fun s =>
      s.updateContext ctx.index fun c => { c with shutdown := some callback }
    if c.shutdown.isSome then e.note (.shutdownReplaced c.module) else e

/-- Run a piece of module code. -/
def run (e : Engine σ) : Program σ → Engine σ × Outcome
  | .finish output => (e, .finished output)
  | .fail fault => (e, .failed fault)
  | .recall next => e.run (next e.memory)
  | .remember change next => { e with memory := change e.memory }.run next
  | .inspect ctx next => e.run (next (e.view ctx))
  | .hook ctx target priority handler next =>
    let (e, h) := e.hook ctx target priority handler
    e.run (next h)
  | .unhook h next => (e.unhook h).run next
  | .pathHook ctx path listener wantPayload next =>
    let (e, h) := e.pathHook ctx path listener wantPayload
    e.run (next h)
  | .unhookPath h next => (e.unhookPath h).run next
  | .onShutdown ctx callback next => (e.onShutdown ctx callback).run next

end Engine

end Intercept
