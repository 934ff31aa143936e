import Intercept.Session.Engine

/-!
# Starting a session

A new session has an unloaded store and no hooks. The init functions of all modules run in the order
of the registry, each with a context of its own. If one fails, everything it registered is taken
back and the module takes no part in the session; its context remains, sealed like the others. When
all have run, the packet hooks are put in order.
-/

namespace Intercept.Engine

variable {σ : Type}

/-- Take back what was registered through a context. -/
def rollBack (e : Engine σ) (ctx : ContextId) : Engine σ :=
  match e.context? ctx with
  | none => e
  | some (_, c) =>
    e.updateSession ctx.session fun s =>
      { s.updateContext ctx.index fun c => { c with hooks := [], pathHooks := [] } with
        table := c.hooks.foldl (fun t id => t.remove id) s.table
        store := c.pathHooks.foldl (fun st id => st.unhook id) s.store }

/-- Give a module a context in a session. -/
def addContext (e : Engine σ) (n : Nat) (module : String) : Engine σ × ContextId :=
  let index := ((e.session? n).map (·.contexts.length)).getD 0
  (e.updateSession n fun s => { s with contexts := s.contexts ++ [{ module }] }, ⟨n, index⟩)

/-- Close a context for packet hooks. -/
def closeContext (e : Engine σ) (ctx : ContextId) : Engine σ :=
  e.updateSession ctx.session fun s =>
    s.updateContext ctx.index fun c => { c with isInitialized := true }

/-- Run the init function of one module for a session. -/
def initModule (e : Engine σ) (n : Nat) (key : SessionKey) (m : ModuleDescriptor σ) : Engine σ :=
  let (e, ctx) := e.addContext n m.name
  let (e, outcome) := e.run (m.init ctx)
  let e := e.closeContext ctx
  match outcome with
  | .failed fault => (e.note (.initFault m.name key.display fault.message)).rollBack ctx
  | .finished _ => e.updateSession n fun s => { s with modules := s.modules ++ [ctx.index] }

/-- Put the packet hooks in order and declare the session ready. -/
def completeSession (e : Engine σ) (n : Nat) : Engine σ :=
  e.updateSession n fun s => { s with table := s.table.sort, isInitialized := true }

/-- Start a session. Answers its number. -/
def startSession (e : Engine σ) (key : SessionKey) (config : StateConfig)
    (registry : ModuleRegistry σ) : Engine σ × Nat :=
  let n := e.sessions.length
  let e : Engine σ := { e with sessions := e.sessions ++ [{ key, store := { config } }] }
  let e := registry.modules.foldl (fun e m => e.initModule n key m) e
  (e.completeSession n, n)

end Intercept.Engine
