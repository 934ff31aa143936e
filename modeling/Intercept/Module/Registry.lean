import Intercept.Module.Program

/-!
# The module registry

The modules of a process in the order of their registration, and the callbacks to run when the proxy
is ready. Every session runs every module's init function. Names need not be unique, but a repeated
name is reported.
-/

namespace Intercept

/-- A registered module: its name, and its init function, which is given the module's context in a
new session. -/
structure ModuleDescriptor (σ : Type) where
  name : String
  init : ContextId → Program σ

/-- All modules of a process. -/
structure ModuleRegistry (σ : Type) where
  modules : List (ModuleDescriptor σ) := []
  /-- Run once when the proxy starts to serve. -/
  onStart : List (Program σ) := []

namespace ModuleRegistry

variable {σ : Type}

/-- The names of the modules, in order. -/
def names (r : ModuleRegistry σ) : List String := r.modules.map (·.name)

/-- Register a module. -/
def register (r : ModuleRegistry σ) (m : ModuleDescriptor σ) : ModuleRegistry σ × List Signal :=
  let repeated : List Signal :=
    if m.name ∈ r.names then [.notice (.moduleRepeated m.name)] else []
  ({ r with modules := r.modules ++ [m] }, repeated)

/-- Register several modules. -/
def registerAll (r : ModuleRegistry σ) (ms : List (ModuleDescriptor σ)) :
    ModuleRegistry σ × List Signal :=
  ms.foldl
    (fun (r, signals) m => let (r, more) := r.register m; (r, signals ++ more))
    (r, [])

/-- Add a start callback. -/
def addStart (r : ModuleRegistry σ) (callback : Program σ) : ModuleRegistry σ :=
  { r with onStart := r.onStart ++ [callback] }

/-- The diagnostic text of a registry. -/
def debug (r : ModuleRegistry σ) : String :=
  let modules := r.names.map fun n => "ModuleDescriptor \x7b name: " ++ Text.quoted n ++ ", .. \x7d"
  "ModuleRegistry \x7b modules: [" ++ ", ".intercalate modules ++ "], on_start: "
    ++ toString r.onStart.length ++ " \x7d"

end ModuleRegistry

end Intercept
