/-!
# Errors

What can go wrong in the engine, by cause. None of these ends a session: each costs one packet, one
lookup or one host, or keeps the engine from starting.
-/

namespace Intercept

/-- The causes of failure. -/
inductive EngineError where
  /-- A path does not resolve in the session state. -/
  | notFound (path : String)
  /-- No certificate could be produced for a host. -/
  | certificate (reason : String)
  /-- The configuration holds a value that the engine cannot run with. -/
  | invalidConfig (reason : String)
  /-- The configuration file or the environment could not be read, parsed or converted. -/
  | unreadableConfig
  /-- The operating system refused an operation. -/
  | io
deriving DecidableEq, Repr

namespace EngineError

/-- The text of an error. Unreadable configuration and refusals of the operating system are worded
elsewhere, by whoever reports them first. -/
def message : EngineError → String
  | notFound path => "path not found in session state: " ++ path
  | certificate reason => "certificate generation failed: " ++ reason
  | invalidConfig reason => "configuration error: " ++ reason
  | unreadableConfig => "configuration unreadable"
  | io => "operation refused"

end EngineError

end Intercept
