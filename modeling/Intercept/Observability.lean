import Intercept.Config.Basic
import Intercept.Text.Split

/-!
# Log filters and exporters

The configured log level is a list of directives, separated by commas: a level, or a target with or
without a level. As text a filter lists its directives, the most specific ones first. A process has
one subscriber for its log and one recorder for its metrics; a second one is refused.
-/

namespace Intercept

/-- The version of the engine. -/
def version : String := "0.1.0"

/-- A directive of a log filter. -/
structure LogDirective where
  /-- The part of the program that it is about, or all of it. -/
  target : Option String
  level : String
deriving DecidableEq, Repr

namespace LogDirective

/-- A level by its name in any case, or by its number. -/
def level? (s : String) : Option String :=
  match String.ofList (s.toList.map Char.toLower) with
  | "off" | "0" => some "off"
  | "error" | "1" => some "error"
  | "warn" | "2" => some "warn"
  | "info" | "3" => some "info"
  | "debug" | "4" => some "debug"
  | "trace" | "5" => some "trace"
  | _ => none

/-- Read a directive; a target alone means everything about it. -/
def parse? (s : String) : Option LogDirective :=
  match level? s with
  | some level => some ⟨none, level⟩
  | none =>
    let target := s.toList.takeWhile (· ≠ '=')
    match s.toList.drop target.length with
    | [] => some ⟨some (String.ofList target), "trace"⟩
    | _ :: level =>
      if target.isEmpty then none
      else if level.isEmpty then some ⟨some (String.ofList target), "trace"⟩
      else (level? (String.ofList level)).map fun l => ⟨some (String.ofList target), l⟩

/-- The text of a directive. -/
def render (d : LogDirective) : String :=
  match d.target with
  | none => d.level
  | some t => t ++ "=" ++ d.level

/-- Whether a directive comes before another one: longer targets first, no target last. -/
def precedes (a b : LogDirective) : Bool :=
  match a.target, b.target with
  | none, none => true
  | none, some _ => false
  | some _, none => true
  | some s, some t => t.utf8ByteSize < s.utf8ByteSize || s.utf8ByteSize = t.utf8ByteSize && t ≤ s

/-- Put a directive in its place; it replaces one about the same target. -/
def insert (d : LogDirective) : List LogDirective → List LogDirective
  | [] => [d]
  | e :: es =>
    if d.target = e.target then d :: es
    else if d.precedes e then d :: e :: es
    else e :: insert d es

end LogDirective

namespace LoggingConfig

/-- The directives of the configured level. What is no directive is left out. -/
def directives (c : LoggingConfig) : List LogDirective :=
  (Text.splitAt ',' c.level.toList).foldl
    (fun ds piece =>
      if piece.isEmpty then ds
      else
        match LogDirective.parse? (String.ofList piece) with
        | some d => d.insert ds
        | none => ds)
    []

/-- The text of the log filter. Without directives only errors are logged. -/
def filterText (c : LoggingConfig) : String :=
  match c.directives with
  | [] => "error"
  | ds => ",".intercalate (ds.map (·.render))

/-- Set up logging in a process that has a subscriber already, or has none. -/
def install (_ : LoggingConfig) (taken : Bool) : Except EngineError Unit :=
  if taken then .error (.invalidConfig "tracing already initialized") else .ok ()

end LoggingConfig

/-- Set up the metrics exporter, if an address is configured, in a process that has a recorder
already, or has none. -/
def MetricsConfig.install (c : MetricsConfig) (taken : Bool) : Except EngineError Unit :=
  if c.listenAddr.isSome && taken then .error (.invalidConfig "metrics exporter") else .ok ()

end Intercept
