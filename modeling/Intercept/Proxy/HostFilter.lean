import Intercept.Config.Basic
import Intercept.Notice
import Intercept.Regex.Capture
import Intercept.Regex.Parser
import Intercept.Regex.Search

/-!
# Host classification

Before anything else, the host of a request is sorted into one of three classes: hosts that contain
a denied fragment are blocked, hosts that match the game pattern and whose captured text names a
region are game hosts of that region, and all others pass through.

The denied fragments are expressions themselves. They are joined to one expression, each of them
between wildcards and anchors.
-/

namespace Intercept

/-- How the proxy treats the traffic of a host. -/
inductive HostClass where
  | blocked
  | passThrough
  | game (region : String)
deriving DecidableEq, Repr

/-- A compiled host filter. -/
structure HostFilter where
  /-- The denied hosts, if there is a denylist. -/
  deny : Option Regex
  /-- The game hosts; the first group captures what selects the region. -/
  gameHost : Regex
  config : ProxyConfig

namespace HostFilter

/-- One denied fragment, anywhere in a host. -/
def splice (fragment : String) : String := "(^.*" ++ fragment ++ ".*$)"

/-- The pattern of a denylist. -/
def denyPattern (fragments : List String) : String := "|".intercalate (fragments.map splice)

/-- The expression of a denylist; none if it has no fragments. -/
def generate (fragments : List String) (properties : Regex.PropertyTable := .unknown) :
    Except EngineError (Option Regex) :=
  if fragments.isEmpty then .ok none
  else
    match Regex.parse? properties (denyPattern fragments) with
    | some r => .ok (some r)
    | none => .error (.invalidConfig "invalid host_filter")

/-- Compile the filter of a configuration. -/
def ofConfig (config : ProxyConfig) (properties : Regex.PropertyTable := .unknown) :
    Except EngineError HostFilter := do
  let deny ← if config.enableHostFilter then generate config.hostFilter properties else .ok none
  match Regex.parse? properties config.gameHostPattern with
  | none => .error (.invalidConfig "invalid game_host_pattern")
  | some gameHost =>
    if gameHost.groupCount < 2 then
      .error (.invalidConfig "game_host_pattern needs a capture group selecting the region")
    else .ok { deny, gameHost, config }

/-- Whether a host is on the denylist. -/
def isBlocked (f : HostFilter) (host : String) : Bool := f.deny.any fun r => r.occurs host

/-- Whether a tunnel to a host should be intercepted rather than refused. -/
def shouldIntercept (f : HostFilter) (host : String) : Bool := !f.isBlocked host

/-- Classify a host. A game host without a region is reported. -/
def classify (f : HostFilter) (host : String) : HostClass × List Signal :=
  if f.isBlocked host then (.blocked, [])
  else
    match f.gameHost.captured? 1 host with
    | none => (.passThrough, [])
    | some captured =>
      match f.config.region? captured with
      | some region => (.game region, [])
      | none => (.passThrough, [.notice (.regionUnmapped host captured)])

end HostFilter

end Intercept
