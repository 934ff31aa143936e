import Intercept.Config.Address
import Intercept.Error

/-!
# Configuration

The settings of the engine in five sections, their defaults, and the check that rejects values the
engine cannot run with.
-/

namespace Intercept

/-- Traffic classification and session routing. -/
structure ProxyConfig where
  /-- Where the proxy listens. -/
  listenAddr : Address := .v4 [0, 0, 0, 0] 8080
  /-- Whether hosts that contain a fragment of `hostFilter` are rejected. -/
  enableHostFilter : Bool := false
  /-- Host fragments, as regular expressions. -/
  hostFilter : List String :=
    ["android\\.bugly\\.qq\\.com", "sessions\\.bugsnag\\.com", "app\\.adjust\\.com"]
  /-- The regular expression for game hosts; its first group selects the region. -/
  gameHostPattern : String := "^gs\\.arknights\\.(jp|global):8443$"
  /-- Region codes by captured text. Of several entries for one text the last one counts. -/
  regions : List (String × String) := [("global", "GL"), ("jp", "JP")]
  /-- The operation that creates a session. -/
  loginOp : String := "C/account/login"
  /-- The header with the numeric user id. -/
  uidHeader : String := "uid"

/-- How the session state is found in packets. -/
structure StateConfig where
  /-- The operation that carries a full snapshot. -/
  snapshotOp : String := "S/account/syncData"
  /-- The key of the snapshot document. -/
  snapshotKey : String := "user"
  /-- The key of the delta document in every other packet. -/
  deltaKey : String := "playerDataDelta.modified"
  /-- How many registrations of path hooks may wait at a time. -/
  hookQueueCapacity : UInt64 := 100

/-- Certificates for intercepted hosts. -/
structure TlsConfig where
  enabled : Bool := true
  /-- How many certificates are kept. -/
  certCacheCapacity : UInt64 := 64
  /-- Generate a certificate for every request instead of keeping any. -/
  disableCertStore : Bool := false

/-- Log output. -/
structure LoggingConfig where
  level : String := "info"
  json : Bool := false

/-- Metrics output. -/
structure MetricsConfig where
  listenAddr : Option Address := none

/-- All settings. -/
structure EngineConfig where
  proxy : ProxyConfig := {}
  state : StateConfig := {}
  tls : TlsConfig := {}
  logging : LoggingConfig := {}
  metrics : MetricsConfig := {}

namespace ProxyConfig

/-- The region code for a captured text. -/
def region? (c : ProxyConfig) (captured : String) : Option String :=
  (c.regions.reverse.find? fun e => e.1 = captured).map (·.2)

end ProxyConfig

namespace EngineConfig

/-- Reject values that the engine cannot run with. The size of the certificate cache only matters
when there is one. -/
def validate (c : EngineConfig) : Except EngineError Unit :=
  if c.tls.certCacheCapacity = 0 ∧ c.tls.disableCertStore = false then
    .error (.invalidConfig "tls.cert_cache_capacity must be greater than zero")
  else if c.state.hookQueueCapacity = 0 then
    .error (.invalidConfig "state.hook_queue_capacity must be greater than zero")
  else if c.state.snapshotOp = "" ∨ c.state.deltaKey = "" then
    .error (.invalidConfig "state.snapshot_op and state.delta_key must be set")
  else .ok ()

end EngineConfig

end Intercept
