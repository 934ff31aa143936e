import Intercept.Config.Basic
import Intercept.Document.Basic

/-!
# Configuration sections as documents

A section is an object with one field for each setting, or an array with the settings in order.
Settings that are left out keep their defaults, and unknown fields are ignored. How a value of one
type may stand for a setting of another type is up to the conversions in use.
-/

namespace Intercept

/-- What values are accepted for a setting of each type. -/
structure Conversions where
  text? : Document → Option String
  flag? : Document → Option Bool
  /-- A 64-bit unsigned integer. -/
  word? : Document → Option UInt64
  /-- Whether a section in array form may have items beyond its settings. -/
  allowsRest : Bool

namespace Conversions

/-- Every setting has exactly its own type. -/
def strict : Conversions where
  text? := fun
    | .string s => some s
    | _ => none
  flag? := fun
    | .bool b => some b
    | _ => none
  word? := fun
    | .number (.natural n) => some n
    | _ => none
  allowsRest := false

variable (c : Conversions)

def texts? : Document → Option (List String)
  | .array n item => ((List.finRange n).map item).mapM c.text?
  | _ => none

/-- Texts by name. -/
def textsByName? : Document → Option (List (String × String))
  | d@(.object _ _) => d.fields.mapM fun (k, v) => (c.text? v).map fun s => (k, s)
  | _ => none

def address? (d : Document) : Option Address := (c.text? d).bind Address.parse?

/-- An address, or null for none. -/
def optionalAddress? : Document → Option (Option Address)
  | .null => some none
  | d => (c.address? d).map some

/-- Whether a document can be a section with a number of settings. -/
def admits (settings : Nat) : Document → Bool
  | .object _ _ => true
  | .array n _ => c.allowsRest || n ≤ settings
  | _ => false

end Conversions

namespace Section

/-- The value given for a setting, by name or by position. -/
def setting? (d : Document) (position : Nat) (name : String) : Option Document :=
  match d with
  | .object _ _ => d.field? name
  | .array _ _ => d.item? position
  | _ => none

/-- Read a setting if it is given, and keep its default otherwise. -/
def read? {α : Type} (as? : Document → Option α) (default : α) (d : Document) (position : Nat)
    (name : String) : Option α :=
  match setting? d position name with
  | none => some default
  | some v => as? v

/-- A text as a document. -/
def text (s : String) : Document := .string s

end Section

open Section

/-! ### Reading -/

def ProxyConfig.ofDocument? (c : Conversions) (d : Document) : Option ProxyConfig := do
  let base : ProxyConfig := {}
  guard (c.admits 7 d)
  let listenAddr ← read? c.address? base.listenAddr d 0 "listen_addr"
  let enableHostFilter ← read? c.flag? base.enableHostFilter d 1 "enable_host_filter"
  let hostFilter ← read? c.texts? base.hostFilter d 2 "host_filter"
  let gameHostPattern ← read? c.text? base.gameHostPattern d 3 "game_host_pattern"
  let regions ← read? c.textsByName? base.regions d 4 "regions"
  let loginOp ← read? c.text? base.loginOp d 5 "login_op"
  let uidHeader ← read? c.text? base.uidHeader d 6 "uid_header"
  some { listenAddr, enableHostFilter, hostFilter, gameHostPattern, regions, loginOp, uidHeader }

def StateConfig.ofDocument? (c : Conversions) (d : Document) : Option StateConfig := do
  let base : StateConfig := {}
  guard (c.admits 4 d)
  let snapshotOp ← read? c.text? base.snapshotOp d 0 "snapshot_op"
  let snapshotKey ← read? c.text? base.snapshotKey d 1 "snapshot_key"
  let deltaKey ← read? c.text? base.deltaKey d 2 "delta_key"
  let hookQueueCapacity ← read? c.word? base.hookQueueCapacity d 3 "hook_queue_capacity"
  some { snapshotOp, snapshotKey, deltaKey, hookQueueCapacity }

def TlsConfig.ofDocument? (c : Conversions) (d : Document) : Option TlsConfig := do
  let base : TlsConfig := {}
  guard (c.admits 3 d)
  let enabled ← read? c.flag? base.enabled d 0 "enabled"
  let certCacheCapacity ← read? c.word? base.certCacheCapacity d 1 "cert_cache_capacity"
  let disableCertStore ← read? c.flag? base.disableCertStore d 2 "disable_cert_store"
  some { enabled, certCacheCapacity, disableCertStore }

def LoggingConfig.ofDocument? (c : Conversions) (d : Document) : Option LoggingConfig := do
  let base : LoggingConfig := {}
  guard (c.admits 2 d)
  let level ← read? c.text? base.level d 0 "level"
  let json ← read? c.flag? base.json d 1 "json"
  some { level, json }

def MetricsConfig.ofDocument? (c : Conversions) (d : Document) : Option MetricsConfig := do
  let base : MetricsConfig := {}
  guard (c.admits 1 d)
  let listenAddr ← read? c.optionalAddress? base.listenAddr d 0 "listen_addr"
  some { listenAddr }

/-- Read all sections. -/
def EngineConfig.ofDocument? (c : Conversions) (d : Document) : Option EngineConfig := do
  guard (c.admits 5 d)
  let proxy ← read? (ProxyConfig.ofDocument? c) {} d 0 "proxy"
  let state ← read? (StateConfig.ofDocument? c) {} d 1 "state"
  let tls ← read? (TlsConfig.ofDocument? c) {} d 2 "tls"
  let logging ← read? (LoggingConfig.ofDocument? c) {} d 3 "logging"
  let metrics ← read? (MetricsConfig.ofDocument? c) {} d 4 "metrics"
  some { proxy, state, tls, logging, metrics }

/-! ### Writing -/

def ProxyConfig.toDocument (c : ProxyConfig) : Document :=
  .ofFields [
    ("listen_addr", text c.listenAddr.render),
    ("enable_host_filter", .bool c.enableHostFilter),
    ("host_filter", .ofItems (c.hostFilter.map text)),
    ("game_host_pattern", text c.gameHostPattern),
    ("regions", .ofFields (c.regions.map fun (k, v) => (k, text v))),
    ("login_op", text c.loginOp),
    ("uid_header", text c.uidHeader)]

def StateConfig.toDocument (c : StateConfig) : Document :=
  .ofFields [
    ("snapshot_op", text c.snapshotOp),
    ("snapshot_key", text c.snapshotKey),
    ("delta_key", text c.deltaKey),
    ("hook_queue_capacity", .number (.natural c.hookQueueCapacity))]

def TlsConfig.toDocument (c : TlsConfig) : Document :=
  .ofFields [
    ("enabled", .bool c.enabled),
    ("cert_cache_capacity", .number (.natural c.certCacheCapacity)),
    ("disable_cert_store", .bool c.disableCertStore)]

def LoggingConfig.toDocument (c : LoggingConfig) : Document :=
  .ofFields [("level", text c.level), ("json", .bool c.json)]

def MetricsConfig.toDocument (c : MetricsConfig) : Document :=
  .ofFields [("listen_addr", (c.listenAddr.map fun a => text a.render).getD .null)]

/-- All settings as a document, none left out. -/
def EngineConfig.toDocument (c : EngineConfig) : Document :=
  .ofFields [
    ("proxy", c.proxy.toDocument),
    ("state", c.state.toDocument),
    ("tls", c.tls.toDocument),
    ("logging", c.logging.toDocument),
    ("metrics", c.metrics.toDocument)]

end Intercept
