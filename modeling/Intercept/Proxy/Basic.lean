import Intercept.Certificate.Issuer
import Intercept.Proxy.Exchange
import Intercept.Proxy.HostFilter
import Intercept.Proxy.Identity
import Intercept.Session.Dispatch

/-!
# The proxy

The proxy classifies each request by its host and finds the session that it belongs to. A user id in
the header refers to an existing session; a login without one creates a session, and if there was one
for the same user and region, that is shut down first. Requests that belong to a session are
dispatched in it, and so are their responses, even when the user has logged in again in between.

The proxy knows the exchanges in progress by names that the transport gives them. A session is alive
as long as it is in the table of sessions or an exchange in progress belongs to it.
-/

namespace Intercept

/-- The state of a proxy: `σ` is the memory of the modules, `γ` the state of the certificate
generator. -/
structure Proxy (σ γ : Type) where
  config : EngineConfig
  filter : HostFilter
  registry : ModuleRegistry σ
  engine : Engine σ
  /-- The current session of each identity. -/
  table : List (SessionKey × Nat) := []
  issuer : Option (Issuer γ) := none
  isStarted : Bool := false
  /-- The exchanges in progress. -/
  exchanges : List (String × Exchange) := []

namespace Proxy

variable {σ γ : Type}

/-- Set up a proxy, unless the configuration is invalid. -/
def ofConfig (config : EngineConfig) (registry : ModuleRegistry σ) (engine : Engine σ)
    (properties : Regex.PropertyTable := .unknown) : Except EngineError (Proxy σ γ) := do
  config.validate
  let filter ← HostFilter.ofConfig config.proxy properties
  .ok { config, filter, registry, engine }

/-- Emit signals. -/
def emit (p : Proxy σ γ) (signals : List Signal) : Proxy σ γ :=
  { p with engine := p.engine.emit signals }

/-- Attach a certificate generator. -/
def withGenerator (p : Proxy σ γ) (generator : String → γ → Generated Certificate × γ) (state : γ) :
    Proxy σ γ :=
  let (issuer, signals) := Issuer.ofGenerator p.config.tls generator state
  { p with issuer := some issuer }.emit signals

/-- Run one start callback. -/
def runStart (e : Engine σ) (callback : Program σ) : Engine σ :=
  match e.run callback with
  | (e, .finished _) => e
  | (e, .failed fault) => e.note (.startFault fault.message)

/-- Run the start callbacks of the modules. Only the first call does so. -/
def start (p : Proxy σ γ) : Proxy σ γ :=
  if p.isStarted then p
  else { p with isStarted := true, engine := p.registry.onStart.foldl runStart p.engine }

/-- The certificate of a host. -/
def certificateFor (p : Proxy σ γ) (host : String) : Generated Certificate × Proxy σ γ :=
  match p.issuer with
  | none => (.refused (.certificate "no certificate generator attached"), p)
  | some i =>
    let (result, i, signals) := i.certificateFor host
    (result, { p with issuer := some i }.emit signals)

/-! ### Sessions -/

/-- The current session of an identity. -/
def session? (p : Proxy σ γ) (key : SessionKey) : Option Nat :=
  (p.table.find? fun e => e.1 = key).map (·.2)

/-- The number of identities with a session. -/
def sessionCount (p : Proxy σ γ) : Nat := p.table.length

/-- Whether something refers to a session. -/
def refersTo (p : Proxy σ γ) (n : Nat) : Bool :=
  p.table.any (fun e => e.2 = n) || p.exchanges.any fun e => e.2.session = some n

/-- End the life of the sessions that nothing refers to. -/
def dropUnused (p : Proxy σ γ) : Proxy σ γ :=
  { p with
    engine := { p.engine with
      sessions := p.engine.sessions.mapIdx fun n s =>
        { s with isAlive := s.isAlive && p.refersTo n } } }

/-- Make a session the current one of its identity. -/
def setSession (p : Proxy σ γ) (key : SessionKey) (n : Nat) : Proxy σ γ :=
  { p with
    table :=
      if p.table.any fun e => e.1 = key then
        p.table.map fun e => if e.1 = key then (key, n) else e
      else p.table ++ [(key, n)] }

/-- Start a session for an identity. The session it had before is shut down first. -/
def addUser (p : Proxy σ γ) (key : SessionKey) : Proxy σ γ × Nat :=
  let e := match p.session? key with
    | some old => p.engine.shutdown old false
    | none => p.engine
  let (e, n) := (e.emit [.count .sessionsCreated 1]).startSession key p.config.state p.registry
  (({ p with engine := e }.setSession key n).dropUnused, n)

/-- The table, arranged by a rank of identities. -/
def arranged (p : Proxy σ γ) (rank : SessionKey → Nat) : List (SessionKey × Nat) :=
  p.table.mergeSort fun a b => rank a.1 ≤ rank b.1

/-- Tell the modules of every session that the process ends. Which session comes first is not settled
by the table, which is without order; a rank of identities stands for the order that is met. -/
def shutdown (p : Proxy σ γ) (rank : SessionKey → Nat := fun _ => 0) : Proxy σ γ :=
  { p with engine := (p.arranged rank).foldl (fun e entry => e.shutdown entry.2 true) p.engine }

/-! ### Requests and responses -/

/-- Find the session that a game request belongs to, or create it. -/
def route (p : Proxy σ γ) (op region : String) (r : Request) : Proxy σ γ × Option Nat :=
  match Identity.ofHeader r.uid with
  | .known uid => (p, p.session? ⟨region, uid⟩)
  | .garbled text => (p.emit [.notice (.uidHeaderRejected op text)], none)
  | .anonymous =>
    if op = p.config.proxy.loginOp then
      match loginUid r.body with
      | (some uid, signals) =>
        let (p, n) := (p.emit signals).addUser ⟨region, uid⟩
        (p, some n)
      | (none, signals) => (p.emit signals, none)
    else (p, none)

/-- Process the request of an exchange. -/
def processRequest (p : Proxy σ γ) (r : Request) : Proxy σ γ × Exchange × RequestOutcome :=
  let x := Exchange.ofRequest r
  let (cls, signals) := p.filter.classify r.host
  let p := p.emit signals
  match cls with
  | .blocked => (p, { x with isBlocked := true }, .blocked)
  | .passThrough => (p, x, .passThrough)
  | .game region =>
    match p.route x.requestOp region r with
    | (p, none) => (p, x, .passThrough)
    | (p, some n) =>
      let x := { x with requestData := some r.body, session := some n }
      let (e, body) := p.engine.dispatch n x.requestOp r.body x.packetMeta
      ({ p with engine := e }, x, .dispatched body)

/-- The exchange in progress of a name. -/
def exchange? (p : Proxy σ γ) (name : String) : Option Exchange :=
  (p.exchanges.find? fun e => e.1 = name).map (·.2)

/-- Forget an exchange. -/
def finish (p : Proxy σ γ) (name : String) : Proxy σ γ :=
  { p with exchanges := p.exchanges.filter fun e => e.1 ≠ name }.dropUnused

/-- Process a request, and keep its exchange under a name in the place of an earlier one. -/
def handleRequest (p : Proxy σ γ) (name : String) (r : Request) :
    Proxy σ γ × Exchange × RequestOutcome :=
  let (p, x, outcome) := p.processRequest r
  let kept := (name, x) :: p.exchanges.filter fun e => e.1 ≠ name
  ({ p with exchanges := kept }.dropUnused, x, outcome)

/-- Process the response of an exchange. -/
def handleResponse (p : Proxy σ γ) (x : Exchange) (body : ByteArray) : Proxy σ γ × ByteArray :=
  if x.isBlocked then (p, body)
  else
    match x.session with
    | none => (p, body)
    | some n =>
      let (e, body) := p.engine.dispatch n x.responseOp body x.packetMeta
      ({ p with engine := e }, body)

end Proxy

end Intercept
