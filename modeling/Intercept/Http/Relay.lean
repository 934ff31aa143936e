import Intercept.Http.Message
import Intercept.Proxy.Basic

/-!
# Relaying exchanges

A client's request passes through the proxy and on to its origin server, and the response comes back
the same way. Requests to blocked hosts are answered at once, tunnels are refused, and everything
that the proxy does not change is passed on as it is, apart from how bodies are framed.

An exchange is split where the origin server is asked, so that others can come in between.
-/

namespace Intercept.Http

variable {σ γ : Type}

/-- The host that a request is for: the authority of its target, or else the host header. -/
def ClientRequest.host (r : ClientRequest) : String :=
  (r.uri.authority.orElse fun _ => r.headers.text? "host").getD ""

/-- The target of the request to the origin server: that of the client's request if it is absolute,
and otherwise its path at the host. -/
def originUri? (u : Uri) (host : String) : Option Uri :=
  if u.scheme.isSome ∧ u.authority.isSome then some u
  else Uri.parse? ("http://" ++ host ++ u.resource)

/-- What follows from a client's request. -/
inductive RequestLeg where
  /-- The exchange is over. -/
  | ended (reply : Reply)
  /-- The origin server is asked. -/
  | forwarded (x : Exchange) (r : OriginRequest)

/-- Refuse a tunnel. -/
def refuseTunnel (p : Proxy σ γ) (host : String) : Proxy σ γ × Reply :=
  if p.filter.shouldIntercept host then
    (p.emit [.notice (.connectRefused host)], .ofStatus 501)
  else (p, .ofStatus 403)

/-- Send a request on with a body of the proxy's choice. -/
def forward (p : Proxy σ γ) (name : String) (r : ClientRequest) (x : Exchange)
    (body : ByteArray) : Proxy σ γ × RequestLeg :=
  match originUri? r.uri r.host with
  | none => (p.finish name, .ended .closed)
  | some uri =>
    let headers := r.headers.forwardable
    (p, .forwarded x { method := r.method, uri, headers, body })

/-- Process a client's request. The exchange is known by a name until it is over. -/
def receive (p : Proxy σ γ) (name : String) (r : ClientRequest) : Proxy σ γ × RequestLeg :=
  if r.method = "CONNECT" then
    let (p, reply) := refuseTunnel p (r.uri.authority.getD "")
    (p, .ended reply)
  else
    match r.body with
    | none => (p, .ended .closed)
    | some body =>
      let uid := r.headers.text? p.config.proxy.uidHeader
      match p.handleRequest name { host := r.host, path := r.uri.path, uid, body } with
      | (p, _, .blocked) => (p.finish name, .ended (.ofStatus 200))
      | (p, x, .passThrough) => forward p name r x body
      | (p, x, .dispatched changed) => forward p name r x changed

/-- Process what the origin server answers, which ends the exchange. -/
def respond (p : Proxy σ γ) (name : String) (x : Exchange) (a : OriginAnswer) :
    Proxy σ γ × Reply :=
  match a with
  | .unreachable =>
    ((p.emit [.notice (.unreachable x.host)]).finish name, .ofStatus 502)
  | .brokenOff => (p.finish name, .closed)
  | .answered r =>
    let (p, body) := p.handleResponse x r.body
    (p.finish name, .answered { r with headers := r.headers.forwardable, body })

/-- A whole exchange with an origin server, without others in between. -/
def relay (p : Proxy σ γ) (name : String) (r : ClientRequest)
    (origin : OriginRequest → OriginAnswer) : Proxy σ γ × Reply :=
  match receive p name r with
  | (p, .ended reply) => (p, reply)
  | (p, .forwarded x request) => respond p name x (origin request)

end Intercept.Http
