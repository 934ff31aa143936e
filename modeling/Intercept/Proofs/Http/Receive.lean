import Intercept.Http.Relay
import Intercept.Proofs.Proxy.Legs

/-!
# What becomes of a client's request

A request that is no tunnel and whose body is complete is handed to the proxy (`ClientRequest.packet`).
If its host is blocked, the exchange is over, and the proxy is as if it had never begun
(`receive_of_blocked`). Otherwise one request goes to the origin server, unless there is no URI to
send it to (`receive_of_not_blocked`). Its body is the one that was received, or what the session of
the request makes of that (`Proxy.outgoing`).
-/

namespace Intercept

/-! ### Requests of hosts that are not blocked -/

/-- Only blocked hosts are classified as such, and they are without a report. -/
lemma HostFilter.classify_eq_blocked {f : HostFilter} {host : String}
    (h : (f.classify host).1 = .blocked) : f.classify host = (.blocked, []) := by
  unfold classify at h ⊢
  split
  · rfl
  · next hno =>
    rw [if_neg hno] at h
    cases hcaptured : f.gameHost.captured? 1 host with
    | none =>
      rw [hcaptured] at h
      contradiction
    | some captured =>
      rw [hcaptured] at h
      cases hregion : f.config.region? captured <;> simp [hregion] at h

/-- Only requests to blocked hosts are refused. -/
lemma Request.blocked_of_destination {c : EngineConfig} {f : HostFilter} {r : Request}
    (h : r.destination c f = .nowhere true) : (f.classify r.host).1 = .blocked := by
  unfold destination at h
  cases hclass : (f.classify r.host).1 with
  | blocked => rfl
  | passThrough =>
    rw [hclass] at h
    simp at h
  | game region =>
    rw [hclass] at h
    simp only [destinationIn] at h
    split at h
    · contradiction
    · simp at h
    · split at h
      · split at h
        · contradiction
        · simp at h
      · simp at h

namespace Proxy

variable {σ γ : Type}

/-- The exchange of a request to a host that is not blocked. -/
def exchangeFor (p : Proxy σ γ) (r : Request) : Exchange :=
  match p.owner? r with
  | none => Exchange.ofRequest r
  | some n => r.exchangeIn n

/-- The body that a request is sent on with: what its session makes of it, if it belongs to one. -/
def outgoing (p : Proxy σ γ) (r : Request) : ByteArray :=
  match p.owner? r with
  | none => r.body
  | some n => ((p.ready r).engine.dispatch n (r.exchangeIn n).requestOp r.body
      (r.exchangeIn n).packetMeta).2

@[simp] lemma host_exchangeFor (p : Proxy σ γ) (r : Request) :
    (p.exchangeFor r).host = r.host := by
  unfold exchangeFor
  cases p.owner? r <;> rfl

/-- A request to a blocked host is refused, and nothing else happens. -/
lemma processRequest_of_blocked {p : Proxy σ γ} {r : Request}
    (h : (p.filter.classify r.host).1 = .blocked) :
    p.processRequest r = (p, { Exchange.ofRequest r with isBlocked := true }, .blocked) := by
  unfold processRequest
  rw [HostFilter.classify_eq_blocked h]
  simp only [emit_nil]

/-- A request to a host that is not blocked is dispatched in the session that it belongs to, and
passes through if there is none. -/
lemma processRequest_of_not_blocked {p : Proxy σ γ} {r : Request}
    (h : (p.filter.classify r.host).1 ≠ .blocked) :
    (p.processRequest r).2 = (p.exchangeFor r,
      if (p.owner? r).isSome then .dispatched (p.outgoing r) else .passThrough) := by
  cases howner : p.owner? r with
  | none =>
    have hexchange : p.exchangeFor r = Exchange.ofRequest r := by rw [exchangeFor, howner]
    rcases p.processRequest_cases r with
      ⟨key, hdest, -⟩ | ⟨key, n, hdest, hsession, -⟩ | ⟨isBlocked, hdest, signals, -, heq⟩
    · simp [owner?, hdest] at howner
    · simp [owner?, hdest, hsession] at howner
    · obtain rfl : isBlocked = false := by
        rcases hdest with hdest | ⟨hno, -⟩
        · cases isBlocked with
          | false => rfl
          | true => exact absurd (Request.blocked_of_destination hdest) h
        · exact hno
      rw [hexchange, heq]
      rfl
  | some n =>
    rw [processRequest_of_owner? howner, exchangeFor, outgoing, howner]
    rfl

/-- Forgetting more exchanges later is as if they had been forgotten at once. -/
lemma dropUnused_of_fewer (p : Proxy σ γ) (kept : List (String × Exchange))
    (h : ∀ e ∈ kept, e ∈ p.exchanges) :
    { p.dropUnused with exchanges := kept }.dropUnused =
      { p with exchanges := kept }.dropUnused := by
  have hrefers (n : Nat) : { p with exchanges := kept }.refersTo n = true →
      p.refersTo n = true := by
    simp only [refersTo, Bool.or_eq_true, List.any_eq_true]
    rintro (htable | ⟨e, he, hn⟩)
    · exact Or.inl htable
    · exact Or.inr ⟨e, h e he, hn⟩
  have hlives (n : Nat) (s : Session σ) :
      (s.isAlive && p.refersTo n && { p with exchanges := kept }.refersTo n) =
        (s.isAlive && { p with exchanges := kept }.refersTo n) := by
    cases hn : { p with exchanges := kept }.refersTo n with
    | false => simp
    | true => simp [hrefers n hn]
  have hsessions : { p.dropUnused with exchanges := kept }.dropUnused.engine.sessions =
      { p with exchanges := kept }.dropUnused.engine.sessions := by
    unfold dropUnused
    simp only [List.mapIdx_mapIdx]
    exact congrArg (List.mapIdx · p.engine.sessions)
      (funext fun n => funext fun s => by simp only [Function.comp, ← hlives n s]; rfl)
  unfold dropUnused at hsessions ⊢
  simpa using hsessions

/-- An exchange that is kept and given up at once leaves no trace. -/
lemma finish_keep (p : Proxy σ γ) (name : String) (x : Exchange) :
    { p with exchanges := (name, x) :: p.exchanges.filter fun e => e.1 ≠ name }.dropUnused.finish
      name = p.finish name := by
  let q := { p with exchanges := (name, x) :: p.exchanges.filter fun e => e.1 ≠ name }
  have hgone : q.exchanges.filter (fun e => e.1 ≠ name) =
      p.exchanges.filter fun e => e.1 ≠ name := by simp [q]
  have hfewer := q.dropUnused_of_fewer (p.exchanges.filter fun e => e.1 ≠ name)
    fun e he => List.mem_cons_of_mem _ he
  exact (congrArg (fun kept => { q.dropUnused with exchanges := kept }.dropUnused) hgone).trans hfewer

end Proxy

/-! ### The request leg -/

namespace Http

variable {σ γ : Type}

/-- What the proxy is told of a client's request. -/
def ClientRequest.packet (r : ClientRequest) (c : EngineConfig) (body : ByteArray) : Request :=
  { host := r.host, path := r.uri.path, uid := r.headers.text? c.proxy.uidHeader, body }

/-- The requests that go to origin servers. -/
def RequestLeg.sent : RequestLeg → List OriginRequest
  | .ended _ => []
  | .forwarded _ r => [r]

section Receive

variable (p : Proxy σ γ) (name : String) {r : ClientRequest} {body : ByteArray}

/-- A request that is no tunnel and whose body is complete is handed to the proxy. -/
lemma receive_eq (hmethod : r.method ≠ "CONNECT") (hbody : r.body = some body) :
    receive p name r =
      match p.handleRequest name (r.packet p.config body) with
      | (p, _, .blocked) => (p.finish name, .ended (.ofStatus 200))
      | (p, x, .passThrough) => forward p name r x body
      | (p, x, .dispatched changed) => forward p name r x changed := by
  unfold receive
  rw [if_neg hmethod, hbody]
  rfl

/-- A request to a blocked host is answered at once, and the proxy is as if it had never come. -/
lemma receive_of_blocked (hmethod : r.method ≠ "CONNECT") (hbody : r.body = some body)
    (h : (p.filter.classify r.host).1 = .blocked) :
    receive p name r = (p.finish name, .ended (.ofStatus 200)) := by
  have hprocessed := Proxy.processRequest_of_blocked (r := r.packet p.config body) h
  rw [receive_eq p name hmethod hbody, p.handleRequest_eq, hprocessed]
  simp only [Proxy.finish_keep]

/-- For any other request one goes to the origin server, with the outgoing body, unless there is no
URI to send it to. -/
lemma receive_of_not_blocked (hmethod : r.method ≠ "CONNECT") (hbody : r.body = some body)
    (h : (p.filter.classify r.host).1 ≠ .blocked) :
    let packet := r.packet p.config body
    let p' := (p.handleRequest name packet).1
    receive p name r =
      match originUri? r.uri r.host with
      | none => (p'.finish name, .ended .closed)
      | some uri => (p', .forwarded (p.exchangeFor packet)
          ⟨r.method, uri, r.headers.forwardable, p.outgoing packet⟩) := by
  intro packet p'
  have hhandled : p.handleRequest name packet = (p', p.exchangeFor packet,
      if (p.owner? packet).isSome then .dispatched (p.outgoing packet) else .passThrough) :=
    Prod.ext rfl (Proxy.processRequest_of_not_blocked (r := packet) h)
  rw [receive_eq p name hmethod hbody, hhandled]
  cases howner : p.owner? packet with
  | none =>
    have hsame : p.outgoing packet = body := by
      rw [Proxy.outgoing, howner]
      rfl
    rw [hsame]
    rfl
  | some n => rfl

end Receive

end Http

end Intercept
