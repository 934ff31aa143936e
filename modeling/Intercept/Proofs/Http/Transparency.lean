import Intercept.Proofs.Http.Receive

/-!
# What the relay leaves as it is

The relay changes nothing on its own account. What it has to take away are the headers that tell how a
body is framed, for the bodies that are sent on may have other lengths; all other headers keep their
values in their order (`Headers.PassedOn`). A body is changed by the session that an exchange belongs
to and by nothing else: the request finds that session (`Proxy.owner?`), and the exchange is bound to
it, so that the response meets the same one (`Proxy.handleResponse_exchangeFor`).

The two legs together are `exchange_passes_through`. Between them the proxy may do anything, so the
state in which the response comes is arbitrary.
-/

namespace Intercept

namespace Http

/-- Headers are passed on: those that tell how the body is framed are gone, and every other one has
the values that it had, in the same order. -/
def Headers.PassedOn (h h' : Headers) : Prop :=
  ∀ name, h'.values name =
    if name = "content-length" ∨ name = "transfer-encoding" then [] else h.values name

/-- The headers that are passed on, in both directions. -/
lemma Headers.passedOn_forwardable (h : Headers) : h.PassedOn h.forwardable := by
  intro name
  split
  · next hframing => exact values_forwardable_of_isFraming (by simpa [isFraming] using hframing)
  · next hother => exact values_forwardable (by simpa [isFraming] using hother)

end Http

namespace Proxy

variable {σ γ : Type} {p : Proxy σ γ} {r : Request}

/-! ### Packets that belong to no session -/

/-- A request to a blocked host belongs to no session. -/
lemma owner?_of_blocked (h : (p.filter.classify r.host).1 = .blocked) : p.owner? r = none := by
  rw [owner?, Request.destination, h]

/-- No module has a part in a request that belongs to no session. -/
lemma requestActivity_of_owner?_eq_none (h : p.owner? r = none) : p.requestActivity r = [] := by
  unfold owner? at h
  unfold requestActivity
  cases hdest : r.destination p.config p.filter with
  | login key =>
    rw [hdest] at h
    contradiction
  | current key =>
    rw [hdest] at h
    have hnone : p.session? key = none := h
    simp only [hnone]
  | nowhere isBlocked => rfl

/-! ### The exchange between the legs -/

/-- The exchange is bound to the session that the request belongs to. -/
lemma session_exchangeFor (p : Proxy σ γ) (r : Request) :
    (p.exchangeFor r).session = p.owner? r := by
  unfold exchangeFor
  cases p.owner? r <;> rfl

/-- The response of an exchange that belongs to no session is returned as it is, and no module has a
part in it. -/
lemma handleResponse_of_session_eq_none {x : Exchange} (h : x.session = none) (q : Proxy σ γ)
    (body : ByteArray) : q.handleResponse x body = (q, body) ∧ q.responseActivity x body = [] := by
  unfold handleResponse responseActivity
  rw [h]
  simp

/-- The response of any other exchange is dispatched in the session of the request. -/
lemma handleResponse_exchangeFor {n : Nat} (h : p.owner? r = some n) (q : Proxy σ γ)
    (body : ByteArray) :
    let route := trimSlashes r.path
    let d := q.engine.dispatch n ("S/" ++ route) body ⟨r.host, "C/" ++ route, some r.body⟩
    q.handleResponse (p.exchangeFor r) body = ({ q with engine := d.1 }, d.2) := by
  rw [exchangeFor, h]
  rfl

end Proxy

namespace Http

variable {σ γ : Type}

/-! ### Both legs -/

/-- The relay passes exchanges through. A request that is no tunnel arrives with a complete body. Its
route is the path without the slashes around it, and the session that it belongs to, if there is one,
is what the proxy finds for its host, its path, the header with the user id and the body.

* If its host is blocked, the answer is a 200 with nothing in it. Nothing is sent, the proxy only
  forgets the name of the exchange, and no module has a part in it.
* If there is no URI to send it to, the connection ends, and nothing is sent.
* Otherwise exactly one request is sent: to that URI, with the same method, and with the headers
  passed on. If it belongs to no session, it has the same body, and no module has a part in it. If it
  does, its body is what is dispatched of the original one on the operation `C/` of the route.
* When the origin server answers, whatever the proxy has done in between, the client gets the same
  status and the headers passed on. If the request belonged to no session, it gets the same body, and
  no module has a part in it. If it did, it gets what is dispatched of the original body in that
  session, on the operation `S/` of the route.
* When the origin server cannot be reached, the client gets a 502 with nothing in it. The proxy gives
  notice and forgets the exchange, and nothing is dispatched. -/
theorem exchange_passes_through (p : Proxy σ γ) (name : String) {r : ClientRequest}
    {body : ByteArray} (hmethod : r.method ≠ "CONNECT") (hbody : r.body = some body) :
    let packet : Request :=
      ⟨r.host, r.uri.path, r.headers.text? p.config.proxy.uidHeader, body⟩
    let leg := receive p name r
    let route := trimSlashes r.uri.path
    let exchange : PacketMeta := ⟨r.host, "C/" ++ route, some body⟩
    ((p.filter.classify r.host).1 = .blocked →
      leg = (p.finish name, .ended (.answered ⟨200, [], .empty⟩)) ∧ leg.2.sent = [] ∧
        p.requestActivity packet = []) ∧
    ((p.filter.classify r.host).1 ≠ .blocked → originUri? r.uri r.host = none →
      leg.2 = .ended .closed ∧ leg.2.sent = []) ∧
    ((p.filter.classify r.host).1 ≠ .blocked → ∀ uri, originUri? r.uri r.host = some uri →
      ∃ x sent, leg = ((p.handleRequest name packet).1, .forwarded x sent) ∧
        leg.2.sent = [sent] ∧
        sent.method = r.method ∧ sent.uri = uri ∧ r.headers.PassedOn sent.headers ∧
        (p.owner? packet = none → sent.body = body ∧ p.requestActivity packet = []) ∧
        (∀ n, p.owner? packet = some n → sent.body =
          ((p.ready packet).engine.dispatch n ("C/" ++ route) body exchange).2) ∧
        ∀ q : Proxy σ γ,
          (∀ a : Response, ∃ c : Response,
            respond q name x (.answered a) =
              ((q.handleResponse x a.body).1.finish name, .answered c) ∧
            c.status = a.status ∧ a.headers.PassedOn c.headers ∧
            c.body = (q.handleResponse x a.body).2 ∧
            (p.owner? packet = none →
              q.handleResponse x a.body = (q, a.body) ∧ q.responseActivity x a.body = []) ∧
            ∀ n, p.owner? packet = some n → q.handleResponse x a.body =
              ({ q with engine := (q.engine.dispatch n ("S/" ++ route) a.body exchange).1 },
                (q.engine.dispatch n ("S/" ++ route) a.body exchange).2)) ∧
          respond q name x .unreachable =
            ((q.emit [.notice (.unreachable r.host)]).finish name,
              .answered ⟨502, [], .empty⟩)) := by
  intro packet leg route exchange
  have hpacket : r.packet p.config body = packet := rfl
  refine ⟨fun hblocked => ?_, fun hclass hnone => ?_, fun hclass uri huri => ?_⟩
  · have hleg : leg = (p.finish name, .ended (.answered ⟨200, [], .empty⟩)) :=
      receive_of_blocked p name hmethod hbody hblocked
    exact ⟨hleg, by rw [hleg]; rfl,
      Proxy.requestActivity_of_owner?_eq_none (Proxy.owner?_of_blocked hblocked)⟩
  · have hleg := receive_of_not_blocked p name hmethod hbody hclass
    rw [hnone] at hleg
    have hended : leg.2 = .ended .closed := congrArg (·.2) hleg
    exact ⟨hended, by rw [hended]; rfl⟩
  · have hleg := receive_of_not_blocked p name hmethod hbody hclass
    rw [huri, hpacket] at hleg
    refine ⟨p.exchangeFor packet, ⟨r.method, uri, r.headers.forwardable, p.outgoing packet⟩,
      hleg, ?_, rfl, rfl, r.headers.passedOn_forwardable, fun hnone => ?_, fun n hn => ?_,
      fun q => ⟨fun a => ?_, ?_⟩⟩
    · rw [show leg = _ from hleg]
      rfl
    · have hsame : p.outgoing packet = body := by rw [Proxy.outgoing, hnone]
      exact ⟨hsame, Proxy.requestActivity_of_owner?_eq_none hnone⟩
    · simp only [Proxy.outgoing, hn]
      rfl
    · refine ⟨{ a with headers := a.headers.forwardable
                       body := (q.handleResponse (p.exchangeFor packet) a.body).2 },
        rfl, rfl, a.headers.passedOn_forwardable, rfl, fun hnone => ?_, fun n hn => ?_⟩
      · have hunbound : (p.exchangeFor packet).session = none :=
          (p.session_exchangeFor packet).trans hnone
        exact Proxy.handleResponse_of_session_eq_none hunbound q a.body
      · exact Proxy.handleResponse_exchangeFor hn q a.body
    · rw [respond, Proxy.host_exchangeFor]
      rfl

/-- A login, whose packets a module exchanges for the names of their operations. Its headers keep
their values but for the length, and both bodies are those of the module. -/
theorem exchange_passes_through_login :
    let c : EngineConfig := {}
    let f : HostFilter :=
      { deny := none, gameHost := .group 1 .empty, config := { regions := [("", "GL")] } }
    let module : ModuleDescriptor Unit :=
      ⟨"m", fun ctx => .hook ctx "*" 0 (fun k => .finish k.op.toUTF8) fun _ => .finish .empty⟩
    let p : Proxy Unit Unit := Proxy.setUp c f { modules := [module] } () []
    let body := "\x7b\"uid\":7\x7d".toUTF8
    let r : ClientRequest :=
      { method := "POST", uri := { pathAndQuery := "/account/login/?v=1" }, body := some body
        headers := [("host", "h".toUTF8), ("x-a", "1".toUTF8), ("content-length", "9".toUTF8),
          ("x-a", "2".toUTF8)] }
    let uri : Uri :=
      { scheme := some "http", authority := some "h", pathAndQuery := "/account/login/?v=1" }
    let a : Response :=
      { status := 201, headers := [("transfer-encoding", "chunked".toUTF8), ("x-b", "3".toUTF8)],
        body := "y".toUTF8 }
    r.method ≠ "CONNECT" ∧ r.body = some body ∧
      ∃ x sent client, (receive p "x" r).2 = .forwarded x sent ∧
        sent.method = "POST" ∧ sent.uri = uri ∧ sent.headers.values "content-length" = [] ∧
        sent.headers.values "x-a" = ["1".toUTF8, "2".toUTF8] ∧
        sent.body = "C/account/login".toUTF8 ∧
        (respond (receive p "x" r).1 "x" x (.answered a)).2 = .answered client ∧
        client.status = 201 ∧ client.headers.values "transfer-encoding" = [] ∧
        client.headers.values "x-b" = ["3".toUTF8] ∧ client.body = "S/account/login".toUTF8 := by
  intro c f module p body r uri a
  have hmethod : r.method ≠ "CONNECT" := by simp [r]
  let packet : Request := ⟨r.host, r.uri.path, r.headers.text? p.config.proxy.uidHeader, body⟩
  have hclass : (p.filter.classify r.host).1 ≠ .blocked := by
    have hgame : (p.filter.classify r.host).1 = .game "GL" := by
      simp only [p, r, f, c]
      cbv
    simp [hgame]
  have howner : p.owner? packet = some 0 := by
    simp only [packet, p, r, body, module, f, c]
    cbv
  have huri : originUri? r.uri r.host = some uri := by
    simp only [r, uri]
    cbv
  have hbody : r.body = some body := rfl
  obtain ⟨-, -, hforwarded⟩ := exchange_passes_through p "x" hmethod hbody
  obtain ⟨x, sent, hleg, -, hsame, hto, hheaders, -, hsent, hreply⟩ := hforwarded hclass uri huri
  obtain ⟨client, hresponse, hstatus, hpassed, hchanged, -, hdispatched⟩ :=
    (hreply (p.handleRequest "x" packet).1).1 a
  refine ⟨hmethod, hbody, x, sent, client, by rw [hleg], hsame, hto, ?_, ?_, ?_, ?_, hstatus, ?_,
    ?_, ?_⟩
  · rw [hheaders "content-length"]
    rfl
  · rw [hheaders "x-a"]
    rfl
  · rw [hsent 0 howner]
    simp only [p, r, body, module, f, c]
    cbv
  · rw [hleg, hresponse]
  · rw [hpassed "transfer-encoding"]
    rfl
  · rw [hpassed "x-b"]
    rfl
  · rw [hchanged, hdispatched 0 howner]
    simp only [packet, p, r, body, module, f, c, a]
    cbv

end Http

end Intercept
