import Intercept.Proofs.Proxy.Record

/-!
# The two legs of an exchange

When a request is dispatched, its exchange is bound to the session that it was dispatched in, and
keeps the route, the host and the body as they came from the client. The response finds all this again
however much later it comes, and whatever has become of the user's session in the meantime: it is
dispatched in that session, and both legs are told the same about the exchange
(`run_binds_response_to_request`). A response whose request was not dispatched is returned as it is.
-/

namespace Intercept

/-- A list of one character in front, something that does not begin with it, and nothing else. -/
lemma exists_replicate_append (c : Char) (cs : List Char) : ∃ n,
    cs = List.replicate n c ++ cs.dropWhile (· = c) ∧ (cs.dropWhile (· = c)).head? ≠ some c := by
  induction cs with
  | nil => exact ⟨0, rfl, by simp⟩
  | cons d cs ih =>
    by_cases h : d = c
    · obtain ⟨n, heq, hhead⟩ := ih
      refine ⟨n + 1, ?_, ?_⟩
      · rw [List.dropWhile_cons_of_pos (by simpa using h), List.replicate_succ, List.cons_append,
          ← heq, h]
      · rwa [List.dropWhile_cons_of_pos (by simpa using h)]
    · refine ⟨0, ?_, ?_⟩
      · rw [List.dropWhile_cons_of_neg (by simpa using h)]
        rfl
      · rw [List.dropWhile_cons_of_neg (by simpa using h)]
        simpa using h

/-- A route is the path without the slashes around it. -/
lemma trimSlashes_spec (path : String) : ∃ a b,
    path.toList = List.replicate a '/' ++ (trimSlashes path).toList ++ List.replicate b '/' ∧
      (trimSlashes path).toList.head? ≠ some '/' ∧
      (trimSlashes path).toList.getLast? ≠ some '/' := by
  have hroute : (trimSlashes path).toList =
      ((path.toList.dropWhile (· = '/')).reverse.dropWhile (· = '/')).reverse :=
    String.toList_ofList
  obtain ⟨a, hpath, hhead⟩ := exists_replicate_append '/' path.toList
  generalize path.toList.dropWhile (· = '/') = front at hroute hpath hhead
  obtain ⟨b, hback, hlast⟩ := exists_replicate_append '/' front.reverse
  generalize front.reverse.dropWhile (· = '/') = back at hroute hback hlast
  have hfront : front = back.reverse ++ List.replicate b '/' := by
    rw [← List.reverse_reverse front, hback, List.reverse_append, List.reverse_replicate]
  rw [hroute]
  refine ⟨a, b, ?_, ?_, ?_⟩
  · rw [List.append_assoc, ← hfront]
    exact hpath
  · rw [hfront] at hhead
    cases hback' : back.reverse with
    | nil => simp
    | cons c cs =>
      rw [hback', List.cons_append, List.head?_cons] at hhead
      exact hhead
  · rwa [List.getLast?_reverse]

namespace Proxy

variable {σ γ : Type}

/-- The session that a request belongs to, if it belongs to one: in a login the next one to be
started, otherwise the current one of the identity. -/
def owner? (p : Proxy σ γ) (r : Request) : Option Nat :=
  match r.destination p.config p.filter with
  | .login _ => some p.engine.sessions.length
  | .current key => p.session? key
  | .nowhere _ => none

/-- A proxy that is ready to dispatch a request: in a login, the new session has been started. -/
def ready (p : Proxy σ γ) (r : Request) : Proxy σ γ :=
  match r.destination p.config p.filter with
  | .login key => (p.addUser key).1
  | _ => p

/-- A request that belongs to a session is dispatched in it. -/
lemma processRequest_of_owner? {p : Proxy σ γ} {r : Request} {n : Nat} (h : p.owner? r = some n) :
    p.processRequest r = (p.ready r).forward n r := by
  unfold owner? at h
  unfold ready
  cases hdest : r.destination p.config p.filter with
  | login key =>
    rw [hdest] at h
    obtain rfl : p.engine.sessions.length = n := Option.some.inj h
    have hnumber : (p.addUser key).2 = p.engine.sessions.length := by rw [addUser_eq]
    rw [processRequest_of_login hdest, hnumber]
  | current key =>
    rw [hdest] at h
    exact processRequest_of_current hdest h
  | nowhere isBlocked =>
    rw [hdest] at h
    contradiction

/-- A request that belongs to no session is refused. -/
lemma processRequest_of_owner?_eq_none {p : Proxy σ γ} {r : Request} (h : p.owner? r = none) :
    ∃ isBlocked signals, p.processRequest r = (p.emit signals,
      { Exchange.ofRequest r with isBlocked }, if isBlocked then .blocked else .passThrough) := by
  unfold owner? at h
  rcases p.processRequest_cases r with
    ⟨key, hdest, -⟩ | ⟨key, n, hdest, hsession, -⟩ | ⟨isBlocked, -, signals, -, heq⟩
  · rw [hdest] at h
    contradiction
  · rw [hdest] at h
    have hnone : p.session? key = none := h
    rw [hsession] at hnone
    contradiction
  · exact ⟨isBlocked, signals, heq⟩

/-- The handlers of a request are those of its packet; the start of a session calls none. -/
lemma handled_request {p : Proxy σ γ} {r : Request} {n : Nat} (h : p.owner? r = some n) :
    (p.requestActivity r).filterMap Activity.handled? =
      ((p.ready r).forwardActivity n r).filterMap Activity.handled? := by
  unfold owner? at h
  unfold ready requestActivity
  cases hdest : r.destination p.config p.filter with
  | login key =>
    rw [hdest] at h
    obtain rfl : p.engine.sessions.length = n := Option.some.inj h
    have hclosing : (p.closingActivity key).filterMap Activity.handled? = [] :=
      filterMap_closingActivity (fun _ _ => rfl) (fun _ _ => rfl) (fun _ _ _ => rfl) p key
    simp only
    rw [List.filterMap_append, loginActivity, List.filterMap_append, hclosing,
      Engine.filterMap_startActivity (fun _ _ => rfl) (fun _ => rfl) (fun _ _ => rfl), addUser_eq]
    rfl
  | current key =>
    rw [hdest] at h
    have hsession : p.session? key = some n := h
    simp only [hsession]
  | nowhere isBlocked =>
    rw [hdest] at h
    contradiction

/-- When a proxy is ready to dispatch a request, the session is there. -/
lemma Sound.exists_session_ready {p : Proxy σ γ} (hp : Sound p) {r : Request} {n : Nat}
    (h : p.owner? r = some n) : ∃ s, (p.ready r).engine.session? n = some s := by
  have hroll : ∃ key, (p.ready r).engine.roll[n]? = some (key, true) := by
    unfold owner? at h
    unfold ready
    cases hdest : r.destination p.config p.filter with
    | login key =>
      rw [hdest] at h
      obtain rfl : p.engine.sessions.length = n := Option.some.inj h
      obtain ⟨hadd, hsession⟩ := hp.addUser key
      have hnumber : (p.addUser key).2 = p.engine.sessions.length := by rw [addUser_eq]
      exact ⟨key, hadd.roll_of_session? (hsession.trans (congrArg some hnumber))⟩
    | current key =>
      rw [hdest] at h
      exact ⟨key, hp.roll_of_session? h⟩
    | nowhere isBlocked =>
      rw [hdest] at h
      contradiction
  obtain ⟨key, hroll⟩ := hroll
  obtain ⟨s, hs, -⟩ := Engine.session_of_roll hroll
  exact ⟨s, hs⟩

/-- Both legs of an exchange belong to one session. After any steps a request is processed, any
steps follow, users may log in again among them, and then the response comes. The route is the path
without the slashes around it.

* If the request belongs to a session, it is dispatched in it, on the operation `C/` of the route:
  the session takes in the body as the client sent it, and no other session takes in anything. The
  packet is handled by the hooks of that session that are on the operation.
* Then the response is dispatched in the same session, on the operation `S/` of the route, and what
  is dispatched is returned. The session takes in the body as the server sent it, and no other
  session takes in anything, be it the current one of the user or not. The packet is handled by the
  hooks of the session that are on the operation.
* On both legs all handlers are told the same about the exchange: the host, the operation of the
  request, and the body as the client sent it.
* If the request belongs to no session, it is blocked or passes through. Then the response is
  returned as it is, nothing changes, and no module has a part in it. -/
theorem run_binds_response_to_request (c : EngineConfig) (f : HostFilter)
    (registry : ModuleRegistry σ) (memory : σ) (ls : Listeners) (before : List (ProxyStep σ))
    (name : String) (r : Request) (between : List (ProxyStep σ))
    (hbetween : ∀ s ∈ between, ¬ s.Renames name) (body : ByteArray) :
    let p : Proxy σ γ := (setUp c f registry memory ls).run before
    let request : ProxyStep σ := .traffic (.request name r)
    let response : ProxyStep σ := .traffic (.response name body)
    let x := (p.handleRequest name r).2.1
    let q := (p.step request).run between
    let route := trimSlashes r.path
    let exchange : PacketMeta := ⟨r.host, "C/" ++ route, some r.body⟩
    (∃ a b, r.path.toList = List.replicate a '/' ++ route.toList ++ List.replicate b '/' ∧
      route.toList.head? ≠ some '/' ∧ route.toList.getLast? ≠ some '/') ∧
    q.exchange? name = some x ∧
    (∀ n, p.owner? r = some n →
      (∃ s, (p.ready r).engine.session? n = some s ∧
        (p.handleRequest name r).2.2 =
          .dispatched ((p.ready r).engine.dispatch n ("C/" ++ route) r.body exchange).2 ∧
        (p.step request).engine.mirrors =
          (p.ready r).engine.mirrors.modify n (·.takeIn ("C/" ++ route) r.body) ∧
        (p.stepActivity request).filterMap Activity.handled? =
          (s.table.chainFor ("C/" ++ route)).map fun h => (n, h.id, "C/" ++ route, exchange)) ∧
      ∃ s, q.engine.session? n = some s ∧
        q.handleResponse x body =
          (q.step response, (q.engine.dispatch n ("S/" ++ route) body exchange).2) ∧
        (q.step response).engine = (q.engine.dispatch n ("S/" ++ route) body exchange).1 ∧
        (q.step response).engine.mirrors =
          q.engine.mirrors.modify n (·.takeIn ("S/" ++ route) body) ∧
        (q.stepActivity response).filterMap Activity.handled? =
          (s.table.chainFor ("S/" ++ route)).map fun h => (n, h.id, "S/" ++ route, exchange)) ∧
    (p.owner? r = none →
      ((p.handleRequest name r).2.2 = .blocked ∨ (p.handleRequest name r).2.2 = .passThrough) ∧
        q.handleResponse x body = (q, body) ∧ q.step response = q ∧
        q.stepActivity response = []) := by
  intro p request response x q route exchange
  have hsound : Sound p := (Sound.setUp c f registry memory ls).run before
  have hx : q.exchange? name = some x :=
    (exchange?_run _ hbetween).trans (p.exchange?_request name r)
  refine ⟨trimSlashes_spec r.path, hx, fun n hn => ?_, fun hnone => ?_⟩
  · obtain ⟨s, hs⟩ := hsound.exists_session_ready hn
    have hprocessed := processRequest_of_owner? hn
    have hbound : x = r.exchangeIn n := congrArg (·.2.1) hprocessed
    refine ⟨⟨s, hs, congrArg (·.2.2) hprocessed, ?_, ?_⟩, ?_⟩
    · have hmirrors : (p.step request).engine.mirrors = (p.processRequest r).1.engine.mirrors :=
        mirrors_dropUnused _
      rw [hmirrors, hprocessed]
      exact Engine.mirrors_dispatch _ n _ r.body _
    · exact (handled_request hn).trans (Engine.handled_dispatch hs _ r.body _)
    · have hq : Sound q := (hsound.step request).run between
      obtain ⟨key, hroll⟩ := hq.roll_of_exchange? hx (congrArg Exchange.session hbound)
      obtain ⟨s', hs', -⟩ := Engine.session_of_roll hroll
      have hstep : q.step response = (q.handleResponse x body).1 := by
        rw [step, handle, hx]
      have hresponse : q.handleResponse x body =
          ({ q with engine := (q.engine.dispatch n ("S/" ++ route) body exchange).1 },
            (q.engine.dispatch n ("S/" ++ route) body exchange).2) := by
        rw [hbound]
        rfl
      have hactivity : q.stepActivity response =
          q.engine.dispatchActivity n ("S/" ++ route) body exchange := by
        rw [stepActivity, hx, hbound]
        rfl
      refine ⟨s', hs', ?_, ?_, ?_, ?_⟩
      · rw [hstep, hresponse]
      · rw [hstep, hresponse]
      · rw [hstep, hresponse]
        exact Engine.mirrors_dispatch _ n _ body _
      · rw [hactivity]
        exact Engine.handled_dispatch hs' _ body _
  · obtain ⟨isBlocked, signals, hprocessed⟩ := processRequest_of_owner?_eq_none hnone
    have hunbound : x = { Exchange.ofRequest r with isBlocked } := congrArg (·.2.1) hprocessed
    have houtcome : (p.handleRequest name r).2.2 = if isBlocked then .blocked else .passThrough :=
      congrArg (·.2.2) hprocessed
    have hresponse : q.handleResponse x body = (q, body) := by
      rw [hunbound]
      cases isBlocked <;> rfl
    refine ⟨?_, hresponse, ?_, ?_⟩
    · rw [houtcome]
      cases isBlocked
      · exact Or.inr rfl
      · exact Or.inl rfl
    · have hstep : q.step response = (q.handleResponse x body).1 := by
        rw [step, handle, hx]
      rw [hstep, hresponse]
    · rw [stepActivity, hx, hunbound]
      cases isBlocked <;> rfl

/-- A user logs in, and logs in again before the response of the first login comes. The response is
handled in the first session, although the second one is the current session by then. -/
theorem run_binds_response_to_replaced_session :
    let c : EngineConfig := {}
    let f : HostFilter :=
      { deny := none, gameHost := .group 1 .empty, config := { regions := [("", "GL")] } }
    let module : ModuleDescriptor Unit :=
      ⟨"m", fun ctx => .hook ctx "*" 0 (fun _ => .finish .empty) fun _ => .finish .empty⟩
    let r : Request :=
      { host := "h", path := "/account/login/", body := "\x7b\"uid\":7\x7d".toUTF8 }
    let p := (setUp c f { modules := [module] } () [] : Proxy Unit Unit).run []
    let between : List (ProxyStep Unit) := [.traffic (.request "y" r)]
    let q := (p.step (.traffic (.request "x" r))).run between
    let response : ProxyStep Unit := .traffic (.response "x" .empty)
    p.owner? r = some 0 ∧ q.session? ⟨"GL", 7⟩ = some 1 ∧
      (∀ s ∈ between, ¬ s.Renames "x") ∧
      (q.step response).engine.mirrors =
        q.engine.mirrors.modify 0 (·.takeIn "S/account/login" .empty) ∧
      (q.stepActivity response).filterMap Activity.handled? =
        [(0, 0, "S/account/login", ⟨"h", "C/account/login", some r.body⟩)] := by
  intro c f module r p between q response
  have howner : p.owner? r = some 0 := by
    simp only [p, r, module, f, c]
    cbv
  have hcurrent : q.session? ⟨"GL", 7⟩ = some 1 := by
    simp only [q, between, p, r, module, f, c]
    cbv
  have hroute : trimSlashes r.path = "account/login" := by
    simp only [r]
    cbv
  have hbetween : ∀ s ∈ between, ¬ s.Renames "x" := by
    intro s hs
    rw [List.mem_singleton.1 hs]
    exact show ¬ "y" = "x" by decide
  obtain ⟨-, -, hlegs, -⟩ := @run_binds_response_to_request Unit Unit c f
    { modules := [module] } () [] [] "x" r between hbetween .empty
  obtain ⟨-, s, hs, -, -, hmirrors, hhandled⟩ := hlegs 0 howner
  rw [hroute] at hmirrors hhandled
  have hchain : (q.engine.session? 0).map
      (fun s => (s.table.chainFor "S/account/login").map Hook.id) = some [0] := by
    simp only [q, between, p, r, module, f, c]
    cbv
  rw [show q.engine.session? 0 = some s from hs] at hchain
  refine ⟨howner, hcurrent, hbetween, hmirrors, hhandled.trans ?_⟩
  have hids := congrArg (List.map fun id : Nat =>
    (0, id, "S/account/login", (⟨"h", "C/account/login", some r.body⟩ : PacketMeta)))
    (Option.some.inj hchain)
  rwa [List.map_map] at hids

end Proxy

end Intercept
