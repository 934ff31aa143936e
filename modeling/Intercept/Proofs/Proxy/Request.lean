import Intercept.Proofs.Proxy.Journal
import Intercept.Proofs.Session.Roll

/-!
# Where requests belong

What becomes of a request depends on three things that it says: its host, its operation, and its
user, who is named by the header or, in a login, by the body. Together they are the destination of
the request, which knows nothing of sessions. A login creates a session, another request of a known
user belongs to the current session of that user, and all others belong nowhere.

`processRequest_cases` says what a proxy does with the request in each case. A request that belongs
to a session is dispatched in it, and its exchange is bound to that session from then on. One that
belongs nowhere, or to a user without a session, is noted and changes nothing else.
-/

namespace Intercept

/-- Where a request belongs. -/
inductive Destination where
  /-- It creates a session for an identity. -/
  | login (key : SessionKey)
  /-- It belongs to the current session of an identity. -/
  | current (key : SessionKey)
  /-- It belongs to no session. -/
  | nowhere (isBlocked : Bool)
deriving DecidableEq

namespace Request

/-- Where the request of a game host belongs. -/
def destinationIn (c : EngineConfig) (region : String) (r : Request) : Destination :=
  match Identity.ofHeader r.uid with
  | .known uid => .current ⟨region, uid⟩
  | .garbled _ => .nowhere false
  | .anonymous =>
    if (Exchange.ofRequest r).requestOp = c.proxy.loginOp then
      match (loginUid r.body).1 with
      | some uid => .login ⟨region, uid⟩
      | none => .nowhere false
    else .nowhere false

/-- Where a request belongs. -/
def destination (c : EngineConfig) (f : HostFilter) (r : Request) : Destination :=
  match (f.classify r.host).1 with
  | .blocked => .nowhere true
  | .passThrough => .nowhere false
  | .game region => r.destinationIn c region

/-- The identity that a request says it is of, if it says so. -/
def identity? (c : EngineConfig) (f : HostFilter) (r : Request) : Option SessionKey :=
  match r.destination c f with
  | .login key | .current key => some key
  | .nowhere _ => none

/-- The exchange of a request that is dispatched in a session. -/
def exchangeIn (r : Request) (n : Nat) : Exchange :=
  { Exchange.ofRequest r with requestData := some r.body, session := some n }

/-- A login is a request on the login operation of a game host in a known region; it has no header
that names a user, and its body does so. -/
lemma destination_eq_login {c : EngineConfig} {f : HostFilter} {r : Request} {key : SessionKey} :
    r.destination c f = .login key ↔
      (f.classify r.host).1 = .game key.region ∧ Identity.ofHeader r.uid = .anonymous ∧
        (Exchange.ofRequest r).requestOp = c.proxy.loginOp ∧
        (loginUid r.body).1 = some key.uid := by
  unfold destination
  cases (f.classify r.host).1 with
  | blocked => simp
  | passThrough => simp
  | game region =>
    unfold destinationIn
    cases Identity.ofHeader r.uid with
    | known uid => simp
    | garbled text => simp
    | anonymous =>
      simp only
      split
      · next hop =>
        cases (loginUid r.body).1 with
        | none => simp
        | some uid =>
          cases key
          simp [hop]
      · next hop => simp [hop]

/-- A request of a known user is one to a game host in a known region, with a header that names the
user. -/
lemma destination_eq_current {c : EngineConfig} {f : HostFilter} {r : Request} {key : SessionKey} :
    r.destination c f = .current key ↔
      (f.classify r.host).1 = .game key.region ∧ Identity.ofHeader r.uid = .known key.uid := by
  unfold destination
  cases (f.classify r.host).1 with
  | blocked => simp
  | passThrough => simp
  | game region =>
    unfold destinationIn
    cases Identity.ofHeader r.uid with
    | known uid =>
      cases key
      simp
    | garbled text => simp
    | anonymous =>
      simp only
      split
      · cases (loginUid r.body).1 <;> simp
      · simp

end Request

/-- The identity that logs in by some traffic, if one does. -/
def Traffic.login? (c : EngineConfig) (f : HostFilter) : Traffic → Option SessionKey
  | .request _ r =>
    match r.destination c f with
    | .login key => some key
    | _ => none
  | _ => none

/-- The identity that logs in in a step, if one does. -/
def ProxyStep.login? {σ : Type} (c : EngineConfig) (f : HostFilter) :
    ProxyStep σ → Option SessionKey
  | .traffic t => t.login? c f
  | .code _ => none

/-- An identity logs in by a request if that is where the request belongs. -/
lemma ProxyStep.login?_request {σ : Type} {c : EngineConfig} {f : HostFilter} {name : String}
    {r : Request} {key : SessionKey} :
    (traffic (σ := σ) (.request name r)).login? c f = some key ↔
      r.destination c f = .login key := by
  rw [login?, Traffic.login?]
  cases r.destination c f <;> simp

/-! ### What is reported -/

namespace HostFilter

/-- A game host is classified without a report, and other hosts with a notice at most. -/
lemma classify_signals (f : HostFilter) (host : String) :
    (∀ region, (f.classify host).1 = .game region → (f.classify host).2 = []) ∧
      ∀ c k, .count c k ∉ (f.classify host).2 := by
  unfold classify
  split
  · simp
  · cases f.gameHost.captured? 1 host with
    | none => simp
    | some captured =>
      simp only
      cases f.config.region? captured <;> simp

end HostFilter

/-- A login body with a user id is read without a report, and others with a notice. -/
lemma loginUid_signals (body : ByteArray) :
    (∀ uid, (loginUid body).1 = some uid → (loginUid body).2 = []) ∧
      ∀ c k, .count c k ∉ (loginUid body).2 := by
  unfold loginUid
  cases Document.parseBytes? body with
  | none => simp
  | some d =>
    simp only
    cases bodyUid? d <;> simp

namespace Proxy

variable {σ γ : Type}

/-- Emitting nothing changes nothing. -/
@[simp] lemma emit_nil (p : Proxy σ γ) : p.emit [] = p := by
  simp [emit, Engine.emit]

/-- Dispatch a request in a session. -/
def forward (p : Proxy σ γ) (n : Nat) (r : Request) : Proxy σ γ × Exchange × RequestOutcome :=
  let x := r.exchangeIn n
  let (e, body) := p.engine.dispatch n x.requestOp r.body x.packetMeta
  ({ p with engine := e }, x, .dispatched body)

/-- What a proxy does to find the session of a request to a game host. -/
lemma route_cases (p : Proxy σ γ) (region : String) (r : Request) :
    (∃ key, r.destinationIn p.config region = .login key ∧
      p.route (Exchange.ofRequest r).requestOp region r =
        ((p.addUser key).1, some (p.addUser key).2)) ∨
    (∃ key, r.destinationIn p.config region = .current key ∧
      p.route (Exchange.ofRequest r).requestOp region r = (p, p.session? key)) ∨
    (r.destinationIn p.config region = .nowhere false ∧
      ∃ signals, (∀ c k, .count c k ∉ signals) ∧
        p.route (Exchange.ofRequest r).requestOp region r = (p.emit signals, none)) := by
  unfold route Request.destinationIn
  cases Identity.ofHeader r.uid with
  | known uid => exact Or.inr (Or.inl ⟨_, rfl, rfl⟩)
  | garbled text => exact Or.inr (Or.inr ⟨rfl, _, by simp, rfl⟩)
  | anonymous =>
    simp only
    split
    · obtain ⟨hquiet, hnone⟩ := loginUid_signals r.body
      cases hlogin : loginUid r.body with
      | mk uid? signals =>
        rw [hlogin] at hquiet hnone
        cases uid? with
        | none => exact Or.inr (Or.inr ⟨rfl, signals, hnone, rfl⟩)
        | some uid =>
          obtain rfl : signals = [] := hquiet uid rfl
          refine Or.inl ⟨⟨region, uid⟩, rfl, ?_⟩
          simp only [emit_nil]
    · exact Or.inr (Or.inr ⟨rfl, [], by simp, by rw [emit_nil]⟩)

/-- What a proxy does with a request. A login is dispatched in a new session, another request of a
known user in the current session; all others are noted at most. -/
theorem processRequest_cases (p : Proxy σ γ) (r : Request) :
    (∃ key, r.destination p.config p.filter = .login key ∧
      p.processRequest r = (p.addUser key).1.forward (p.addUser key).2 r) ∨
    (∃ key n, r.destination p.config p.filter = .current key ∧ p.session? key = some n ∧
      p.processRequest r = p.forward n r) ∨
    ∃ isBlocked, (r.destination p.config p.filter = .nowhere isBlocked ∨
        isBlocked = false ∧
          ∃ key, r.destination p.config p.filter = .current key ∧ p.session? key = none) ∧
      ∃ signals, (∀ c k, .count c k ∉ signals) ∧
        p.processRequest r = (p.emit signals, { Exchange.ofRequest r with isBlocked },
          if isBlocked then .blocked else .passThrough) := by
  obtain ⟨hquiet, hnone⟩ := p.filter.classify_signals r.host
  unfold processRequest Request.destination
  cases hclass : p.filter.classify r.host with
  | mk cls signals =>
    rw [hclass] at hquiet hnone
    cases cls with
    | blocked => exact Or.inr (Or.inr ⟨true, Or.inl rfl, signals, hnone, rfl⟩)
    | passThrough => exact Or.inr (Or.inr ⟨false, Or.inl rfl, signals, hnone, rfl⟩)
    | game region =>
      obtain rfl : signals = [] := hquiet region rfl
      simp only [emit_nil]
      rcases p.route_cases region r with
        ⟨key, hdest, hroute⟩ | ⟨key, hdest, hroute⟩ | ⟨hdest, signals, hnotices, hroute⟩
      · refine Or.inl ⟨key, hdest, ?_⟩
        rw [hroute]
        rfl
      · rw [hroute]
        cases hsession : p.session? key with
        | none =>
          refine Or.inr (Or.inr ⟨false, Or.inr ⟨rfl, key, hdest, hsession⟩, [], by simp, ?_⟩)
          rw [emit_nil]
          rfl
        | some n => exact Or.inr (Or.inl ⟨key, n, hdest, hsession, rfl⟩)
      · rw [hroute]
        exact Or.inr (Or.inr ⟨false, Or.inl hdest, signals, hnotices, rfl⟩)

/-- A login is dispatched in a new session. -/
lemma processRequest_of_login {p : Proxy σ γ} {r : Request} {key : SessionKey}
    (h : r.destination p.config p.filter = .login key) :
    p.processRequest r = (p.addUser key).1.forward (p.addUser key).2 r := by
  rcases p.processRequest_cases r with
    ⟨key', hdest, heq⟩ | ⟨key', n, hdest, -, heq⟩ | ⟨isBlocked, hdest, signals, -, heq⟩
  · rw [h] at hdest
    obtain rfl := Destination.login.inj hdest
    exact heq
  · rw [h] at hdest
    contradiction
  · rw [h] at hdest
    rcases hdest with hdest | ⟨-, key', hdest, -⟩ <;> contradiction

/-- A request of a known user is dispatched in the current session of that user. -/
lemma processRequest_of_current {p : Proxy σ γ} {r : Request} {key : SessionKey} {n : Nat}
    (h : r.destination p.config p.filter = .current key) (hs : p.session? key = some n) :
    p.processRequest r = p.forward n r := by
  rcases p.processRequest_cases r with
    ⟨key', hdest, -⟩ | ⟨key', m, hdest, hsession, heq⟩ | ⟨isBlocked, hdest, signals, -, -⟩
  · rw [h] at hdest
    contradiction
  · rw [h] at hdest
    obtain rfl := Destination.current.inj hdest
    obtain rfl : m = n := Option.some.inj (hsession.symm.trans hs)
    exact heq
  · rw [h] at hdest
    rcases hdest with hdest | ⟨-, key', hdest, hsession⟩
    · contradiction
    · obtain rfl := Destination.current.inj hdest
      rw [hs] at hsession
      contradiction

/-- A request that belongs nowhere is noted at most. -/
lemma processRequest_of_nowhere {p : Proxy σ γ} {r : Request} {isBlocked : Bool}
    (h : r.destination p.config p.filter = .nowhere isBlocked) :
    ∃ signals, (p.processRequest r).1 = p.emit signals := by
  rcases p.processRequest_cases r with
    ⟨key, hdest, -⟩ | ⟨key, n, hdest, -, -⟩ | ⟨_, -, signals, -, heq⟩
  · rw [h] at hdest
    contradiction
  · rw [h] at hdest
    contradiction
  · exact ⟨signals, congrArg (·.1) heq⟩

/-- A request of a known user without a session is passed through. -/
lemma processRequest_of_absent {p : Proxy σ γ} {r : Request} {key : SessionKey}
    (h : r.destination p.config p.filter = .current key) (hs : p.session? key = none) :
    ∃ signals, p.processRequest r = (p.emit signals, Exchange.ofRequest r, .passThrough) := by
  rcases p.processRequest_cases r with
    ⟨key', hdest, -⟩ | ⟨key', m, hdest, hsession, -⟩ | ⟨isBlocked, hdest, signals, -, heq⟩
  · rw [h] at hdest
    contradiction
  · rw [h] at hdest
    obtain rfl := Destination.current.inj hdest
    rw [hs] at hsession
    contradiction
  · rw [h] at hdest
    rcases hdest with hdest | ⟨rfl, -⟩
    · contradiction
    · exact ⟨signals, heq⟩

end Proxy

end Intercept
