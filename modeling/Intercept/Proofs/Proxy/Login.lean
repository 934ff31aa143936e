import Intercept.Proofs.Proxy.Table

/-!
# Logins start anew

A login names its user in the header, or in the body if the header is missing or empty. In either
case it is meant to start a session in the place of the one that its user had (`StartsAnew`). Main
statement: `run_starts_anew_iff`. A login without a header does so, and one with a header never
does: it is taken for one more request of the session that its user has, and passes through if there
is none.
-/

namespace Intercept

/-- A header says nothing if it is missing or empty. -/
lemma Identity.ofHeader_eq_anonymous {uid : Option String} :
    ofHeader uid = .anonymous ↔ uid = none ∨ uid = some "" := by
  unfold ofHeader
  cases uid with
  | none => simp
  | some s =>
    by_cases hs : s = ""
    · simp [hs]
    · simp only [hs, if_false, reduceCtorEq, Option.some.injEq, or_self, iff_false]
      cases Numeral.readWord? s <;> simp

namespace Request

/-- The user that a login names: the one in the header, or the one in the body if the header says
nothing. -/
def namedUid? (r : Request) : Option UInt64 :=
  match Identity.ofHeader r.uid with
  | .known uid => some uid
  | .garbled _ => none
  | .anonymous => (loginUid r.body).1

section Destination

variable {c : EngineConfig} {f : HostFilter} {r : Request} {region : String} {uid : UInt64}

/-- A login that names its user in the body creates a session. -/
lemma destination_of_anonymous (hgame : (f.classify r.host).1 = .game region)
    (hop : (Exchange.ofRequest r).requestOp = c.proxy.loginOp) (huid : r.namedUid? = some uid)
    (hheader : Identity.ofHeader r.uid = .anonymous) :
    r.destination c f = .login ⟨region, uid⟩ := by
  rw [namedUid?, hheader] at huid
  exact destination_eq_login.2 ⟨hgame, hheader, hop, huid⟩

/-- A request to a game host that names its user in the header belongs to the current session. -/
lemma destination_of_known (hgame : (f.classify r.host).1 = .game region)
    (huid : r.namedUid? = some uid) (hheader : Identity.ofHeader r.uid ≠ .anonymous) :
    r.destination c f = .current ⟨region, uid⟩ := by
  refine destination_eq_current.2 ⟨hgame, ?_⟩
  unfold namedUid? at huid
  cases h : Identity.ofHeader r.uid with
  | known n =>
    rw [h] at huid
    obtain rfl := Option.some.inj huid
    rfl
  | garbled text =>
    rw [h] at huid
    contradiction
  | anonymous => exact absurd h hheader

end Destination

end Request

namespace Proxy

variable {σ γ : Type} {p : Proxy σ γ}

/-- A request starts anew for an identity: its current session is then one that was not there
before, the modules of the session that it had before have had their turns and were told that the
process goes on, and the request is dispatched in the new session. -/
def StartsAnew (p : Proxy σ γ) (name : String) (r : Request) (key : SessionKey) : Prop :=
  ∃ n body, p.engine.session? n = none ∧
    (p.handleRequest name r).1.session? key = some n ∧
    (∃ s, (p.handleRequest name r).1.engine.session? n = some s ∧ s.key = key ∧
      s.isAlive = true) ∧
    (p.stepActivity (.traffic (.request name r))).filterMap Activity.turn? = p.closingTurns key ∧
    (p.handleRequest name r).2 = (r.exchangeIn n, .dispatched body)

/-- Proxies with one table have the same current sessions. -/
lemma session?_congr {q : Proxy σ γ} (h : p.table = q.table) (key : SessionKey) :
    p.session? key = q.session? key := by
  rw [session?, session?, h]

/-- A login makes the next session the current one of its identity, and nothing else changes what is
current. -/
lemma session?_step (p : Proxy σ γ) (s : ProxyStep σ) (key : SessionKey) : (p.step s).session? key =
    if s.login? p.config p.filter = some key then some p.engine.sessions.length
    else p.session? key := by
  have htable := (p.frame_step s).2
  cases hlogin : s.login? p.config p.filter with
  | none =>
    rw [hlogin] at htable
    exact session?_congr htable key
  | some key' =>
    rw [hlogin] at htable
    rw [session?_congr htable key, session?_setSession]
    simp only [Option.some.injEq, eq_comm]

/-- In a request the modules of the session have their turns that a login replaces. -/
lemma turns_request (p : Proxy σ γ) (name : String) (r : Request) :
    (p.stepActivity (.traffic (.request name r))).filterMap Activity.turn? =
      match (ProxyStep.traffic (σ := σ) (.request name r)).login? p.config p.filter with
      | some key => p.closingTurns key
      | none => [] := p.turns_step (.traffic (.request name r))

/-- A request that is no login leaves the table as it is, starts no session and gives no turn. -/
lemma handleRequest_of_no_login {name : String} {r : Request}
    (hnone : (ProxyStep.traffic (σ := σ) (.request name r)).login? p.config p.filter = none) :
    (p.handleRequest name r).1.table = p.table ∧
      (p.handleRequest name r).1.engine.sessions.length = p.engine.sessions.length ∧
      (p.stepActivity (.traffic (.request name r))).filterMap Activity.turn? = [] := by
  have htable := (p.frame_step (.traffic (.request name r))).2
  have hlength := p.length_step (.traffic (.request name r))
  rw [hnone] at htable hlength
  refine ⟨htable, hlength, ?_⟩
  rw [turns_request, hnone]

/-- A login that names its user in the body starts anew. -/
lemma Sound.startsAnew (h : Sound p) (name : String) {r : Request} {key : SessionKey}
    (hdest : r.destination p.config p.filter = .login key) : p.StartsAnew name r key := by
  have hnext : Sound (p.handleRequest name r).1 := h.step (.traffic (.request name r))
  have hlogin : (ProxyStep.traffic (σ := σ) (.request name r)).login? p.config p.filter =
      some key := ProxyStep.login?_request.2 hdest
  have hcurrent : (p.handleRequest name r).1.session? key = some p.engine.sessions.length :=
    (p.session?_step (.traffic (.request name r)) key).trans (if_pos hlogin)
  obtain ⟨body, hdispatched⟩ : ∃ body, (p.handleRequest name r).2 =
      (r.exchangeIn p.engine.sessions.length, .dispatched body) := by
    rw [handleRequest_eq, processRequest_of_login hdest, addUser_eq]
    exact ⟨_, rfl⟩
  refine ⟨p.engine.sessions.length, body, List.getElem?_eq_none (Nat.le_refl _), hcurrent,
    Engine.session_of_roll (hnext.roll_of_session? hcurrent), ?_, hdispatched⟩
  rw [turns_request, hlogin]

/-- Logins over all runs. Whatever modules do, of a proxy that has been set up and of one more
request of the login operation to a game host that names its user, it holds:

* The request starts anew for the user in the region of the host exactly if the header is missing or
  empty, so that the body names the user.
* If the header names the user, the table stays as it is, no session is started and no module has
  its turn. The request is dispatched in the session that the user has already, or passes through if
  there is none. -/
theorem run_starts_anew_iff (c : EngineConfig) (f : HostFilter) (registry : ModuleRegistry σ)
    (memory : σ) (ls : Listeners) (steps : List (ProxyStep σ)) (name : String) {r : Request}
    {region : String} {uid : UInt64} (hgame : (f.classify r.host).1 = .game region)
    (hop : (Exchange.ofRequest r).requestOp = c.proxy.loginOp) (huid : r.namedUid? = some uid) :
    let p : Proxy σ γ := (setUp c f registry memory ls).run steps
    let p' := (p.handleRequest name r).1
    let key : SessionKey := ⟨region, uid⟩
    (p.StartsAnew name r key ↔ r.uid = none ∨ r.uid = some "") ∧
    (¬ (r.uid = none ∨ r.uid = some "") →
      p'.table = p.table ∧ p'.engine.sessions.length = p.engine.sessions.length ∧
      (p.stepActivity (.traffic (.request name r))).filterMap Activity.turn? = [] ∧
      (∀ n, p.session? key = some n →
        ∃ body, (p.handleRequest name r).2 = (r.exchangeIn n, .dispatched body)) ∧
      (p.session? key = none →
        (p.handleRequest name r).2 = (Exchange.ofRequest r, .passThrough))) := by
  intro p p' key
  have hsettings : p.settings = (c, f, registry) := settings_run _ steps
  have hsound : Sound p := (Sound.setUp c f registry memory ls).run steps
  clear_value p
  obtain ⟨rfl, rfl, rfl⟩ : p.config = c ∧ p.filter = f ∧ p.registry = registry := by
    simpa [settings] using hsettings
  rw [← Identity.ofHeader_eq_anonymous]
  by_cases hheader : Identity.ofHeader r.uid = .anonymous
  · have hdest := Request.destination_of_anonymous hgame hop huid hheader
    exact ⟨⟨fun _ => hheader, fun _ => hsound.startsAnew name hdest⟩, fun hno => absurd hheader hno⟩
  · have hdest : r.destination p.config p.filter = .current key :=
      Request.destination_of_known hgame huid hheader
    have hnone : (ProxyStep.traffic (σ := σ) (.request name r)).login? p.config p.filter =
        none := by rw [ProxyStep.login?, Traffic.login?, hdest]
    obtain ⟨htable, hlength, hturns⟩ := handleRequest_of_no_login hnone
    refine ⟨⟨?_, fun h => absurd h hheader⟩, fun _ => ⟨htable, hlength, hturns, ?_, ?_⟩⟩
    · rintro ⟨n, body, hfresh, hcurrent, -⟩
      have hold : p.session? key = some n := (session?_congr htable key).symm.trans hcurrent
      obtain ⟨s, hs, -⟩ := Engine.session_of_roll (hsound.roll_of_session? hold)
      rw [hfresh] at hs
      contradiction
    · intro n hn
      rw [handleRequest_eq, processRequest_of_current hdest hn]
      exact ⟨_, rfl⟩
    · intro hn
      obtain ⟨signals, heq⟩ := processRequest_of_absent hdest hn
      rw [handleRequest_eq, heq]

/-- A user who has logged in by the body does so again, with an empty header: the login starts anew.
-/
theorem run_starts_anew_with_empty_header :
    let c : EngineConfig := {}
    let f : HostFilter :=
      { deny := none, gameHost := .group 1 .empty, config := { regions := [("", "GL")] } }
    let r : Request :=
      { host := "h", path := "/account/login", uid := some "", body := "\x7b\"uid\":7\x7d".toUTF8 }
    let p : Proxy Unit Unit := (setUp c f {} () []).run [.traffic (.request "x" r)]
    p.session? ⟨"GL", 7⟩ = some 0 ∧ p.StartsAnew "y" r ⟨"GL", 7⟩ := by
  intro c f r p
  have hclass : (f.classify r.host).1 = .game "GL" := by
    simp only [f, r]
    cbv
  have huid : r.namedUid? = some 7 := by
    simp only [r]
    cbv
  have hfirst : p.session? ⟨"GL", 7⟩ = some 0 := by
    simp only [p, c, f, r]
    cbv
  obtain ⟨hiff, -⟩ := @run_starts_anew_iff Unit Unit c f {} () [] [.traffic (.request "x" r)] "y" r
    "GL" 7 hclass (by simp only [c, r]; cbv) huid
  exact ⟨hfirst, hiff.2 (Or.inr rfl)⟩

/-- The first login of a user who is named in the header as well as in the body does not start anew.
It passes through, and the user has no session afterwards. -/
theorem run_passes_login_with_header :
    let c : EngineConfig := {}
    let f : HostFilter :=
      { deny := none, gameHost := .group 1 .empty, config := { regions := [("", "GL")] } }
    let r : Request :=
      { host := "h", path := "/account/login", uid := some "7", body := "\x7b\"uid\":7\x7d".toUTF8 }
    let p : Proxy Unit Unit := (setUp c f {} () []).run []
    (f.classify r.host).1 = .game "GL" ∧ (Exchange.ofRequest r).requestOp = c.proxy.loginOp ∧
      r.namedUid? = some 7 ∧ (loginUid r.body).1 = some 7 ∧ ¬ p.StartsAnew "x" r ⟨"GL", 7⟩ ∧
      (p.handleRequest "x" r).2 = (Exchange.ofRequest r, .passThrough) ∧
      (p.handleRequest "x" r).1.session? ⟨"GL", 7⟩ = none := by
  intro c f r p
  have hnone : (p.handleRequest "x" r).1.session? ⟨"GL", 7⟩ = none := by
    simp only [p, c, f, r]
    cbv
  refine ⟨?_, ?_, ?_, ?_, ?_, ?_, hnone⟩
  · simp only [f, r]
    cbv
  · simp only [c, r]
    cbv
  · simp only [r]
    cbv
  · simp only [r]
    cbv
  · rintro ⟨n, body, -, hcurrent, -⟩
    rw [hnone] at hcurrent
    contradiction
  · simp only [p, c, f, r]
    cbv

end Proxy

end Intercept
