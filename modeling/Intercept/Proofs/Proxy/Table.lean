import Intercept.Proofs.Proxy.Record
import Intercept.Proofs.Session.Live

/-!
# The table of sessions

Which sessions are current is a matter of the logins alone. Every login adds a session and makes it
the current one of its identity; nothing else changes the table (`run_changes_table_by_logins`). Before
the modules of the new session are initialised, those of the replaced one have had their turns, and
the new session has nothing from it: it knows of the state what its own packet tells, and its hooks
are those that its own start has registered.

A request that is blocked or passes through leaves everything as it is, and its response does so too.
-/

namespace Intercept

variable {σ γ : Type}

/-- The identities that log in in some steps. -/
def ProxyStep.logins (c : EngineConfig) (f : HostFilter) (steps : List (ProxyStep σ)) :
    List SessionKey := steps.filterMap (login? c f)

/-- All there is in a session, but for its life. -/
def Session.content (s : Session σ) : Session σ := { s with isAlive := true }

/-- All there is in the sessions of an engine, but for their lives. -/
def Engine.contents (e : Engine σ) : List (Session σ) := e.sessions.map Session.content

namespace Proxy

variable {p : Proxy σ γ}

/-! ### Logins -/

/-- A login starts a session, and no other step does. -/
lemma length_step (p : Proxy σ γ) (s : ProxyStep σ) : (p.step s).engine.sessions.length =
    p.engine.sessions.length + (s.login? p.config p.filter).toList.length := by
  have hview := view_step Engine.lasting_lineups Engine.lineups_ingest lineups_dropUnused p s
  rw [← Engine.length_lineups, hview, ← Engine.length_lineups]
  cases s.login? p.config p.filter with
  | none => rfl
  | some key =>
    obtain ⟨ended, -, -, hstart⟩ := Engine.lineups_startSession
      ((p.closed key).emit [.count .sessionsCreated 1]) key p.config.state p.registry
    rw [← p.view_closed Engine.lasting_lineups key]
    exact (congrArg List.length hstart).trans List.length_append

/-- The table has an entry for every identity that has logged in, and every login has been counted
and has started a session. -/
structure Tallied (p : Proxy σ γ) (logins : List SessionKey) : Prop where
  keys : ∀ key, key ∈ p.keys ↔ key ∈ logins
  sessions : p.engine.sessions.length = logins.length
  counted : p.engine.counted .sessionsCreated = logins.length

namespace Tallied

variable {logins : List SessionKey}

/-- A login adds to the tally, and no other step changes it. -/
lemma step (h : Tallied p logins) (s : ProxyStep σ) :
    Tallied (p.step s) (logins ++ (s.login? p.config p.filter).toList) := by
  have hcount := view_step Engine.enduring_counted.toLasting
    (fun e n op payload => Engine.counted_ingest (by decide) e n op payload) (fun _ => rfl) p s
  refine ⟨fun key => ?_, ?_, ?_⟩
  · rw [keys_step, List.mem_append, ← h.keys key]
    cases s.login? p.config p.filter with
    | none => simp
    | some key' =>
      simp only [Option.toList_some, List.mem_singleton]
      split
      · next hin =>
        constructor
        · exact Or.inl
        · rintro (hold | rfl)
          · exact hold
          · exact hin
      · rw [List.mem_append, List.mem_singleton]
  · rw [length_step, List.length_append, h.sessions]
  · rw [hcount, List.length_append, ← h.counted]
    cases s.login? p.config p.filter with
    | none => rfl
    | some key =>
      have hstart : (p.opened key).counted .sessionsCreated =
          ((p.closed key).emit [.count .sessionsCreated 1]).counted .sessionsCreated :=
        Engine.enduring_counted.startSession _ key p.config.state p.registry
      change (p.opened key).counted .sessionsCreated = _
      rw [hstart, Engine.counted_emit, p.view_closed Engine.enduring_counted.toLasting]
      rfl

/-- The tally of a run is that of its logins. -/
theorem run (h : Tallied p logins) (steps : List (ProxyStep σ)) :
    Tallied (p.run steps) (logins ++ ProxyStep.logins p.config p.filter steps) := by
  induction steps generalizing p logins with
  | nil =>
    rw [ProxyStep.logins, List.filterMap_nil, List.append_nil]
    exact h
  | cons s steps ih =>
    have hnext := ih (h.step s)
    have hsplit : ProxyStep.logins p.config p.filter (s :: steps) =
        (s.login? p.config p.filter).toList ++ ProxyStep.logins p.config p.filter steps := by
      rw [ProxyStep.logins, List.filterMap_cons]
      cases s.login? p.config p.filter <;> rfl
    rw [hsplit, ← List.append_assoc]
    rwa [config_step, filter_step] at hnext

end Tallied

/-! ### The new session -/

/-- What is left of a roster when nothing refers to its session any more. -/
lemma roster?_dropUnused (p : Proxy σ γ) (n : Nat) : p.dropUnused.engine.roster? n =
    (p.engine.roster? n).map fun r => { r with isAlive := r.isAlive && p.refersTo n } := by
  rw [Engine.roster?, session?_dropUnused, Engine.roster?]
  cases p.engine.session? n <;> rfl

/-- The mirror of a new session is empty, and takes in the packet of the login. -/
lemma mirrors_login (p : Proxy σ γ) (key : SessionKey) (r : Request) :
    ((p.addUser key).1.forward (p.addUser key).2 r).1.engine.mirrors = p.engine.mirrors ++
      [(Mirror.empty key p.config.state).takeIn (Exchange.ofRequest r).requestOp r.body] := by
  have hopened : (p.opened key).mirrors = p.engine.mirrors ++ [.empty key p.config.state] := by
    rw [← p.view_closed Engine.enduring_mirrors.toLasting key]
    exact Engine.mirrors_startSession _ key p.config.state p.registry
  have hlength : p.engine.mirrors.length = p.engine.sessions.length := List.length_map _
  refine (Engine.mirrors_dispatch _ _ _ r.body _).trans ?_
  rw [addUser_eq, mirrors_dropUnused]
  change (p.opened key).mirrors.modify p.engine.sessions.length _ = _
  rw [hopened, ← hlength, List.modify_eq_set_getElem?]
  simp [Request.exchangeIn, Exchange.requestOp]

/-- The hooks of a new session have been registered in its own start. -/
lemma hooks_login (p : Proxy σ γ) (key : SessionKey) (r : Request) : ∃ s,
    ((p.addUser key).1.forward (p.addUser key).2 r).1.engine.session? p.engine.sessions.length =
        some s ∧
      ∀ g ∈ s.table.hooks, g ∈ Register.standing Hook.id
        (((p.closed key).emit [.count .sessionsCreated 1]).startLedger p.engine.sessions.length key
          p.config.state p.registry) := by
  obtain ⟨r₁, hr₁, hsealed, -, horder, -⟩ := Engine.startSession_inPriorityOrder
    ((p.closed key).emit [.count .sessionsCreated 1]) key p.config.state p.registry
  have hlength : ((p.closed key).emit [.count .sessionsCreated 1]).sessions.length =
      p.engine.sessions.length := p.length_closed key
  rw [hlength] at hr₁ horder
  have hrefers : ({ p with engine := p.opened key }.setSession key
      p.engine.sessions.length).refersTo p.engine.sessions.length = true :=
    refersTo_iff.2 (Or.inl ⟨key, mem_of_find?_key ((session?_setSession _ key key _).trans
      (if_pos rfl))⟩)
  have hadded : (p.addUser key).1.engine.roster? p.engine.sessions.length = some r₁ := by
    have hopened : (p.opened key).roster? p.engine.sessions.length = some r₁ := hr₁
    have halive : (r₁.isAlive && true) = r₁.isAlive := Bool.and_true _
    rw [addUser_eq, roster?_dropUnused, hrefers]
    change ((p.opened key).roster? _).map _ = _
    rw [hopened, Option.map_some, halive]
  -- The packet of the login finds the session sealed, so its hooks can only become fewer.
  let login : EngineStep σ := .packet (p.addUser key).2 (r.exchangeIn (p.addUser key).2).requestOp
    r.body (r.exchangeIn (p.addUser key).2).packetMeta
  let entries := (p.addUser key).1.engine.stepLedger p.engine.sessions.length login
  obtain ⟨r₂, hr₂, hfollows, -, hnext⟩ : ∃ r₂, ((p.addUser key).1.engine.step login).roster?
      p.engine.sessions.length = some r₂ ∧ r₁.Follows entries r₂ ∧ r₂.Sealed ∧
        r₂.nextHook = r₁.nextHook :=
    Engine.step_keeps p.engine.sessions.length (p.addUser key).1.engine login r₁ hadded hsealed
  have hnone : Register.standing Hook.id entries = [] := by
    have hsub := @Register.standing_sublist _ Hook.id entries
    rw [hfollows.entered_eq_nil hnext] at hsub
    exact List.sublist_nil.1 hsub
  obtain ⟨s, hs, rfl⟩ := Option.map_eq_some_iff.1 hr₂
  refine ⟨s, hs, fun g hg => ?_⟩
  have hhooks := hfollows.hooks
  rw [hnone, List.append_nil] at hhooks
  have hmem : g ∈ r₁.table.hooks := by
    have hg : g ∈ s.roster.table.hooks := hg
    rw [hhooks] at hg
    exact List.mem_of_mem_filter hg
  exact horder.perm.mem_iff.1 hmem

/-! ### Requests that belong nowhere -/

/-- A request that is not dispatched changes no session, and its exchange belongs to none. -/
lemma refused_step (p : Proxy σ γ) (name : String) (r : Request)
    (h : (p.handleRequest name r).2.2 = .blocked ∨ (p.handleRequest name r).2.2 = .passThrough) :
    let p' := p.step (.traffic (.request name r))
    p'.table = p.table ∧ p'.engine.contents = p.engine.contents ∧
      p'.engine.listeners = p.engine.listeners ∧ p'.engine.memory = p.engine.memory ∧
      ∃ x, p'.exchange? name = some x ∧ x.session = none := by
  intro p'
  have hexchange := p.exchange?_request name r
  have hcontents : ∀ q : Proxy σ γ, q.dropUnused.engine.contents = q.engine.contents :=
    fun q => map_dropUnused (fun _ _ => rfl) q
  have hprocessed : p'.table = (p.processRequest r).1.table ∧
      p'.engine.contents = (p.processRequest r).1.engine.contents ∧
      p'.engine.listeners = (p.processRequest r).1.engine.listeners ∧
      p'.engine.memory = (p.processRequest r).1.engine.memory :=
    ⟨rfl, hcontents _, rfl, rfl⟩
  obtain ⟨htable, hsame, hlisteners, hmemory⟩ := hprocessed
  have houtcome : (p.processRequest r).2.2 = .blocked ∨ (p.processRequest r).2.2 = .passThrough := h
  rcases p.processRequest_cases r with
    ⟨key, -, heq⟩ | ⟨key, n, -, -, heq⟩ | ⟨isBlocked, -, signals, -, heq⟩
  · rw [heq] at houtcome
    rcases houtcome with hout | hout <;> cases hout
  · rw [heq] at houtcome
    rcases houtcome with hout | hout <;> cases hout
  · rw [heq] at htable hsame hlisteners hmemory hexchange
    exact ⟨htable, hsame, hlisteners, hmemory, _, hexchange, rfl⟩

/-! ### The table over a run -/

/-- A step in which an identity logs in is a request of that identity. -/
lemma exists_request_of_login {c : EngineConfig} {f : HostFilter} {s : ProxyStep σ}
    {key : SessionKey} (h : s.login? c f = some key) :
    ∃ name r, s = .traffic (.request name r) ∧ r.destination c f = .login key := by
  cases s with
  | code program => contradiction
  | traffic t =>
    cases t with
    | request name r =>
      rw [ProxyStep.login?, Traffic.login?] at h
      split at h
      · next key' hdest =>
        obtain rfl := Option.some.inj h
        exact ⟨name, r, rfl, hdest⟩
      · contradiction
    | response name body => contradiction
    | finish name => contradiction
    | start => contradiction
    | shutdown rank => contradiction

/-- The order of a login: all turns of modules of the session that is replaced come before the init
functions, which are of the new session. -/
lemma login_activity (p : Proxy σ γ) (name : String) {r : Request} {key : SessionKey}
    (h : r.destination p.config p.filter = .login key) : ∃ opening,
      p.stepActivity (.traffic (.request name r)) = p.closingActivity key ++ opening ∧
      (p.closingActivity key).filterMap Activity.turn? = p.closingTurns key ∧
      (p.closingActivity key).filterMap Activity.begun? = [] ∧
      opening.filterMap Activity.turn? = [] ∧
      opening.filterMap Activity.begun? =
        p.registry.modules.map fun _ => p.engine.sessions.length := by
  have hactivity : p.stepActivity (.traffic (.request name r)) = p.closingActivity key ++
      (((p.closed key).emit [.count .sessionsCreated 1]).startActivity key p.config.state
        p.registry ++ (p.addUser key).1.forwardActivity (p.addUser key).2 r) := by
    rw [stepActivity, requestActivity, h, ← List.append_assoc]
    rfl
  refine ⟨_, hactivity, p.turns_closing key, ?_, ?_, ?_⟩
  · exact filterMap_closingActivity (fun _ _ => rfl) (fun _ _ => rfl) (fun _ _ _ => rfl) p key
  · rw [List.filterMap_append,
      Engine.filterMap_startActivity (fun _ _ => rfl) (fun _ => rfl) fun _ _ => rfl]
    exact Engine.filterMap_dispatchActivity (fun _ _ => rfl) (fun _ _ _ => rfl) _ _ _ _ _
  · have hforward : ((p.addUser key).1.forwardActivity (p.addUser key).2 r).filterMap
        Activity.begun? = [] :=
      Engine.filterMap_dispatchActivity (fun _ _ => rfl) (fun _ _ _ => rfl) _ _ _ _ _
    rw [List.filterMap_append, Engine.begun_start, hforward, List.append_nil, ← p.length_closed key]
    rfl

/-- The response of an exchange that belongs to no session changes nothing. -/
lemma step_response_of_none {name : String} {x : Exchange} (hx : p.exchange? name = some x)
    (hnone : x.session = none) (body : ByteArray) :
    p.step (.traffic (.response name body)) = p := by
  rw [step, handle, hx]
  simp only [handleResponse, hnone]
  split_ifs <;> rfl

/-- The table of sessions over all runs. Whatever modules do, of a proxy that has been set up and of
one more step it holds:

* An identity has one entry at most, and it has one if it has logged in. The number of entries is
  that of the identities that have logged in; as many sessions were started and have been counted as
  there were logins.
* The entry of an identity is a session of just this identity, and alive.
* No step removes an identity, and no step changes the table but a login.
* A login is a request on the login operation of a game host in a known region, without a user in
  the header and with one in the body. It changes one entry, which is a new session from then on.
  First the modules of the session that was there have their turns, all of them, and then those of
  the new one are initialised. What the new session knows of the state is what the packet of the
  login tells, and its hooks are those that its own start has registered.
* A request that is blocked or passes through changes neither the table nor a session, and its
  response, whenever it comes, changes nothing at all.
* No response changes the table. -/
theorem run_changes_table_by_logins (c : EngineConfig) (f : HostFilter)
    (registry : ModuleRegistry σ) (memory : σ) (ls : Listeners) (steps : List (ProxyStep σ)) :
    let p : Proxy σ γ := (setUp c f registry memory ls).run steps
    let logins := ProxyStep.logins c f steps
    (p.keys.Nodup ∧ (∀ key, key ∈ p.keys ↔ key ∈ logins) ∧
      p.sessionCount = logins.dedup.length ∧ p.engine.sessions.length = logins.length ∧
      p.engine.counted .sessionsCreated = logins.length) ∧
    (∀ key n, (key, n) ∈ p.table →
      ∃ s, p.engine.session? n = some s ∧ s.key = key ∧ s.isAlive = true) ∧
    (∀ s, p.keys <+: (p.step s).keys ∧ (s.login? c f = none → (p.step s).table = p.table)) ∧
    (∀ s key, s.login? c f = some key →
      let p' := p.step s
      let new := p.engine.sessions.length
      ∃ name r, s = .traffic (.request name r) ∧
        (f.classify r.host = (.game key.region, []) ∧
          (Exchange.ofRequest r).requestOp = c.proxy.loginOp ∧
          Identity.ofHeader r.uid = .anonymous ∧ loginUid r.body = (some key.uid, [])) ∧
        p'.session? key = some new ∧
        (∀ key', key' ≠ key → p'.session? key' = p.session? key') ∧
        (∃ opening, p.stepActivity s = p.closingActivity key ++ opening ∧
          (p.closingActivity key).filterMap Activity.turn? = p.closingTurns key ∧
          (p.closingActivity key).filterMap Activity.begun? = [] ∧
          opening.filterMap Activity.turn? = [] ∧
          opening.filterMap Activity.begun? = registry.modules.map fun _ => new) ∧
        p'.engine.mirrors = p.engine.mirrors ++
          [(Mirror.empty key c.state).takeIn (Exchange.ofRequest r).requestOp r.body] ∧
        ∃ s', p'.engine.session? new = some s' ∧
          ∀ g ∈ s'.table.hooks, g ∈ Register.standing Hook.id
            (((p.closed key).emit [.count .sessionsCreated 1]).startLedger new key c.state
              registry)) ∧
    (∀ name r, (p.handleRequest name r).2.2 = .blocked ∨
        (p.handleRequest name r).2.2 = .passThrough →
      let p' := p.step (.traffic (.request name r))
      p'.table = p.table ∧ p'.engine.contents = p.engine.contents ∧
        p'.engine.listeners = p.engine.listeners ∧ p'.engine.memory = p.engine.memory ∧
        ∀ later : List (ProxyStep σ), (∀ s ∈ later, ¬ s.Renames name) → ∀ body,
          (p'.run later).step (.traffic (.response name body)) = p'.run later) ∧
    ∀ name body, (p.step (.traffic (.response name body))).table = p.table := by
  intro p logins
  have hsettings : p.settings = (c, f, registry) := settings_run _ steps
  have hsound : Sound p := (Sound.setUp c f registry memory ls).run steps
  have htally : Tallied p logins := by
    have hempty : Tallied (setUp c f registry memory ls : Proxy σ γ) [] :=
      ⟨fun _ => Iff.rfl, rfl, rfl⟩
    exact hempty.run steps
  clear_value p logins
  obtain ⟨rfl, rfl, rfl⟩ : p.config = c ∧ p.filter = f ∧ p.registry = registry := by
    simpa [settings] using hsettings
  refine ⟨⟨hsound.keys, htally.keys, ?_, htally.sessions, htally.counted⟩, ?_, ?_, ?_, ?_, ?_⟩
  · have hperm : p.keys.Perm logins.dedup := by
      refine (List.perm_ext_iff_of_nodup hsound.keys (List.nodup_dedup logins)).2 fun key => ?_
      rw [htally.keys key, List.mem_dedup]
    rw [← hperm.length_eq, keys, List.length_map]
    rfl
  · intro key n hmem
    exact Engine.session_of_roll (hsound.roll_of_mem hmem)
  · intro s
    have htable := (p.frame_step s).2
    constructor
    · rw [keys_step]
      split
      · split
        · exact List.prefix_refl _
        · exact List.prefix_append _ _
      · exact List.prefix_refl _
    · intro hnone
      rw [htable, hnone]
  · intro s key hlogin p' new
    obtain ⟨name, r, rfl, hdest⟩ := exists_request_of_login hlogin
    have hsession : ∀ key', p'.session? key' = if key' = key then some new else p.session? key' := by
      intro key'
      have htable := (p.frame_step (.traffic (.request name r))).2
      rw [hlogin] at htable
      rw [← session?_setSession]
      exact congrArg (fun t : List (SessionKey × Nat) =>
        (t.find? fun e => e.1 = key').map (·.2)) htable
    have hprocessed := processRequest_of_login hdest
    obtain ⟨hclass, hheader, hop, hbody⟩ := Request.destination_eq_login.1 hdest
    refine ⟨name, r, rfl, ⟨?_, hop, hheader, ?_⟩, (hsession key).trans (if_pos rfl),
      fun key' hne => (hsession key').trans (if_neg hne), p.login_activity name hdest, ?_, ?_⟩
    · exact Prod.ext hclass ((p.filter.classify_signals r.host).1 key.region hclass)
    · exact Prod.ext hbody ((loginUid_signals r.body).1 key.uid hbody)
    · have hmirrors : p'.engine.mirrors = (p.processRequest r).1.engine.mirrors :=
        mirrors_dropUnused _
      rw [hmirrors, hprocessed, mirrors_login]
    · obtain ⟨s', hs', hhooks⟩ := p.hooks_login key r
      rw [← hprocessed] at hs'
      have hdropped := session?_dropUnused { (p.processRequest r).1 with
        exchanges := (name, (p.processRequest r).2.1) ::
          (p.processRequest r).1.exchanges.filter fun e => e.1 ≠ name } new
      rw [hs', Option.map_some] at hdropped
      exact ⟨_, hdropped, hhooks⟩
  · intro name r hrefused p'
    obtain ⟨htable, hcontents, hlisteners, hmemory, x, hx, hnone⟩ := p.refused_step name r hrefused
    refine ⟨htable, hcontents, hlisteners, hmemory, fun later hlater body => ?_⟩
    exact step_response_of_none ((p'.exchange?_run hlater).trans hx) hnone body
  · intro name body
    exact (p.frame_step (.traffic (.response name body))).2

/-- A user who has logged in twice has one entry, and two sessions have been started. At the next login
the third session becomes the current one. -/
theorem run_counts_repeated_logins :
    let c : EngineConfig := {}
    let f : HostFilter :=
      { deny := none, gameHost := .group 1 .empty, config := { regions := [("", "GL")] } }
    let login : ProxyStep Unit := .traffic (.request "x"
      { host := "h", path := "/account/login", body := "\x7b\"uid\":7\x7d".toUTF8 })
    let p := (setUp c f {} () [] : Proxy Unit Unit).run [login, login]
    p.sessionCount = 1 ∧ p.engine.sessions.length = 2 ∧
      login.login? c f = some ⟨"GL", 7⟩ ∧ (p.step login).session? ⟨"GL", 7⟩ = some 2 := by
  intro c f login p
  obtain ⟨⟨-, -, hcount, hlength, -⟩, -, -, hlogin, -⟩ :=
    @run_changes_table_by_logins Unit Unit c f {} () [] [login, login]
  have hkey : login.login? c f = some ⟨"GL", 7⟩ := by cbv
  have hlogins : ProxyStep.logins c f [login, login] = [⟨"GL", 7⟩, ⟨"GL", 7⟩] := by
    simp [ProxyStep.logins, hkey]
  rw [hlogins] at hcount hlength
  obtain ⟨name, r, -, -, hcurrent, -⟩ := hlogin login ⟨"GL", 7⟩ hkey
  refine ⟨hcount, hlength, hkey, hcurrent.trans (congrArg some hlength)⟩

end Proxy

end Intercept
