import Intercept.Proofs.Proxy.Apart

/-!
# Two proxies seen by one identity

Two proxies are compared, of which the second one sees less traffic: that of one identity only. They
are parallel for the identity if it finds the same in both. The sessions of the second proxy, all of
that identity, are twins of sessions of the first one, which has more and counts them otherwise; the
current sessions are twins, and so are the sessions that the exchanges of the identity are bound to
(`Parallel`).

Traffic of the identity keeps two proxies parallel if both see it (`Parallel.request`), and traffic
of others if only the first one does (`Parallel.requestOther`), provided that the modules keep to
their sessions.
-/

namespace Intercept

variable {σ γ : Type} {own : SessionKey → String → Bool} {key : SessionKey}

namespace Proxy

/-- Sessions that are twins. -/
def Twin (twins : List Nat) (n n' : Nat) : Prop := twins[n']? = some n

/-- Exchanges that differ in the number of their session only, which is that of a twin. -/
structure TwinExchange (twins : List Nat) (x x' : Exchange) : Prop where
  eq : x' = { x with session := x'.session }
  session : Option.Rel (Twin twins) x.session x'.session

/-- Twins remain twins when there are more. -/
lemma Twin.append {twins : List Nat} {n n' : Nat} (hn : Twin twins n n') (m : Nat) :
    Twin (twins ++ [m]) n n' :=
  (List.getElem?_append_left (List.getElem?_eq_some_iff.1 hn).1).trans hn

/-- Exchanges of twins remain so. -/
lemma TwinExchange.append {twins : List Nat} {x x' : Exchange} (h : TwinExchange twins x x')
    (m : Nat) : TwinExchange (twins ++ [m]) x x' :=
  ⟨h.eq, optionRel_mono (fun _ _ hn => hn.append m) h.session⟩

/-- Two proxies in which an identity finds the same: `names` are those of its exchanges, and `twins`
has for each session of the second proxy the number of its twin. -/
structure Parallel (own : SessionKey → String → Bool) (key : SessionKey) (names : List String)
    (twins : List Nat) (p p' : Proxy σ γ) : Prop where
  settings : p'.settings = p.settings
  isStarted : p'.isStarted = p.isStarted
  listeners : p.engine.listeners.Agree (own key) p'.engine.listeners
  nodup : twins.Nodup
  length : twins.length = p'.engine.sessions.length
  /-- Twins need not be alive in both proxies, but for that they are alike. -/
  alike : ∀ n n', Twin twins n n' → ∃ s s' size, p.engine.session? n = some s ∧
    p'.engine.session? n' = some s' ∧ Session.Alike ⟨key, own key, n, n'⟩ size s s'
  current : Option.Rel (Twin twins) (p.session? key) (p'.session? key)
  keys : ∀ k ∈ p'.keys, k = key
  /-- The exchanges of the identity belong to the same sessions. The second proxy may have more of
  them: those whose names have been taken by others in the first one. -/
  tracked : ∀ name ∈ names, Option.Rel (TwinExchange twins) (p.exchange? name) (p'.exchange? name)
  /-- No other exchange belongs to a session of the identity. -/
  others : ∀ name, name ∉ names → ∀ x n s, p.exchange? name = some x → x.session = some n →
    p.engine.session? n = some s → s.key ≠ key

namespace Parallel

variable {names : List String} {twins : List Nat} {p p' : Proxy σ γ}

/-- A session has one twin at most. -/
lemma right_unique (h : Parallel own key names twins p p') {n n' m' : Nat} (hn : Twin twins n n')
    (hm : Twin twins n m') : m' = n' := by
  have hlt : n' < twins.length := (List.getElem?_eq_some_iff.1 hn).1
  exact ((List.getElem?_inj hlt h.nodup).1 (hn.trans hm.symm)).symm

/-- Twins that are alive are in step. -/
lemma inStep (h : Parallel own key names twins p p') {n n' : Nat} (hn : Twin twins n n')
    {k k' : SessionKey} (hroll : p.engine.roll[n]? = some (k, true))
    (hroll' : p'.engine.roll[n']? = some (k', true)) :
    ∃ size, Engine.InStep ⟨key, own key, n, n'⟩ size p.engine p'.engine p.engine p'.engine := by
  obtain ⟨s, s', size, hs, hs', halike⟩ := h.alike n n' hn
  obtain ⟨s₀, hs₀, -, hlive⟩ := Engine.session_of_roll hroll
  obtain ⟨s₀', hs₀', -, hlive'⟩ := Engine.session_of_roll hroll'
  obtain rfl : s₀ = s := Option.some.inj (hs₀.symm.trans hs)
  obtain rfl : s₀' = s' := Option.some.inj (hs₀'.symm.trans hs')
  exact ⟨size, ⟨s₀, s₀', hs, hs', hlive, hlive', halike⟩, h.listeners, Engine.Framed.refl _ _ _,
    Engine.Framed.refl _ _ _⟩

/-- Something happens to twins. -/
lemma both (h : Parallel own key names twins p p') {n n' : Nat} (hn : Twin twins n n') {size : Nat}
    {e e' : Engine σ}
    (hstep : Engine.InStep ⟨key, own key, n, n'⟩ size p.engine p'.engine e e') :
    Parallel own key names twins { p with engine := e } { p' with engine := e' } where
  settings := h.settings
  isStarted := h.isStarted
  listeners := hstep.listeners
  nodup := h.nodup
  length := h.length.trans hstep.right.length.symm
  alike m m' hm := by
    by_cases heq : m = n
    · subst heq
      obtain rfl := h.right_unique hn hm
      obtain ⟨s, s', hs, hs', -, -, halike⟩ := hstep.twins
      exact ⟨s, s', size, hs, hs', halike⟩
    · have hne : m' ≠ n' := by
        rintro rfl
        exact heq (Option.some.inj (hm.symm.trans hn))
      obtain ⟨s, s', size', hs, hs', halike⟩ := h.alike m m' hm
      exact ⟨s, s', size', (hstep.left.sessions m heq).trans hs,
        (hstep.right.sessions m' hne).trans hs', halike⟩
  current := h.current
  keys := h.keys
  tracked := h.tracked
  others name hname x m s hx hsession hs := by
    -- The session that has changed is of the identity, so no exchange of others belongs to it.
    have hne : m ≠ n := by
      rintro rfl
      obtain ⟨s₀, _, _, hs₀, -, halike⟩ := h.alike m n' hn
      exact h.others name hname x m s₀ hx hsession hs₀ halike.key
    exact h.others name hname x m s hx hsession ((hstep.left.sessions m hne).symm.trans hs)

/-- Something happens to others, in the first proxy. -/
lemma left (h : Parallel own key names twins p p') {e : Engine σ}
    (hapart : Engine.Apart own key p.engine e) :
    Parallel own key names twins { p with engine := e } p' where
  settings := h.settings
  isStarted := h.isStarted
  listeners name hname := (hapart.listeners name hname).trans (h.listeners name hname)
  nodup := h.nodup
  length := h.length
  alike n n' hn := by
    obtain ⟨s, s', size, hs, hs', halike⟩ := h.alike n n' hn
    exact ⟨s, s', size, (hapart.sessions n s halike.key).2 hs, hs', halike⟩
  current := h.current
  keys := h.keys
  tracked := h.tracked
  others name hname x n s hx hsession hs hkey :=
    h.others name hname x n s hx hsession ((hapart.sessions n s hkey).1 hs) hkey

/-- Something happens in the second proxy that is of no identity. -/
lemma right (h : Parallel own key names twins p p') (e' : Engine σ)
    (hsessions : e'.sessions = p'.engine.sessions)
    (hlisteners : e'.listeners = p'.engine.listeners) :
    Parallel own key names twins p { p' with engine := e' } where
  settings := h.settings
  isStarted := h.isStarted
  listeners := by
    rw [hlisteners]
    exact h.listeners
  nodup := h.nodup
  length := by
    rw [hsessions]
    exact h.length
  alike n n' hn := by
    simp only [Engine.session?, hsessions]
    exact h.alike n n' hn
  current := h.current
  keys := h.keys
  tracked := h.tracked
  others := h.others

/-- Whatever is emitted. -/
lemma emit (h : Parallel own key names twins p p') (signals signals' : List Signal) :
    Parallel own key names twins (p.emit signals) (p'.emit signals') :=
  (h.left (e := p.engine.emit signals) (.congr rfl rfl)).right (p'.engine.emit signals') rfl rfl

/-- It is settled in the first proxy which sessions are alive. -/
lemma dropUnused_left (h : Parallel own key names twins p p') :
    Parallel own key names twins p.dropUnused p' where
  settings := h.settings
  isStarted := h.isStarted
  listeners := h.listeners
  nodup := h.nodup
  length := h.length
  alike n n' hn := by
    obtain ⟨s, s', size, hs, hs', halike⟩ := h.alike n n' hn
    refine ⟨{ s with isAlive := s.isAlive && p.refersTo n }, s', size, ?_, hs',
      halike.live _ s'.isAlive⟩
    rw [session?_dropUnused, hs, Option.map_some]
  current := h.current
  keys := h.keys
  tracked := h.tracked
  others name hname x n s hx hsession hs := by
    rw [session?_dropUnused] at hs
    obtain ⟨s₀, hs₀, rfl⟩ := Option.map_eq_some_iff.1 hs
    exact h.others name hname x n s₀ hx hsession hs₀

/-- It is settled in the second proxy which sessions are alive. -/
lemma dropUnused_right (h : Parallel own key names twins p p') :
    Parallel own key names twins p p'.dropUnused where
  settings := h.settings
  isStarted := h.isStarted
  listeners := h.listeners
  nodup := h.nodup
  length := h.length.trans List.length_mapIdx.symm
  alike n n' hn := by
    obtain ⟨s, s', size, hs, hs', halike⟩ := h.alike n n' hn
    refine ⟨s, { s' with isAlive := s'.isAlive && p'.refersTo n' }, size, hs, ?_,
      halike.live s.isAlive _⟩
    rw [session?_dropUnused, hs', Option.map_some]
  current := h.current
  keys := h.keys
  tracked := h.tracked
  others := h.others

/-! ### Logins -/

/-- The current session of the identity is shut down for a new one. -/
lemma closed (h : Parallel own key names twins p p') (hsound : Sound p) (hsound' : Sound p') :
    Parallel own key names twins { p with engine := p.closed key }
      { p' with engine := p'.closed key } := by
  unfold Proxy.closed
  rcases optionRel_cases h.current with ⟨hs, hs'⟩ | ⟨n, n', hs, hs', hn⟩
  · simp only [hs, hs']
    exact h
  · obtain ⟨size, hstep⟩ :=
      h.inStep hn (hsound.roll_of_session? hs) (hsound'.roll_of_session? hs')
    simp only [hs, hs']
    exact h.both hn (hstep.shutdown false)

/-- The sessions that have twins exist. -/
lemma left_lt (h : Parallel own key names twins p p') {n : Nat} (hn : n ∈ twins) :
    n < p.engine.sessions.length := by
  obtain ⟨n', hn'⟩ := List.mem_iff_getElem?.1 hn
  obtain ⟨s, -, -, hs, -⟩ := h.alike n n' hn'
  exact (List.getElem?_eq_some_iff.1 hs).1

/-- The sessions that are added next are twins. -/
lemma twin_next (h : Parallel own key names twins p p') :
    Twin (twins ++ [p.engine.sessions.length]) p.engine.sessions.length
      p'.engine.sessions.length := by
  rw [Twin, ← h.length]
  exact List.getElem?_concat_length

/-- Both proxies get a blank session of the identity. -/
lemma withSession (h : Parallel own key names twins p p') (hbound : ∀ name x n,
      p.exchange? name = some x → x.session = some n → n < p.engine.sessions.length)
    (config : StateConfig) :
    Parallel own key names (twins ++ [p.engine.sessions.length])
      { p with engine := p.engine.withSession key config }
      { p' with engine := p'.engine.withSession key config } where
  settings := h.settings
  isStarted := h.isStarted
  listeners := h.listeners
  nodup := by
    refine List.nodup_append.2 ⟨h.nodup, List.nodup_singleton _, ?_⟩
    intro n hn m hm
    rw [List.mem_singleton.1 hm]
    exact Nat.ne_of_lt (h.left_lt hn)
  length := by
    simp only [Engine.withSession, List.length_append, h.length, List.length_singleton]
  alike n n' hn := by
    by_cases heq : n' = p'.engine.sessions.length
    · subst heq
      obtain rfl : n = p.engine.sessions.length := Option.some.inj (hn.symm.trans h.twin_next)
      refine ⟨_, _, 0, ?_, ?_, Session.Alike.blank ⟨key, own key, _, _⟩ config⟩
      · rw [Engine.session?_withSession, if_pos rfl]
      · rw [Engine.session?_withSession, if_pos rfl]
    · have hlt : n' < twins.length := by
        have hle := (List.getElem?_eq_some_iff.1 hn).1
        rw [List.length_append, List.length_singleton] at hle
        have hlength := h.length
        omega
      have hold : Twin twins n n' := (List.getElem?_append_left hlt).symm.trans hn
      obtain ⟨s, s', size, hs, hs', halike⟩ := h.alike n n' hold
      have hne := Nat.ne_of_lt (h.left_lt (List.mem_of_getElem? hold))
      refine ⟨s, s', size, ?_, ?_, halike⟩
      · rw [Engine.session?_withSession, if_neg hne, hs]
      · rw [Engine.session?_withSession, if_neg heq, hs']
  current := optionRel_mono (fun _ _ hn => hn.append _) h.current
  keys := h.keys
  tracked name hname := optionRel_mono (fun _ _ hx => hx.append _) (h.tracked name hname)
  others name hname x n s hx hsession hs := by
    have hne := Nat.ne_of_lt (hbound name x n hx hsession)
    rw [Engine.session?_withSession, if_neg hne] at hs
    exact h.others name hname x n s hx hsession hs

/-- A session is started for the identity. -/
lemma startSession {registry : ModuleRegistry σ} (hregistry : registry.Isolated own)
    (h : Parallel own key names twins p p') (hbound : ∀ name x n, p.exchange? name = some x →
      x.session = some n → n < p.engine.sessions.length) (config : StateConfig) :
    Parallel own key names (twins ++ [p.engine.sessions.length])
      { p with engine := (p.engine.startSession key config registry).1 }
      { p' with engine := (p'.engine.startSession key config registry).1 } := by
  have hstep := Engine.inStep_startSession registry
    (t := ⟨key, own key, p.engine.sessions.length, p'.engine.sessions.length⟩) rfl rfl
    (fun m hm i => hregistry.init m hm key _ _ i) h.listeners config
  exact (h.withSession hbound config).both h.twin_next hstep

/-- Twins become the current sessions of the identity. -/
lemma setSession (h : Parallel own key names twins p p') {n n' : Nat} (hn : Twin twins n n') :
    Parallel own key names twins (p.setSession key n) (p'.setSession key n') where
  settings := h.settings
  isStarted := h.isStarted
  listeners := h.listeners
  nodup := h.nodup
  length := h.length
  alike := h.alike
  current := by
    rw [session?_setSession, session?_setSession, if_pos rfl, if_pos rfl]
    exact .some hn
  keys := by
    intro k hk
    rw [keys_setSession] at hk
    split at hk
    · exact h.keys k hk
    · rcases List.mem_append.1 hk with hk | hk
      · exact h.keys k hk
      · exact List.mem_singleton.1 hk
  tracked := h.tracked
  others := h.others

/-- Another identity gets a current session. -/
lemma setSession_left (h : Parallel own key names twins p p') {other : SessionKey}
    (hother : other ≠ key) (n : Nat) :
    Parallel own key names twins (p.setSession other n) p' where
  settings := h.settings
  isStarted := h.isStarted
  listeners := h.listeners
  nodup := h.nodup
  length := h.length
  alike := h.alike
  current := by
    rw [session?_setSession, if_neg (Ne.symm hother)]
    exact h.current
  keys := h.keys
  tracked := h.tracked
  others := h.others

/-- The identity logs in. -/
lemma addUser (h : Parallel own key names twins p p') (hregistry : p.registry.Isolated own)
    (hsound : Sound p) (hsound' : Sound p') :
    Parallel own key names (twins ++ [(p.addUser key).2]) (p.addUser key).1 (p'.addUser key).1 ∧
      Twin (twins ++ [(p.addUser key).2]) (p.addUser key).2 (p'.addUser key).2 := by
  obtain ⟨hconfig, -, hregistry'⟩ : p'.config = p.config ∧ p'.filter = p.filter ∧
      p'.registry = p.registry := by
    simpa [Proxy.settings] using h.settings
  have hcounted : Parallel own key names twins
      { p with engine := (p.closed key).emit [.count .sessionsCreated 1] }
      { p' with engine := (p'.closed key).emit [.count .sessionsCreated 1] } :=
    (h.closed hsound hsound').emit _ _
  have hlength : ((p.closed key).emit [.count .sessionsCreated 1]).sessions.length =
      p.engine.sessions.length := p.length_closed key
  have hopened : Parallel own key names (twins ++ [p.engine.sessions.length])
      { p with engine := p.opened key } { p' with engine := p'.opened key } := by
    have hstarted := hcounted.startSession hregistry (fun name x n hx hsession => by
      obtain ⟨k, hroll⟩ := hsound.roll_of_exchange? hx hsession
      have hlt := (List.getElem?_eq_some_iff.1 hroll).1
      rw [Engine.length_roll] at hlt
      exact hlength.symm ▸ hlt) p.config.state
    simp only [hlength] at hstarted
    have hright : p'.opened key = (((p'.closed key).emit
        [.count .sessionsCreated 1]).startSession key p.config.state p.registry).1 := by
      rw [Proxy.opened, hconfig, hregistry']
    rw [hright]
    exact hstarted
  have htwin : Twin (twins ++ [p.engine.sessions.length]) p.engine.sessions.length
      p'.engine.sessions.length := h.twin_next
  rw [addUser_eq, addUser_eq]
  exact ⟨(hopened.setSession htwin).dropUnused_left.dropUnused_right, htwin⟩

/-- Another identity logs in. -/
lemma addUser_left (h : Parallel own key names twins p p') (hregistry : p.registry.Isolated own)
    (hsound : Sound p) (htidy : p.engine.Tidy own) {other : SessionKey} (hother : other ≠ key) :
    Parallel own key names twins (p.addUser other).1 p' := by
  have hopened := h.left ((tidy_opened hregistry hsound htidy other).2 key hother)
  rw [addUser_eq]
  exact (hopened.setSession_left hother p.engine.sessions.length).dropUnused_left

/-! ### Requests -/

/-- A request is dispatched in twins. -/
lemma forward (h : Parallel own key names twins p p') {n n' : Nat} (hn : Twin twins n n')
    {k k' : SessionKey} (hroll : p.engine.roll[n]? = some (k, true))
    (hroll' : p'.engine.roll[n']? = some (k', true)) (r : Request) :
    Parallel own key names twins (p.forward n r).1 (p'.forward n' r).1 ∧
      TwinExchange twins (p.forward n r).2.1 (p'.forward n' r).2.1 ∧
      (p.forward n r).2.2 = (p'.forward n' r).2.2 := by
  obtain ⟨size, hself⟩ := h.inStep hn hroll hroll'
  obtain ⟨hbody, hstep⟩ :=
    hself.dispatch (r.exchangeIn n).requestOp r.body (r.exchangeIn n).packetMeta
  exact ⟨h.both hn hstep, ⟨rfl, .some hn⟩, congrArg RequestOutcome.dispatched hbody⟩

/-- Both proxies process a request of the identity, with the same outcome. -/
theorem request (h : Parallel own key names twins p p') (hregistry : p.registry.Isolated own)
    (hsound : Sound p) (hsound' : Sound p') {r : Request}
    (hr : r.identity? p.config p.filter = some key) :
    ∃ twins', Parallel own key names twins' (p.processRequest r).1 (p'.processRequest r).1 ∧
      TwinExchange twins' (p.processRequest r).2.1 (p'.processRequest r).2.1 ∧
      (p.processRequest r).2.2 = (p'.processRequest r).2.2 := by
  obtain ⟨hconfig, hfilter, -⟩ : p'.config = p.config ∧ p'.filter = p.filter ∧
      p'.registry = p.registry := by
    simpa [Proxy.settings] using h.settings
  unfold Request.identity? at hr
  cases hdest : r.destination p.config p.filter with
  | nowhere isBlocked =>
    rw [hdest] at hr
    contradiction
  | login k =>
    rw [hdest] at hr
    obtain rfl : k = key := Option.some.inj hr
    have hdest' : r.destination p'.config p'.filter = .login k := by rw [hconfig, hfilter, hdest]
    rw [processRequest_of_login hdest, processRequest_of_login hdest']
    obtain ⟨hadded, htwin⟩ := h.addUser hregistry hsound hsound'
    obtain ⟨hleft, hcurrent⟩ := hsound.addUser k
    obtain ⟨hright, hcurrent'⟩ := hsound'.addUser k
    exact ⟨_, hadded.forward htwin (hleft.roll_of_session? hcurrent)
      (hright.roll_of_session? hcurrent') r⟩
  | current k =>
    rw [hdest] at hr
    obtain rfl : k = key := Option.some.inj hr
    have hdest' : r.destination p'.config p'.filter = .current k := by rw [hconfig, hfilter, hdest]
    refine ⟨twins, ?_⟩
    rcases optionRel_cases h.current with ⟨hs, hs'⟩ | ⟨n, n', hs, hs', hn⟩
    · obtain ⟨signals, heq⟩ := processRequest_of_absent hdest hs
      obtain ⟨signals', heq'⟩ := processRequest_of_absent hdest' hs'
      rw [heq, heq']
      exact ⟨h.emit signals signals', ⟨rfl, .none⟩, rfl⟩
    · rw [processRequest_of_current hdest hs, processRequest_of_current hdest' hs']
      exact h.forward hn (hsound.roll_of_session? hs) (hsound'.roll_of_session? hs') r

/-- The first proxy dispatches a request in a session of another identity. -/
lemma forward_left (h : Parallel own key names twins p p') (hregistry : p.registry.Isolated own)
    (htidy : p.engine.Tidy own) {other : SessionKey} (hother : other ≠ key) {n : Nat}
    (hroll : p.engine.roll[n]? = some (other, true)) (r : Request) :
    Parallel own key names twins (p.forward n r).1 p' ∧
      ∀ m s, (p.forward n r).2.1.session = some m →
        (p.forward n r).1.engine.session? m = some s → s.key ≠ key := by
  refine ⟨h.left (htidy.apart_dispatch hregistry hother hroll _ _ _), ?_⟩
  rintro m s ⟨rfl⟩ hs
  have hroll' : (p.forward n r).1.engine.roll[n]? = some (other, true) := by
    rw [← hroll]
    exact congrArg (·[n]?) (p.engine.roll_dispatch n _ r.body _)
  rw [Engine.key_of_roll hroll' hs]
  exact hother

/-- The first proxy processes a request of another identity, or of none. -/
theorem requestOther (h : Parallel own key names twins p p') (hregistry : p.registry.Isolated own)
    (hsound : Sound p) (htidy : p.engine.Tidy own) {r : Request}
    (hr : r.identity? p.config p.filter ≠ some key) :
    Parallel own key names twins (p.processRequest r).1 p' ∧
      ∀ n s, (p.processRequest r).2.1.session = some n →
        (p.processRequest r).1.engine.session? n = some s → s.key ≠ key := by
  rcases p.processRequest_cases r with
    ⟨other, hdest, heq⟩ | ⟨other, n, hdest, hsession, heq⟩ | ⟨isBlocked, -, signals, -, heq⟩
  · have hother : other ≠ key := by
      rintro rfl
      exact hr (by rw [Request.identity?, hdest])
    obtain ⟨hadded, hcurrent⟩ := hsound.addUser other
    have hisolated : (p.addUser other).1.registry.Isolated own := by
      rw [addUser_eq]
      exact hregistry
    rw [heq]
    exact (h.addUser_left hregistry hsound htidy hother).forward_left hisolated
      (tidy_addUser hregistry hsound htidy other) hother (hadded.roll_of_session? hcurrent) r
  · have hother : other ≠ key := by
      rintro rfl
      exact hr (by rw [Request.identity?, hdest])
    rw [heq]
    exact h.forward_left hregistry htidy hother (hsound.roll_of_session? hsession) r
  · rw [heq]
    exact ⟨h.left (.congr rfl rfl), fun n s hsession => by contradiction⟩

/-! ### Exchanges in progress -/

/-- Both proxies keep exchanges of twins under a name. -/
lemma keep (h : Parallel own key names twins p p') {x x' : Exchange} (hx : TwinExchange twins x x')
    (name : String) :
    Parallel own key (name :: names) twins
      { p with exchanges := (name, x) :: p.exchanges.filter fun e => e.1 ≠ name }
      { p' with exchanges := (name, x') :: p'.exchanges.filter fun e => e.1 ≠ name } :=
  { h with
    tracked := by
      intro other hother
      simp only [exchange?, find?_key_replace]
      split
      · exact .some hx
      · next hne =>
        rcases List.mem_cons.1 hother with heq | hmem
        · exact absurd heq hne
        · exact h.tracked other hmem
    others := by
      intro other hother y n s hy
      rw [List.mem_cons, not_or] at hother
      simp only [exchange?, find?_key_replace, if_neg hother.1] at hy
      exact h.others other hother.2 y n s hy }

/-- The first proxy keeps an exchange of others under a name. -/
lemma keep_left (h : Parallel own key names twins p p') {x : Exchange}
    (hx : ∀ n s, x.session = some n → p.engine.session? n = some s → s.key ≠ key) (name : String) :
    Parallel own key (names.filter (· ≠ name)) twins
      { p with exchanges := (name, x) :: p.exchanges.filter fun e => e.1 ≠ name } p' :=
  { h with
    tracked := by
      intro other hother
      obtain ⟨hmem, hne⟩ := List.mem_filter.1 hother
      simp only [exchange?, find?_key_replace, if_neg (of_decide_eq_true hne)]
      exact h.tracked other hmem
    others := by
      intro other hother y n s hy
      simp only [exchange?, find?_key_replace] at hy
      split at hy
      · obtain rfl : x = y := Option.some.inj hy
        exact hx n s
      · next hne =>
        refine h.others other (fun hmem => hother ?_) y n s hy
        exact List.mem_filter.2 ⟨hmem, decide_eq_true hne⟩ }

/-- The first proxy forgets the exchange of a name. -/
lemma forget_left (h : Parallel own key names twins p p') (name : String) :
    Parallel own key (names.filter (· ≠ name)) twins
      { p with exchanges := p.exchanges.filter fun e => e.1 ≠ name } p' :=
  { h with
    tracked := by
      intro other hother
      obtain ⟨hmem, hne⟩ := List.mem_filter.1 hother
      simp only [exchange?, find?_key_filter_ne (of_decide_eq_true hne)]
      exact h.tracked other hmem
    others := by
      intro other hother y n s hy
      obtain ⟨-, hne⟩ := List.mem_filter.1 (mem_of_find?_key hy)
      have hne : other ≠ name := of_decide_eq_true hne
      simp only [exchange?, find?_key_filter_ne hne] at hy
      refine h.others other (fun hmem => hother ?_) y n s hy
      exact List.mem_filter.2 ⟨hmem, decide_eq_true hne⟩ }

/-- The second proxy forgets an exchange that is not of the identity any more. -/
lemma forget_right (h : Parallel own key names twins p p') {name : String} (hname : name ∉ names) :
    Parallel own key names twins p
      { p' with exchanges := p'.exchanges.filter fun e => e.1 ≠ name } :=
  { h with
    tracked := by
      intro other hother
      have hne : other ≠ name := fun heq => hname (heq ▸ hother)
      simp only [exchange?, find?_key_filter_ne hne]
      exact h.tracked other hother }

/-! ### Responses -/

/-- Both proxies handle the response of an exchange of the identity, and answer the same. -/
theorem response (h : Parallel own key names twins p p') (hsound : Sound p) (hsound' : Sound p')
    {name : String} (hname : name ∈ names) (body : ByteArray) :
    Parallel own key names twins (p.handle (.response name body))
        (p'.handle (.response name body)) ∧
      ((p.exchange? name).map fun x => (p.handleResponse x body).2) =
        (p'.exchange? name).map fun x => (p'.handleResponse x body).2 := by
  unfold Proxy.handle
  rcases optionRel_cases (h.tracked name hname) with ⟨hx, hx'⟩ | ⟨x, x', hx, hx', heq, hrel⟩
  · simp only [hx, hx']
    exact ⟨h, rfl⟩
  · simp only [hx, hx', Option.map_some]
    by_cases hblocked : x.isBlocked = true
    · have hblocked' : x'.isBlocked = true := by rw [heq, hblocked]
      rw [handleResponse, handleResponse, if_pos hblocked, if_pos hblocked']
      exact ⟨h, rfl⟩
    · have hblocked' : ¬ x'.isBlocked = true := by rwa [heq]
      rw [handleResponse, handleResponse, if_neg hblocked, if_neg hblocked']
      rcases optionRel_cases hrel with ⟨hs, hs'⟩ | ⟨n, n', hs, hs', hn⟩
      · rw [hs, hs']
        exact ⟨h, rfl⟩
      · obtain ⟨k, hroll⟩ := hsound.roll_of_exchange? hx hs
        obtain ⟨k', hroll'⟩ := hsound'.roll_of_exchange? hx' hs'
        obtain ⟨size, hself⟩ := h.inStep hn hroll hroll'
        obtain ⟨hbody, hstep⟩ := hself.dispatch x.responseOp body x.packetMeta
        have hop : x'.responseOp = x.responseOp := by
          rw [heq]
          rfl
        have hmeta : x'.packetMeta = x.packetMeta := by
          rw [heq]
          rfl
        rw [hs, hs', hop, hmeta]
        exact ⟨h.both hn hstep, congrArg some hbody⟩

/-- The first proxy handles a response of others. -/
theorem responseOther (h : Parallel own key names twins p p') (hregistry : p.registry.Isolated own)
    (hsound : Sound p) (htidy : p.engine.Tidy own) {name : String} (hname : name ∉ names)
    (body : ByteArray) : Parallel own key names twins (p.handle (.response name body)) p' := by
  rcases p.handle_response_cases name body with heq | ⟨x, n, hx, hsession, heq⟩
  · rw [heq]
    exact h
  · obtain ⟨k, hroll⟩ := hsound.roll_of_exchange? hx hsession
    have hother : k ≠ key := by
      obtain ⟨s, hs, rfl, -⟩ := Engine.session_of_roll hroll
      exact h.others name hname x n s hx hsession hs
    rw [heq]
    exact h.left (htidy.apart_dispatch hregistry hother hroll _ _ _)

/-! ### Starting and stopping -/

/-- Both proxies start to serve. -/
lemma start (h : Parallel own key names twins p p') (hregistry : p.registry.Isolated own) :
    Parallel own key names twins p.start p'.start := by
  have hregistry' : p'.registry = p.registry := (Prod.mk.inj (Prod.mk.inj h.settings).2).2
  obtain ⟨hsessions, hlisteners⟩ := start_eq hregistry
  obtain ⟨hsessions', hlisteners'⟩ := start_eq (p := p') (hregistry' ▸ hregistry)
  have hstarted := (h.left (.congr hsessions hlisteners)).right p'.start.engine hsessions'
    hlisteners'
  have hsame := h.isStarted
  unfold Proxy.start at hstarted ⊢
  cases hp : p.isStarted with
  | true =>
    rw [hp] at hsame
    simp only [hsame, if_true]
    exact h
  | false =>
    rw [hp] at hsame
    simp only [hp, hsame, Bool.false_eq_true, if_false] at hstarted ⊢
    exact { hstarted with isStarted := rfl }

/-- The sessions of others are shut down in the first proxy. -/
lemma foldl_shutdown_left (h : Parallel own key names twins p p')
    (hregistry : p.registry.Isolated own) (htidy : p.engine.Tidy own)
    {entries : List (SessionKey × Nat)}
    (hentries : ∀ k n, (k, n) ∈ entries → k ≠ key ∧ p.engine.roll[n]? = some (k, true)) :
    Parallel own key names twins
      { p with engine := entries.foldl (fun e entry => e.shutdown entry.2 true) p.engine } p' := by
  refine h.left ?_
  have hapart : ∀ (entries : List (SessionKey × Nat)) (e : Engine σ), e.Tidy own →
      (∀ k n, (k, n) ∈ entries → k ≠ key ∧ e.roll[n]? = some (k, true)) →
      Engine.Apart own key e (entries.foldl (fun e entry => e.shutdown entry.2 true) e) := by
    intro entries
    induction entries with
    | nil => exact fun e _ _ => .congr rfl rfl
    | cons entry entries ih =>
      intro e he hentries
      obtain ⟨hother, hroll⟩ := hentries entry.1 entry.2 List.mem_cons_self
      refine (he.apart_shutdown hregistry hother hroll true).trans
        (ih _ (he.shutdown hroll true).1 fun k n hmem => ?_)
      rw [Engine.enduring_roll.toLasting.shutdown]
      exact hentries k n (List.mem_cons_of_mem entry hmem)
  exact hapart entries p.engine htidy hentries

/-- The table of a proxy in which there is one identity at most. -/
lemma table_right (h : Parallel own key names twins p p') (hsound' : Sound p') :
    p'.table = ((p'.session? key).map fun n => (key, n)).toList := by
  have hkeys : ∀ k ∈ p'.table.map Prod.fst, k = key := h.keys
  have hnodup : (p'.table.map Prod.fst).Nodup := hsound'.keys
  unfold session?
  cases htable : p'.table with
  | nil => rfl
  | cons entry entries =>
    rw [htable] at hkeys hnodup
    rw [List.map_cons] at hkeys hnodup
    have hentry : entry.1 = key := hkeys _ List.mem_cons_self
    have hnil : entries = [] := by
      refine List.eq_nil_iff_forall_not_mem.2 fun other hmem => ?_
      have hkey := List.mem_map_of_mem (f := Prod.fst) hmem
      have hsame := (hkeys _ (List.mem_cons_of_mem _ hkey)).trans hentry.symm
      exact (List.nodup_cons.1 hnodup).1 (hsame ▸ hkey)
    subst hnil hentry
    simp

/-- There is but one way to arrange the table of a proxy in which there is one identity at most. -/
lemma arranged_right (h : Parallel own key names twins p p') (hsound' : Sound p')
    (rank : SessionKey → Nat) :
    p'.arranged rank = ((p'.session? key).map fun n => (key, n)).toList := by
  have hperm := p'.arranged_perm rank
  rw [h.table_right hsound'] at hperm
  cases hs : p'.session? key with
  | none =>
    rw [hs] at hperm
    exact List.perm_nil.1 hperm
  | some n =>
    rw [hs] at hperm
    exact List.perm_singleton.1 hperm

/-- Both proxies tell the modules of every session that the process ends, the first one in whatever
order. -/
theorem shutdown (h : Parallel own key names twins p p') (hregistry : p.registry.Isolated own)
    (hsound : Sound p) (hsound' : Sound p') (htidy : p.engine.Tidy own) (rank : SessionKey → Nat) :
    Parallel own key names twins (p.shutdown rank) (p'.shutdown rank) := by
  have hright : (p'.arranged rank).foldl (fun e entry => e.shutdown entry.2 true) p'.engine =
      ((p'.session? key).map fun n => (key, n)).toList.foldl
        (fun e entry => e.shutdown entry.2 true) p'.engine :=
    congrArg (List.foldl _ _) (h.arranged_right hsound' rank)
  unfold Proxy.shutdown
  rw [hright]
  rcases optionRel_cases h.current with ⟨hs, hs'⟩ | ⟨n, n', hs, hs', hn⟩
  · rw [hs']
    refine h.foldl_shutdown_left hregistry htidy
      fun k n hmem => ⟨?_, hsound.roll_of_mem (mem_arranged.1 hmem)⟩
    rintro rfl
    have hsome : p.session? k = some n := find?_key_of_mem hsound.keys (mem_arranged.1 hmem)
    rw [hs] at hsome
    contradiction
  · -- The session of the identity is shut down in between those of others.
    obtain ⟨before, after, htable, hothers⟩ := hsound.arranged_around hs rank
    have hbefore := fun k m hmem => hothers k m (List.mem_append_left after hmem)
    have hafter := fun k m hmem => hothers k m (List.mem_append_right before hmem)
    have hleft : (p.arranged rank).foldl (fun e entry => e.shutdown entry.2 true) p.engine =
        after.foldl (fun e entry => e.shutdown entry.2 true)
          ((before.foldl (fun e entry => e.shutdown entry.2 true) p.engine).shutdown n true) := by
      rw [htable, List.foldl_append, List.foldl_cons]
    have hfirst := h.foldl_shutdown_left hregistry htidy hbefore
    have htidy₁ := tidy_foldl_shutdown (fun k m hmem => (hbefore k m hmem).2) htidy
    have hroll₁ : (before.foldl (fun e entry => e.shutdown entry.2 true) p.engine).roll =
        p.engine.roll := by
      refine Engine.view_foldl id ?_ before p.engine
      exact fun e entry => Engine.enduring_roll.toLasting.shutdown e entry.2 true
    have hcurrent := hroll₁ ▸ hsound.roll_of_session? hs
    obtain ⟨size, hself⟩ := hfirst.inStep hn hcurrent (hsound'.roll_of_session? hs')
    have hboth := hfirst.both hn (hself.shutdown true)
    rw [hs', hleft]
    refine hboth.foldl_shutdown_left hregistry (htidy₁.shutdown hcurrent true).1
      fun k m hmem => ⟨(hafter k m hmem).1, ?_⟩
    rw [Engine.enduring_roll.toLasting.shutdown, hroll₁]
    exact (hafter k m hmem).2

end Parallel

end Proxy

end Intercept
