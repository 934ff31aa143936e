import Intercept.Proofs.Proxy.Sound
import Intercept.Proofs.Session.InStep

/-!
# What is apart from an identity

Two engines, one after the other, are the same for an identity if its sessions are, and the events for
it (`Apart`). If the modules keep to their sessions, the packets, the start and the end of a session
of one identity are apart from all other identities.

The modules of a proxy keep to their sessions all the while: its engine is tidy at first, and no
traffic makes it untidy (`tidy_handle`).
-/

namespace Intercept

variable {σ γ : Type} {own : SessionKey → String → Bool} {key : SessionKey}

namespace Engine

/-- Of two engines, one after the other, what is of an identity is the same: its sessions, and the
events for it. -/
structure Apart (own : SessionKey → String → Bool) (key : SessionKey) (e e₁ : Engine σ) : Prop where
  sessions : ∀ n s, s.key = key → (e₁.session? n = some s ↔ e.session? n = some s)
  listeners : e₁.listeners.Agree (own key) e.listeners

/-- Signals and the memory are of no identity. -/
lemma Apart.congr {e e₁ : Engine σ} (hsessions : e₁.sessions = e.sessions)
    (hlisteners : e₁.listeners = e.listeners) : Apart own key e e₁ where
  sessions n s _ := by rw [session?, session?, hsessions]
  listeners := by
    rw [hlisteners]
    exact Listeners.Agree.refl _ _

/-- One thing after the other. -/
lemma Apart.trans {e e₁ e₂ : Engine σ} (h : Apart own key e e₁) (h' : Apart own key e₁ e₂) :
    Apart own key e e₂ where
  sessions n s hs := (h'.sessions n s hs).trans (h.sessions n s hs)
  listeners name hname := (h'.listeners name hname).trans (h.listeners name hname)

/-- What happens in the session of another identity. -/
lemma Framed.apart {registry : ModuleRegistry σ} (hregistry : registry.Isolated own)
    {other : SessionKey} (hother : other ≠ key) {n : Nat} {e e₁ : Engine σ}
    (h : Framed (own other) n e e₁) (hbefore : ∀ s, e.session? n = some s → s.key = other)
    (hafter : ∀ s, e₁.session? n = some s → s.key = other) : Apart own key e e₁ where
  sessions m s hs := by
    by_cases hm : m = n
    · subst hm
      exact ⟨fun h₁ => absurd ((hafter s h₁).symm.trans hs) hother,
        fun h₀ => absurd ((hbefore s h₀).symm.trans hs) hother⟩
    · rw [h.sessions m hm]
  listeners name hname := by
    refine h.listeners name ?_
    by_contra htrue
    exact hother (hregistry.disjoint other key name (by simpa using htrue) hname)

/-- The session that the roll has under a number. -/
lemma key_of_roll {e : Engine σ} {n : Nat} {k : SessionKey} (hroll : e.roll[n]? = some (k, true))
    {s : Session σ} (hs : e.session? n = some s) : s.key = k := by
  obtain ⟨s', hs', hkey, -⟩ := session_of_roll hroll
  obtain rfl : s' = s := Option.some.inj (hs'.symm.trans hs)
  exact hkey

/-- Dispatching a packet in a session of another identity. -/
lemma Tidy.apart_dispatch {registry : ModuleRegistry σ} (hregistry : registry.Isolated own)
    {e : Engine σ} (h : e.Tidy own) {other : SessionKey} (hother : other ≠ key) {n : Nat}
    (hroll : e.roll[n]? = some (other, true)) (op : String) (payload : ByteArray)
    (exchange : PacketMeta) : Apart own key e (e.dispatch n op payload exchange).1 := by
  refine (h.dispatch hroll op payload exchange).2.apart hregistry hother
    (fun s => key_of_roll hroll) fun s => key_of_roll ?_
  rw [roll_dispatch]
  exact hroll

/-- Shutting a session of another identity down. -/
lemma Tidy.apart_shutdown {registry : ModuleRegistry σ} (hregistry : registry.Isolated own)
    {e : Engine σ} (h : e.Tidy own) {other : SessionKey} (hother : other ≠ key) {n : Nat}
    (hroll : e.roll[n]? = some (other, true)) (processEnds : Bool) :
    Apart own key e (e.shutdown n processEnds) := by
  refine (h.shutdown hroll processEnds).2.apart hregistry hother
    (fun s => key_of_roll hroll) fun s => key_of_roll ?_
  rw [enduring_roll.toLasting.shutdown]
  exact hroll

/-- Starting a session of another identity. -/
lemma Tidy.apart_startSession {registry : ModuleRegistry σ} (hregistry : registry.Isolated own)
    {e : Engine σ} (h : e.Tidy own) {other : SessionKey} (hother : other ≠ key)
    (config : StateConfig) : Apart own key e (e.startSession other config registry).1 := by
  have hadded : Apart own key e (e.withSession other config) := by
    refine ⟨fun n s hs => ?_, Listeners.Agree.refl _ _⟩
    rw [session?_withSession]
    split
    · next hn =>
      have hnone : e.session? n = none := List.getElem?_eq_none (Nat.le_of_eq hn.symm)
      rw [hnone]
      constructor
      · rintro ⟨rfl⟩
        exact absurd hs hother
      · intro hsome
        contradiction
    · exact Iff.rfl
  have hroll := e.roll_startSession other config registry
  refine hadded.trans ((h.startSession hregistry other config).2.apart hregistry hother ?_ ?_)
  · intro s hs
    rw [session?_withSession, if_pos rfl] at hs
    rw [← Option.some.inj hs]
  · intro s hs
    refine key_of_roll ?_ hs
    rw [hroll, ← length_roll]
    exact List.getElem?_concat_length

end Engine

namespace Proxy

variable {p : Proxy σ γ}

/-! ### Tidy proxies -/

/-- Whether sessions are alive is not a matter of tidiness. -/
lemma tidy_dropUnused (h : p.engine.Tidy own) : p.dropUnused.engine.Tidy own := by
  intro n s hs
  rw [session?_dropUnused] at hs
  obtain ⟨s₀, hs₀, rfl⟩ := Option.map_eq_some_iff.1 hs
  obtain ⟨size, halike⟩ := h n s₀ hs₀
  exact ⟨size, halike.live _ _⟩

/-- The session of an identity is shut down for a new one. -/
lemma tidy_closed (hsound : Sound p) (h : p.engine.Tidy own) (other : SessionKey) :
    (p.closed other).Tidy own ∧ ∀ key, p.registry.Isolated own → other ≠ key →
      Engine.Apart own key p.engine (p.closed other) := by
  unfold closed
  cases hs : p.session? other with
  | none => exact ⟨h, fun _ _ _ => .congr rfl rfl⟩
  | some old =>
    have hroll := hsound.roll_of_session? hs
    exact ⟨(h.shutdown hroll false).1,
      fun key hregistry hother => h.apart_shutdown hregistry hother hroll false⟩

/-- The new session of an identity is started. -/
lemma tidy_opened (hregistry : p.registry.Isolated own) (hsound : Sound p) (h : p.engine.Tidy own)
    (other : SessionKey) : (p.opened other).Tidy own ∧ ∀ key, other ≠ key →
      Engine.Apart own key p.engine (p.opened other) := by
  obtain ⟨hclosed, hapart⟩ := tidy_closed hsound h other
  have hcounted : ((p.closed other).emit [.count .sessionsCreated 1]).Tidy own := hclosed
  refine ⟨(hcounted.startSession hregistry other p.config.state).1, fun key hother => ?_⟩
  refine (hapart key hregistry hother).trans ?_
  have hemit : Engine.Apart own key (p.closed other)
      ((p.closed other).emit [.count .sessionsCreated 1]) := .congr rfl rfl
  exact hemit.trans (hcounted.apart_startSession hregistry hother p.config.state)

/-- An identity logs in. -/
lemma tidy_addUser (hregistry : p.registry.Isolated own) (hsound : Sound p) (h : p.engine.Tidy own)
    (other : SessionKey) : (p.addUser other).1.engine.Tidy own := by
  rw [addUser_eq]
  exact tidy_dropUnused (tidy_opened hregistry hsound h other).1

/-- A request is processed. -/
lemma tidy_processRequest (hregistry : p.registry.Isolated own) (hsound : Sound p)
    (h : p.engine.Tidy own) (r : Request) : (p.processRequest r).1.engine.Tidy own := by
  rcases p.processRequest_cases r with
    ⟨other, -, heq⟩ | ⟨other, n, -, hsession, heq⟩ | ⟨isBlocked, -, signals, -, heq⟩
  · obtain ⟨hadded, hcurrent⟩ := hsound.addUser other
    rw [heq]
    exact ((tidy_addUser hregistry hsound h other).dispatch
      (hadded.roll_of_session? hcurrent) _ _ _).1
  · rw [heq]
    exact (h.dispatch (hsound.roll_of_session? hsession) _ _ _).1
  · rw [heq]
    exact h

/-- The response of an exchange in progress. -/
lemma handle_response_cases (p : Proxy σ γ) (name : String) (body : ByteArray) :
    p.handle (.response name body) = p ∨ ∃ x n, p.exchange? name = some x ∧ x.session = some n ∧
      p.handle (.response name body) =
        { p with engine := (p.engine.dispatch n x.responseOp body x.packetMeta).1 } := by
  cases hx : p.exchange? name with
  | none =>
    refine Or.inl ?_
    rw [handle, hx]
  | some x =>
    have hstep : p.handle (.response name body) = (p.handleResponse x body).1 := by
      rw [handle, hx]
    rw [hstep, handleResponse]
    by_cases hblocked : x.isBlocked = true
    · rw [if_pos hblocked]
      exact Or.inl rfl
    · rw [if_neg hblocked]
      cases hsession : x.session with
      | none => exact Or.inl rfl
      | some n => exact Or.inr ⟨x, n, rfl, hsession, rfl⟩

/-- Code that leaves all sessions alone runs when the proxy starts to serve. -/
lemma start_eq (hregistry : p.registry.Isolated own) :
    p.start.engine.sessions = p.engine.sessions ∧
      p.start.engine.listeners = p.engine.listeners := by
  have hcallback : ∀ (e : Engine σ) callback, callback.Detached →
      (runStart e callback).sessions = e.sessions ∧
        (runStart e callback).listeners = e.listeners := by
    intro e callback hdetached
    obtain ⟨signals, -, heq⟩ := runStart_eq e callback
    rw [heq]
    exact hdetached.run e
  have hcallbacks : ∀ (callbacks : List (Program σ)) (e : Engine σ),
      (∀ callback ∈ callbacks, callback.Detached) →
      (callbacks.foldl runStart e).sessions = e.sessions ∧
        (callbacks.foldl runStart e).listeners = e.listeners := by
    intro callbacks
    induction callbacks with
    | nil => exact fun e _ => ⟨rfl, rfl⟩
    | cons callback callbacks ih =>
      intro e hdetached
      obtain ⟨hsessions, hlisteners⟩ := hcallback e callback (hdetached _ List.mem_cons_self)
      obtain ⟨hsessions', hlisteners'⟩ :=
        ih (runStart e callback) fun c hc => hdetached c (List.mem_cons_of_mem callback hc)
      exact ⟨hsessions'.trans hsessions, hlisteners'.trans hlisteners⟩
  unfold start
  split
  · exact ⟨rfl, rfl⟩
  · exact hcallbacks p.registry.onStart p.engine hregistry.onStart

/-- The current sessions of other identities are shut down. -/
lemma tidy_foldl_shutdown {e : Engine σ} {entries : List (SessionKey × Nat)}
    (hentries : ∀ k n, (k, n) ∈ entries → e.roll[n]? = some (k, true)) (h : e.Tidy own) :
    (entries.foldl (fun e entry => e.shutdown entry.2 true) e).Tidy own := by
  induction entries generalizing e with
  | nil => exact h
  | cons entry entries ih =>
    have hroll := hentries entry.1 entry.2 List.mem_cons_self
    refine ih (fun k n hmem => ?_) (h.shutdown hroll true).1
    rw [Engine.enduring_roll.toLasting.shutdown]
    exact hentries k n (List.mem_cons_of_mem entry hmem)

/-- Whatever comes from outside leaves a proxy tidy. -/
theorem tidy_handle (hregistry : p.registry.Isolated own) (hsound : Sound p) (h : p.engine.Tidy own)
    (t : Traffic) : (p.handle t).engine.Tidy own := by
  cases t with
  | request name r =>
    have hprocessed := tidy_processRequest hregistry hsound h r
    exact tidy_dropUnused (p := { (p.processRequest r).1 with exchanges := _ }) hprocessed
  | response name body =>
    rcases p.handle_response_cases name body with heq | ⟨x, n, hx, hsession, heq⟩
    · rw [heq]
      exact h
    · obtain ⟨key, hroll⟩ := hsound.roll_of_exchange? hx hsession
      rw [heq]
      exact (h.dispatch hroll _ _ _).1
  | finish name => exact tidy_dropUnused (p := { p with exchanges := _ }) h
  | start =>
    intro n s hs
    refine h n s ?_
    rw [handle, Engine.session?, (start_eq hregistry).1] at hs
    exact hs
  | shutdown rank =>
    exact tidy_foldl_shutdown (fun k n hmem => hsound.roll_of_mem (mem_arranged.1 hmem)) h

end Proxy

end Intercept
