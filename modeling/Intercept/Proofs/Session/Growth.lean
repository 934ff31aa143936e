import Intercept.Proofs.Session.Roster
import Intercept.Proofs.Store.Run

/-!
# What only grows

A session numbers its contexts, its packet hooks and its path hooks, and no number is given twice.
Whatever happens to an engine, its counters do not go back, and a registration that was refused for
want of room in the queue remains on record (`Engine.Grows`).
-/

namespace Intercept

variable {σ : Type}

/-- The next numbers that a session gives to a context, a packet hook and a path hook. -/
structure Counters where
  contexts : Nat := 0
  hooks : Nat := 0
  paths : Nat := 0

/-- The next numbers that a session gives. -/
def Session.counters (s : Session σ) : Counters := ⟨s.contexts.length, s.nextHook, s.store.nextId⟩

/-- Whether a registration was refused because too many were waiting. -/
def Signal.isRefusal : Signal → Bool
  | notice (.pathHookRefused _ _) => true
  | _ => false

/-- Removing path hooks gives no number. -/
lemma Store.nextId_foldl_unhook (ids : List Nat) (s : Store) :
    (ids.foldl (fun st id => st.unhook id) s).nextId = s.nextId := by
  induction ids generalizing s with
  | nil => rfl
  | cons id ids ih => exact ih (s.unhook id)

namespace Engine

/-- The next numbers that session `n` gives. -/
def counters (e : Engine σ) (n : Nat) : Counters := ((e.session? n).map Session.counters).getD {}

/-- How many registrations were refused because too many were waiting. -/
def refusals (e : Engine σ) : Nat := e.signals.countP (·.isRefusal)

/-- Of two engines the second one comes after the first: its session `n` has given the same numbers
and perhaps more, and as many registrations were refused or more. -/
structure Grows (n : Nat) (e e' : Engine σ) : Prop where
  contexts : (e.counters n).contexts ≤ (e'.counters n).contexts
  hooks : (e.counters n).hooks ≤ (e'.counters n).hooks
  paths : (e.counters n).paths ≤ (e'.counters n).paths
  refusals : e.refusals ≤ e'.refusals

/-- The numbers of a session that is there. -/
lemma counters_of_session? {e : Engine σ} {n : Nat} {s : Session σ} (hs : e.session? n = some s) :
    e.counters n = s.counters := by
  rw [counters, hs]
  rfl

/-- Signals add to the refusals. -/
lemma refusals_emit (e : Engine σ) (signals : List Signal) :
    (e.emit signals).refusals = e.refusals + signals.countP (·.isRefusal) := List.countP_append

/-- A path hook waits in the store if there is room, and its number is entered in the context;
otherwise the registration is refused. -/
lemma pathHook_cases {e : Engine σ} {ctx : ContextId} {s : Session σ} {c : Context σ}
    (hctx : e.context? ctx = some (s, c)) (path listener : String) (wantPayload : Bool) :
    (s.store.queue.length < s.store.queueRoom ∧
      let hook : PathHook :=
        { id := s.store.nextId, path, module := c.module, listener, wantPayload }
      e.pathHook ctx path listener wantPayload =
        (e.updateSession ctx.session fun s' =>
          { s'.updateContext ctx.index fun c =>
              { c with pathHooks := c.pathHooks ++ [hook.id] } with
            store := { s.store with
              queue := s.store.queue ++ [{ hook }]
              nextId := s.store.nextId + 1 } },
          some ⟨ctx.session, hook.id, path, c.module⟩)) ∨
    (s.store.queueRoom ≤ s.store.queue.length ∧
      e.pathHook ctx path listener wantPayload =
        (e.emit [.notice (.pathHookRefused path c.module)], none)) := by
  obtain ⟨hs, -⟩ := context?_eq_some.1 hctx
  unfold Engine.pathHook
  rw [hctx]
  rcases s.store.hook_cases path c.module listener wantPayload with ⟨hroom, heq⟩ | ⟨hroom, heq⟩
  · refine Or.inl ⟨hroom, ?_⟩
    simp only [heq, emit, List.append_nil]
    unfold updateSession
    simp only [List.modify_modify_eq]
    rfl
  · refine Or.inr ⟨hroom, ?_⟩
    have hsame : e.sessions.modify ctx.session (fun s' => { s' with store := s.store }) =
        e.sessions := by
      refine List.ext_getElem? fun m => ?_
      rw [List.getElem?_modify]
      split
      · next hm =>
        subst hm
        rw [show e.sessions[ctx.session]? = some s from hs]
        rfl
      · exact id_map _
    simp only [heq]
    unfold updateSession emit
    rw [hsame]

namespace Grows

variable {n : Nat} {e e' e'' : Engine σ}

lemma refl (n : Nat) (e : Engine σ) : Grows n e e :=
  ⟨Nat.le_refl _, Nat.le_refl _, Nat.le_refl _, Nat.le_refl _⟩

/-- What comes after something that comes after something else. -/
lemma trans (h : Grows n e e') (h' : Grows n e' e'') : Grows n e e'' where
  contexts := Nat.le_trans h.contexts h'.contexts
  hooks := Nat.le_trans h.hooks h'.hooks
  paths := Nat.le_trans h.paths h'.paths
  refusals := Nat.le_trans h.refusals h'.refusals

/-- Engines in which nothing of this has changed. -/
lemma of_eq (hcounters : e'.counters n = e.counters n) (hsignals : e'.signals = e.signals) :
    Grows n e e' := by
  refine ⟨?_, ?_, ?_, ?_⟩
  · rw [hcounters]
  · rw [hcounters]
  · rw [hcounters]
  · rw [Engine.refusals, Engine.refusals, hsignals]

/-- Whatever is emitted. -/
lemma emit (n : Nat) (e : Engine σ) (signals : List Signal) : Grows n e (e.emit signals) := by
  refine ⟨Nat.le_refl _, Nat.le_refl _, Nat.le_refl _, ?_⟩
  rw [refusals_emit]
  exact Nat.le_add_right _ _

/-- A change of a session that does not set its counters back. -/
lemma updateSession (n : Nat) (e : Engine σ) (m : Nat) {f : Session σ → Session σ}
    (hcontexts : ∀ s, s.contexts.length ≤ (f s).contexts.length)
    (hhooks : ∀ s, e.session? m = some s → s.nextHook ≤ (f s).nextHook)
    (hpaths : ∀ s, e.session? m = some s → s.store.nextId ≤ (f s).store.nextId) :
    Grows n e (e.updateSession m f) := by
  by_cases hm : m = n
  · subst hm
    cases hs : e.session? m with
    | none =>
      refine of_eq ?_ rfl
      rw [Engine.counters, session?_updateSession, if_pos rfl, Engine.counters, hs]
      rfl
    | some s =>
      have hs' : (e.updateSession m f).session? m = some (f s) := by
        rw [session?_updateSession, if_pos rfl, hs, Option.map_some]
      refine ⟨?_, ?_, ?_, Nat.le_refl _⟩
      · rw [counters_of_session? hs, counters_of_session? hs']
        exact hcontexts s
      · rw [counters_of_session? hs, counters_of_session? hs']
        exact hhooks s hs
      · rw [counters_of_session? hs, counters_of_session? hs']
        exact hpaths s hs
  · refine of_eq ?_ rfl
    rw [Engine.counters, session?_updateSession, if_neg hm, Engine.counters]

/-- A change of one context. -/
lemma updateContext (n : Nat) (e : Engine σ) (ctx : ContextId) (f : Context σ → Context σ) :
    Grows n e (e.updateSession ctx.session fun s => s.updateContext ctx.index f) :=
  updateSession n e _ (fun _ => Nat.le_of_eq (List.length_modify _ _ _).symm)
    (fun _ _ => Nat.le_refl _) fun _ _ => Nat.le_refl _

/-! ### Module code -/

/-- Registering a hook. -/
lemma hook (n : Nat) (e : Engine σ) (ctx : ContextId) (target : String) (priority : Int32)
    (handler : Packet → Program σ) : Grows n e (e.hook ctx target priority handler).1 := by
  rcases e.hook_cases ctx target priority handler with ⟨s, c, hctx, -, -, heq⟩ | ⟨-, signals, heq⟩
  · rw [heq]
    refine updateSession n e _ (fun _ => Nat.le_of_eq (List.length_modify _ _ _).symm)
      (fun t ht => ?_) fun _ _ => Nat.le_refl _
    obtain ⟨hs, -⟩ := context?_eq_some.1 hctx
    obtain rfl : s = t := Option.some.inj (hs.symm.trans ht)
    exact Nat.le_succ _
  · rw [heq]
    exact emit n e signals

/-- Removing a hook. -/
lemma unhook (n : Nat) (e : Engine σ) (h : HookHandle) : Grows n e (e.unhook h) := by
  rcases e.unhook_cases h with ⟨s, -, -, heq⟩ | ⟨-, signals, heq⟩
  · rw [heq]
    exact updateSession n e _ (fun _ => Nat.le_refl _) (fun _ _ => Nat.le_refl _)
      fun _ _ => Nat.le_refl _
  · rw [heq]
    exact emit n e signals

/-- Registering a path hook. -/
lemma pathHook (n : Nat) (e : Engine σ) (ctx : ContextId) (path listener : String)
    (wantPayload : Bool) : Grows n e (e.pathHook ctx path listener wantPayload).1 := by
  cases hctx : e.context? ctx with
  | none =>
    rw [Engine.pathHook, hctx]
    exact refl n e
  | some sc =>
    obtain ⟨s, c⟩ := sc
    obtain ⟨hs, -⟩ := context?_eq_some.1 hctx
    rcases pathHook_cases hctx path listener wantPayload with ⟨-, heq⟩ | ⟨-, heq⟩
    · rw [heq]
      refine updateSession n e _ (fun _ => Nat.le_of_eq (List.length_modify _ _ _).symm)
        (fun _ _ => Nat.le_refl _) fun t ht => ?_
      obtain rfl : s = t := Option.some.inj (hs.symm.trans ht)
      exact Nat.le_succ _
    · rw [heq]
      exact emit n e _

/-- Removing a path hook. -/
lemma unhookPath (n : Nat) (e : Engine σ) (h : PathHookHandle) : Grows n e (e.unhookPath h) :=
  updateSession n e _ (fun _ => Nat.le_refl _) (fun _ _ => Nat.le_refl _) fun _ _ => Nat.le_refl _

/-- Setting a shutdown callback. -/
lemma onShutdown (n : Nat) (e : Engine σ) (ctx : ContextId) (callback : Bool → Program σ) :
    Grows n e (e.onShutdown ctx callback) := by
  unfold Engine.onShutdown
  cases e.context? ctx with
  | none => exact refl n e
  | some sc =>
    have hset := updateContext n e ctx fun c => { c with shutdown := some callback }
    simp only
    split
    · exact hset.trans (emit n _ _)
    · exact hset

/-- A piece of module code. -/
theorem run (n : Nat) (e : Engine σ) (p : Program σ) : Grows n e (e.run p).1 := by
  induction p generalizing e with
  | finish output => exact refl n e
  | fail fault => exact refl n e
  | «recall» next ih => exact ih e.memory e
  | remember change next ih =>
    have hset : Grows n e { e with memory := change e.memory } := of_eq rfl rfl
    exact hset.trans (ih _)
  | inspect ctx next ih => exact ih (e.view ctx) e
  | hook ctx target priority handler next _ ih =>
    exact (hook n e ctx target priority handler).trans (ih _ _)
  | unhook handle next ih => exact (unhook n e handle).trans (ih _)
  | pathHook ctx path listener wantPayload next ih =>
    exact (pathHook n e ctx path listener wantPayload).trans (ih _ _)
  | unhookPath handle next ih => exact (unhookPath n e handle).trans (ih _)
  | onShutdown ctx callback next _ ih => exact (onShutdown n e ctx callback).trans (ih _)

/-! ### Packets, the start and the end of a session -/

/-- One thing after the other. -/
lemma foldl {α ω : Type} (engine : ω → Engine σ) {step : ω → α → ω}
    (h : ∀ w x, Grows n (engine w) (engine (step w x))) (xs : List α) (w : ω) :
    Grows n (engine w) (engine (xs.foldl step w)) := by
  induction xs generalizing w with
  | nil => exact refl n _
  | cons x xs ih => exact (h w x).trans (ih (step w x))

/-- A packet passes a hook. -/
lemma runHook (n : Nat) (key : SessionKey) (op : String) (exchange : PacketMeta)
    (w : Engine σ × ByteArray) (h : Hook (Packet → Program σ)) :
    Grows n w.1 (Engine.runHook key op exchange w h).1 := by
  obtain ⟨signals, -, heq⟩ := runHook_fst key op exchange w h
  rw [heq]
  exact (run n _ _).trans (emit n _ _)

/-- Taking in a packet. -/
lemma ingest (n : Nat) (e : Engine σ) (m : Nat) (op : String) (payload : ByteArray) :
    Grows n e (e.ingest m op payload) := by
  unfold Engine.ingest
  cases hs : e.session? m with
  | none => exact refl n e
  | some s =>
    have hnext := s.store.nextId_ingest e.listeners op payload
    simp only
    generalize s.store.ingest e.listeners op payload = answer at hnext ⊢
    obtain ⟨store, listeners, signals⟩ := answer
    have hlisteners : Grows n e { e with listeners } := of_eq rfl rfl
    have hstored : Grows n { e with listeners }
        (({ e with listeners } : Engine σ).updateSession m fun s => { s with store }) := by
      refine updateSession n _ m (fun _ => Nat.le_refl _) (fun _ _ => Nat.le_refl _) fun t ht => ?_
      obtain rfl : s = t := Option.some.inj (hs.symm.trans ht)
      exact Nat.le_of_eq hnext.symm
    exact (hlisteners.trans hstored).trans (emit n _ signals)

/-- A packet passes through its hooks. -/
theorem dispatch (n : Nat) (e : Engine σ) (m : Nat) (op : String) (payload : ByteArray)
    (exchange : PacketMeta) : Grows n e (e.dispatch m op payload exchange).1 := by
  refine (ingest n e m op payload).trans ?_
  unfold Engine.dispatch
  simp only
  cases (e.ingest m op payload).session? m with
  | none => exact refl n _
  | some s =>
    exact foldl Prod.fst (fun w h => runHook n s.key op exchange w h) (s.table.chainFor op)
      (e.ingest m op payload, payload)

/-- A module is given a context. -/
lemma addContext (n : Nat) (e : Engine σ) (m : Nat) (module : String) :
    Grows n e (e.addContext m module).1 :=
  updateSession n e m (fun _ => List.length_append ▸ Nat.le_add_right _ _)
    (fun _ _ => Nat.le_refl _) fun _ _ => Nat.le_refl _

/-- A context is closed. -/
lemma closeContext (n : Nat) (e : Engine σ) (ctx : ContextId) : Grows n e (e.closeContext ctx) :=
  updateContext n e ctx _

/-- What was registered through a context is taken back. -/
lemma rollBack (n : Nat) (e : Engine σ) (ctx : ContextId) : Grows n e (e.rollBack ctx) := by
  unfold Engine.rollBack
  split
  · exact refl n e
  · refine updateSession n _ _ (fun _ => Nat.le_of_eq (List.length_modify _ _ _).symm)
      (fun _ _ => Nat.le_refl _) fun s _ => ?_
    exact Nat.le_of_eq (Store.nextId_foldl_unhook _ s.store).symm

/-- A module is initialised. -/
theorem initModule (n : Nat) (e : Engine σ) (m : Nat) (key : SessionKey)
    (module : ModuleDescriptor σ) : Grows n e (e.initModule m key module) := by
  cases hadd : e.addContext m module.name with
  | mk e₁ ctx =>
    have hran : Grows n e (e₁.run (module.init ctx)).1 := by
      have hadded := addContext n e m module.name
      rw [hadd] at hadded
      exact hadded.trans (run n e₁ (module.init ctx))
    rcases initModule_cases e m key module hadd with
      ⟨e₂, output, hrun, hinit⟩ | ⟨e₂, fault, hrun, hinit⟩
    · rw [hrun] at hran
      rw [hinit]
      exact (hran.trans (closeContext n e₂ ctx)).trans (updateSession n _ m
        (fun _ => Nat.le_refl _) (fun _ _ => Nat.le_refl _) fun _ _ => Nat.le_refl _)
    · rw [hrun] at hran
      rw [hinit]
      exact ((hran.trans (closeContext n e₂ ctx)).trans (emit n _ _)).trans (rollBack n _ ctx)

/-- Taking out a shutdown callback. -/
lemma takeShutdown (n : Nat) (e : Engine σ) (m i : Nat) : Grows n e (e.takeShutdown m i) :=
  updateContext n e ⟨m, i⟩ _

/-- The turn of a context in a shutdown. -/
lemma shutdownModule (n m : Nat) (key : SessionKey) (processEnds : Bool) (e : Engine σ) (i : Nat) :
    Grows n e (Engine.shutdownModule m key processEnds e i) := by
  rcases shutdownModule_cases m key processEnds e i with ⟨-, heq⟩ | ⟨callback, -, signals, -, heq⟩
  · rw [heq]
    exact refl n e
  · rw [heq]
    exact ((takeShutdown n e m i).trans (run n _ _)).trans (emit n _ _)

/-- The end of a session. -/
theorem shutdown (n : Nat) (e : Engine σ) (m : Nat) (processEnds : Bool) :
    Grows n e (e.shutdown m processEnds) := by
  unfold Engine.shutdown
  cases e.session? m with
  | none => exact refl n e
  | some s => exact foldl id (shutdownModule n m s.key processEnds) s.modules e

end Grows

end Engine

end Intercept
