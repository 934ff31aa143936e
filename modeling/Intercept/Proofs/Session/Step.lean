import Intercept.Session.Dispatch
import Mathlib.Data.List.Basic
import Mathlib.Tactic.Common

/-!
# What the steps of a session do

A session runs module code in three places: an init function when it is started, a handler when a
packet passes its hook, and a callback when it is shut down. Each of them does something before,
runs the code, and does something after that depends on how the code has ended. The lemmas here say
once what that is (`initModule_cases`, `runHook_fst`, `shutdownModule_cases`), so that what holds of
sessions need not be read off the definitions again. The code itself acts on an engine in six ways;
what none of them changes is not changed by any code (`Untouched.run`), and if it is not changed
around the code either, it lasts (`Lasting`) or even endures the start of a session (`Enduring`).
-/

namespace Intercept

variable {σ : Type}

/-- The last element of a list is changed. -/
lemma modify_concat {α : Type} {l : List α} {n : Nat} (h : l.length = n) (x : α) (f : α → α) :
    (l ++ [x]).modify n f = l ++ [f x] := by
  subst h
  induction l with
  | nil => rfl
  | cons a l ih =>
    rw [List.length_cons, List.cons_append, List.modify_succ_cons, ih, List.cons_append]

/-- A change of one entry of a list, seen through a function under which it is another change. -/
lemma map_modify {α β : Type} {g : α → β} {f : α → α} {k : β → β} (h : ∀ x, g (f x) = k (g x))
    (l : List α) (i : Nat) : (l.modify i f).map g = (l.map g).modify i k := by
  refine List.ext_getElem? fun j => ?_
  rw [List.getElem?_map, List.getElem?_modify, List.getElem?_modify, List.getElem?_map]
  cases l[j]? with
  | none => rfl
  | some x =>
    by_cases hij : i = j
    · simp [hij, h]
    · simp [hij]

namespace Engine

/-- A session after some session was changed. -/
lemma session?_updateSession (e : Engine σ) (m n : Nat) (f : Session σ → Session σ) :
    (e.updateSession m f).session? n = if m = n then (e.session? n).map f else e.session? n := by
  rw [session?, session?, updateSession, List.getElem?_modify]
  cases e.sessions[n]? <;> by_cases h : m = n <;> simp [h]

/-- A context is there if its session is, and has it. -/
lemma context?_eq_some {e : Engine σ} {ctx : ContextId} {s : Session σ} {c : Context σ} :
    e.context? ctx = some (s, c) ↔
      e.session? ctx.session = some s ∧ s.contexts[ctx.index]? = some c := by
  unfold context?
  cases hs : e.session? ctx.session with
  | none => simp
  | some s' =>
    cases hc : s'.contexts[ctx.index]? with
    | none =>
      simp only [Option.bind_eq_bind, Option.bind_some, hc, Option.bind_none, Option.some.injEq]
      constructor
      · intro h
        contradiction
      · rintro ⟨rfl, h⟩
        rw [hc] at h
        contradiction
    | some c' =>
      simp only [Option.bind_eq_bind, Option.bind_some, hc, Option.some.injEq, Prod.mk.injEq]
      constructor
      · rintro ⟨rfl, rfl⟩
        exact ⟨rfl, hc⟩
      · rintro ⟨rfl, h⟩
        exact ⟨rfl, Option.some.inj (hc.symm.trans h)⟩

/-- Something of an engine that no step of module code changes. -/
structure Untouched {β : Type} (view : Engine σ → β) : Prop where
  remember : ∀ (e : Engine σ) (memory : σ), view { e with memory } = view e
  hook : ∀ (e : Engine σ) ctx target priority handler,
    view (e.hook ctx target priority handler).1 = view e
  unhook : ∀ (e : Engine σ) h, view (e.unhook h) = view e
  pathHook : ∀ (e : Engine σ) ctx path listener wantPayload,
    view (e.pathHook ctx path listener wantPayload).1 = view e
  unhookPath : ∀ (e : Engine σ) h, view (e.unhookPath h) = view e
  onShutdown : ∀ (e : Engine σ) ctx callback, view (e.onShutdown ctx callback) = view e

/-- What no step of module code changes is the same when the code has run. -/
theorem Untouched.run {β : Type} {view : Engine σ → β} (h : Untouched view) (e : Engine σ)
    (p : Program σ) : view (e.run p).1 = view e := by
  induction p generalizing e with
  | finish output => rfl
  | fail fault => rfl
  | «recall» next ih => exact ih e.memory e
  | remember change next ih => exact (ih _).trans (h.remember e (change e.memory))
  | inspect ctx next ih => exact ih (e.view ctx) e
  | hook ctx target priority handler next _ ih =>
    exact (ih _ _).trans (h.hook e ctx target priority handler)
  | unhook handle next ih => exact (ih _).trans (h.unhook e handle)
  | pathHook ctx path listener wantPayload next ih =>
    exact (ih _ _).trans (h.pathHook e ctx path listener wantPayload)
  | unhookPath handle next ih => exact (ih _).trans (h.unhookPath e handle)
  | onShutdown ctx callback next _ ih => exact (ih _).trans (h.onShutdown e ctx callback)

/-- When a packet passes a hook, its handler runs; a fault is reported, and nothing but the fault is
counted. -/
lemma runHook_fst (key : SessionKey) (op : String) (exchange : PacketMeta)
    (w : Engine σ × ByteArray) (h : Hook (Packet → Program σ)) :
    ∃ signals, (∀ c k, .count c k ∈ signals → c = .hookFaults) ∧
      (runHook key op exchange w h).1 =
        (w.1.run (h.handler { op, payload := w.2, exchange })).1.emit signals := by
  obtain ⟨e, payload⟩ := w
  unfold runHook
  simp only
  cases e.run (h.handler { op, payload, exchange }) with
  | mk e' outcome =>
    cases outcome with
    | finished output => exact ⟨[], by simp, by simp [emit]⟩
    | failed fault => exact ⟨_, by simp, rfl⟩

/-- Take the shutdown callback out of a context. -/
def takeShutdown (e : Engine σ) (n i : Nat) : Engine σ :=
  e.updateSession n fun s => s.updateContext i fun c => { c with shutdown := none }

/-- When a session is shut down, the callback of a context is taken out and runs; a fault is
reported. Nothing happens where there is no callback. -/
lemma shutdownModule_cases (n : Nat) (key : SessionKey) (processEnds : Bool) (e : Engine σ)
    (i : Nat) :
    ((e.context? ⟨n, i⟩).bind (·.2.shutdown) = none ∧
      shutdownModule n key processEnds e i = e) ∨
    ∃ callback, (e.context? ⟨n, i⟩).bind (·.2.shutdown) = some callback ∧
      ∃ signals, (∀ c k, .count c k ∉ signals) ∧ shutdownModule n key processEnds e i =
        ((e.takeShutdown n i).run (callback processEnds)).1.emit signals := by
  unfold shutdownModule
  cases e.context? ⟨n, i⟩ with
  | none => exact Or.inl ⟨rfl, rfl⟩
  | some sc =>
    obtain ⟨s, c⟩ := sc
    simp only [Option.bind_some]
    cases c.shutdown with
    | none => exact Or.inl ⟨rfl, rfl⟩
    | some callback =>
      have htake : (e.updateSession n fun s => s.updateContext i fun c =>
          { c with shutdown := none }) = e.takeShutdown n i := rfl
      refine Or.inr ⟨callback, rfl, ?_⟩
      simp only [htake]
      cases (e.takeShutdown n i).run (callback processEnds) with
      | mk e' outcome =>
        cases outcome with
        | finished output => exact ⟨[], by simp, by simp [emit]⟩
        | failed fault => exact ⟨_, by simp, rfl⟩

/-- A module is initialised in a context of its own, which is closed when the init function has
ended. If it has finished, the module takes part in the session; if it has failed, a fault is
reported and what was registered is taken back. -/
lemma initModule_cases (e : Engine σ) (n : Nat) (key : SessionKey) (module : ModuleDescriptor σ)
    {e₁ : Engine σ} {ctx : ContextId} (hadd : e.addContext n module.name = (e₁, ctx)) :
    (∃ e₂ output, e₁.run (module.init ctx) = (e₂, .finished output) ∧
      e.initModule n key module = (e₂.closeContext ctx).updateSession n fun s =>
        { s with modules := s.modules ++ [ctx.index] }) ∨
    ∃ e₂ fault, e₁.run (module.init ctx) = (e₂, .failed fault) ∧
      e.initModule n key module = ((e₂.closeContext ctx).note
        (.initFault module.name key.display fault.message)).rollBack ctx := by
  rw [initModule, hadd]
  simp only
  cases e₁.run (module.init ctx) with
  | mk e₂ outcome =>
    cases outcome with
    | finished output => exact Or.inl ⟨e₂, output, rfl, rfl⟩
    | failed fault => exact Or.inr ⟨e₂, fault, rfl, rfl⟩

/-! ### What lasts -/

/-- Something of an engine that is changed neither by handlers and callbacks nor by what is done
around them: it lasts from the start of a session to the next one. -/
structure Lasting {β : Type} (view : Engine σ → β) : Prop extends Untouched view where
  emit : ∀ (e : Engine σ) signals, (∀ k, .count .sessionsCreated k ∉ signals) →
    view (e.emit signals) = view e
  takeShutdown : ∀ (e : Engine σ) n i, view (e.takeShutdown n i) = view e

/-- Something of an engine that lasts, and is not changed around init functions either. -/
structure Enduring {β : Type} (view : Engine σ → β) : Prop extends Lasting view where
  addContext : ∀ (e : Engine σ) n module, view (e.addContext n module).1 = view e
  closeContext : ∀ (e : Engine σ) ctx, view (e.closeContext ctx) = view e
  rollBack : ∀ (e : Engine σ) ctx, view (e.rollBack ctx) = view e
  enlist : ∀ (e : Engine σ) n i,
    view (e.updateSession n fun s => { s with modules := s.modules ++ [i] }) = view e
  completeSession : ∀ (e : Engine σ) n, view (e.completeSession n) = view e

/-- What no step changes is the same after several of them. -/
lemma view_foldl {α β ω : Type} {view : Engine σ → β} (engine : ω → Engine σ) {step : ω → α → ω}
    (h : ∀ w x, view (engine (step w x)) = view (engine w)) (xs : List α) (w : ω) :
    view (engine (xs.foldl step w)) = view (engine w) := by
  induction xs generalizing w with
  | nil => rfl
  | cons x xs ih => exact (ih (step w x)).trans (h w x)

namespace Lasting

variable {β : Type} {view : Engine σ → β}

/-- What lasts is the same when a shutdown callback has run. -/
theorem shutdownModule (h : Lasting view) (n : Nat) (key : SessionKey) (processEnds : Bool)
    (e : Engine σ) (i : Nat) : view (shutdownModule n key processEnds e i) = view e := by
  rcases shutdownModule_cases n key processEnds e i with
    ⟨-, heq⟩ | ⟨callback, -, signals, hnone, heq⟩
  · rw [heq]
  · rw [heq, h.emit _ _ (hnone .sessionsCreated), h.run, h.takeShutdown]

/-- What lasts is the same when a session has been shut down. -/
theorem shutdown (h : Lasting view) (e : Engine σ) (n : Nat) (processEnds : Bool) :
    view (e.shutdown n processEnds) = view e := by
  unfold Engine.shutdown
  cases e.session? n with
  | none => rfl
  | some s => exact view_foldl id (h.shutdownModule n s.key processEnds) s.modules e

/-- What lasts is the same when a packet has passed a hook. -/
theorem runHook (h : Lasting view) (key : SessionKey) (op : String) (exchange : PacketMeta)
    (w : Engine σ × ByteArray) (hook : Hook (Packet → Program σ)) :
    view (runHook key op exchange w hook).1 = view w.1 := by
  obtain ⟨signals, hcounts, hrun⟩ := runHook_fst key op exchange w hook
  have hnone : ∀ k, .count .sessionsCreated k ∉ signals := by
    intro k hk
    exact absurd (hcounts .sessionsCreated k hk) (by decide)
  rw [hrun, h.emit _ _ hnone, h.run]

/-- What lasts is, when a packet has been dispatched, as the store has left it. -/
theorem dispatch (h : Lasting view) (e : Engine σ) (n : Nat) (op : String) (payload : ByteArray)
    (exchange : PacketMeta) :
    view (e.dispatch n op payload exchange).1 = view (e.ingest n op payload) := by
  rw [Engine.dispatch]
  cases (e.ingest n op payload).session? n with
  | none => rfl
  | some s => exact view_foldl Prod.fst (h.runHook s.key op exchange) _ _

end Lasting

namespace Enduring

variable {β : Type} {view : Engine σ → β}

/-- What endures is the same when a module has been initialised. -/
theorem initModule (h : Enduring view) (e : Engine σ) (n : Nat) (key : SessionKey)
    (module : ModuleDescriptor σ) : view (e.initModule n key module) = view e := by
  cases hadd : e.addContext n module.name with
  | mk e₁ ctx =>
    have hadded : view e₁ = view e := by
      have hcontext := h.addContext e n module.name
      rwa [hadd] at hcontext
    have hrun : view (e₁.run (module.init ctx)).1 = view e :=
      (h.run e₁ (module.init ctx)).trans hadded
    rcases initModule_cases e n key module hadd with
      ⟨e₂, output, hout, hinit⟩ | ⟨e₂, fault, hout, hinit⟩
    · rw [hout] at hrun
      rw [hinit, h.enlist, h.closeContext]
      exact hrun
    · rw [hout] at hrun
      rw [hinit, h.rollBack, note, h.emit _ _ (by simp), h.closeContext]
      exact hrun

/-- What endures is the same when a session has been started, but for the new session. -/
theorem startSession (h : Enduring view) (e : Engine σ) (key : SessionKey) (config : StateConfig)
    (registry : ModuleRegistry σ) : view (e.startSession key config registry).1 =
      view { e with sessions := e.sessions ++ [{ key, store := { config } }] } := by
  rw [Engine.startSession]
  refine (h.completeSession _ _).trans ?_
  exact view_foldl id (fun e' module => h.initModule e' e.sessions.length key module) _ _

end Enduring

end Engine

end Intercept
