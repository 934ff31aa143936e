import Intercept.Proofs.Session.HookOrder
import Intercept.Proofs.Session.Roster

/-!
# One step of module code

Where several threads use an engine, module code does not run in one piece: between any two of its
steps another thread may do something. `Engine.advance` makes one step and says what is left of the
code; from step to step it comes to the end that `Engine.run` comes to (`run_of_advance`).

What other threads can do to a session is little. Whoever runs code, takes in packets or ends the
life of sessions leaves it steady: its modules and contexts stay what they are, and once all its
contexts are sealed no hook comes in any more, so that hooks that are in order remain so
(`Session.Ready.steady`).
-/

namespace Intercept

variable {σ : Type}

/-- How code has ended, if nothing is left of it. -/
def Program.outcome? : Program σ → Option Outcome
  | .finish output => some (.finished output)
  | .fail fault => some (.failed fault)
  | _ => none

namespace Engine

/-- Make one step of module code. Answers what is left of it. -/
def advance (e : Engine σ) : Program σ → Engine σ × Program σ
  | .finish output => (e, .finish output)
  | .fail fault => (e, .fail fault)
  | .recall next => (e, next e.memory)
  | .remember change next => ({ e with memory := change e.memory }, next)
  | .inspect ctx next => (e, next (e.view ctx))
  | .hook ctx target priority handler next =>
    let (e, h) := e.hook ctx target priority handler
    (e, next h)
  | .unhook h next => (e.unhook h, next)
  | .pathHook ctx path listener wantPayload next =>
    let (e, h) := e.pathHook ctx path listener wantPayload
    (e, next h)
  | .unhookPath h next => (e.unhookPath h, next)
  | .onShutdown ctx callback next => (e.onShutdown ctx callback, next)

/-- What holds of code that has ended, and of code that has a step left if it holds after the step,
holds of all code. -/
theorem advance_induction {motive : Engine σ → Program σ → Prop}
    (ended : ∀ e p, p.outcome?.isSome = true → motive e p)
    (step : ∀ e p, p.outcome? = none → motive (e.advance p).1 (e.advance p).2 → motive e p)
    (e : Engine σ) (p : Program σ) : motive e p := by
  induction p generalizing e with
  | finish output => exact ended e _ rfl
  | fail fault => exact ended e _ rfl
  | «recall» next ih => exact step e _ rfl (ih e.memory e)
  | remember change next ih => exact step e _ rfl (ih _)
  | inspect ctx next ih => exact step e _ rfl (ih (e.view ctx) e)
  | hook ctx target priority handler next _ ih => exact step e _ rfl (ih _ _)
  | unhook handle next ih => exact step e _ rfl (ih _)
  | pathHook ctx path listener wantPayload next ih => exact step e _ rfl (ih _ _)
  | unhookPath handle next ih => exact step e _ rfl (ih _)
  | onShutdown ctx callback next _ ih => exact step e _ rfl (ih _)

/-- Code runs to the end that it comes to after a step. -/
lemma run_advance (e : Engine σ) (p : Program σ) :
    (e.advance p).1.run (e.advance p).2 = e.run p := by
  cases p <;> rfl

/-- Code that has ended is run without doing anything. -/
lemma run_of_isSome (e : Engine σ) {p : Program σ} (h : p.outcome?.isSome = true) :
    (e.run p).1 = e ∧ p.outcome? = some (e.run p).2 := by
  cases p <;> first | exact ⟨rfl, rfl⟩ | contradiction

/-- Code that makes one step after the other comes to its end, with the engine as it is when the code
has run. -/
theorem run_of_advance {Q : Engine σ → Program σ → Prop}
    (hstep : ∀ e p, p.outcome? = none → Q e p → Q (e.advance p).1 (e.advance p).2) {e : Engine σ}
    {p : Program σ} (h : Q e p) :
    ∃ rest, rest.outcome? = some (e.run p).2 ∧ Q (e.run p).1 rest := by
  induction e, p using advance_induction with
  | ended e p hend =>
    obtain ⟨hengine, houtcome⟩ := run_of_isSome e hend
    rw [hengine]
    exact ⟨p, houtcome, h⟩
  | step e p hnone ih =>
    rw [← run_advance]
    exact ih (hstep e p hnone h)

end Engine

/-! ### Steady sessions -/

namespace Session

/-- The modules that have a context in a session, each with whether its init function has returned.
-/
def seals (s : Session σ) : List (String × Bool) :=
  s.contexts.map fun c => (c.module, c.isInitialized)

/-- The seals of a session when one context was changed. -/
lemma seals_updateContext (s : Session σ) (i : Nat) {f : Context σ → Context σ}
    {g : String × Bool → String × Bool}
    (h : ∀ c, ((f c).module, (f c).isInitialized) = g (c.module, c.isInitialized)) :
    (s.updateContext i f).seals = s.seals.modify i g :=
  map_modify (f := f) (k := g) h s.contexts i

/-- The seals of a session when one context was changed in a way that they do not show. -/
lemma seals_updateContext_self (s : Session σ) (i : Nat) {f : Context σ → Context σ}
    (h : ∀ c, ((f c).module, (f c).isInitialized) = (c.module, c.isInitialized)) :
    (s.updateContext i f).seals = s.seals := by
  rw [s.seals_updateContext i (g := id) h, List.modify_id]

/-- Whether the init functions of all modules that have a context have returned. -/
def Sealed (s : Session σ) : Prop := ∀ x ∈ s.seals, x.2 = true

/-- A session is what it was, but for the memory of its store, its hooks and its callbacks; and no
hooks have come in if it was sealed. -/
structure Steady (s s' : Session σ) : Prop where
  key : s'.key = s.key
  modules : s'.modules = s.modules
  isInitialized : s'.isInitialized = s.isInitialized
  seals : s'.seals = s.seals
  hooks : s.Sealed → s'.table.hooks.Sublist s.table.hooks

namespace Steady

variable {s s' s'' : Session σ}

lemma refl (s : Session σ) : s.Steady s := ⟨rfl, rfl, rfl, rfl, fun _ => List.Sublist.refl _⟩

/-- A session that is sealed stays sealed. -/
lemma sealed (h : s.Steady s') (hsealed : s.Sealed) : s'.Sealed := by
  rwa [Sealed, h.seals]

/-- What is steady for some time and then for some more. -/
lemma trans (h : s.Steady s') (h' : s'.Steady s'') : s.Steady s'' where
  key := h'.key.trans h.key
  modules := h'.modules.trans h.modules
  isInitialized := h'.isInitialized.trans h.isInitialized
  seals := h'.seals.trans h.seals
  hooks hsealed := (h'.hooks (h.sealed hsealed)).trans (h.hooks hsealed)

/-- A change of a context that leaves its module and its seal alone. -/
lemma updateContext (s : Session σ) (i : Nat) {f : Context σ → Context σ}
    (h : ∀ c, ((f c).module, (f c).isInitialized) = (c.module, c.isInitialized)) :
    s.Steady (s.updateContext i f) :=
  ⟨rfl, rfl, rfl, s.seals_updateContext_self i h, fun _ => List.Sublist.refl _⟩

end Steady

/-- A session that may be handed out: every module of the registry has been initialised in it, in
order, and the hooks are in order, too. -/
structure Ready (modules : List (ModuleDescriptor σ)) (s : Session σ) : Prop where
  isInitialized : s.isInitialized = true
  seals : s.seals = modules.map fun m => (m.name, true)
  descending : s.table.hooks.Pairwise fun a b => b.priority ≤ a.priority

/-- Once a session may be handed out, it may be so as long as it is steady. -/
theorem Ready.steady {modules : List (ModuleDescriptor σ)} {s s' : Session σ}
    (h : s.Ready modules) (hsteady : s.Steady s') : s'.Ready modules where
  isInitialized := hsteady.isInitialized.trans h.isInitialized
  seals := hsteady.seals.trans h.seals
  descending := by
    have hsealed : s.Sealed := by
      rw [Sealed, h.seals, List.forall_mem_map]
      exact fun _ _ => rfl
    exact h.descending.sublist (hsteady.hooks hsealed)

end Session

namespace Engine

/-- Session `n` has been steady, or there has been none of this number. -/
def SteadyAt (n : Nat) (e e' : Engine σ) : Prop :=
  (e.session? n = none ∧ e'.session? n = none) ∨
    ∃ s s', e.session? n = some s ∧ e'.session? n = some s' ∧ s.Steady s'

/-- All sessions have been steady. -/
def Steady (e e' : Engine σ) : Prop := ∀ n, SteadyAt n e e'

namespace SteadyAt

variable {n : Nat} {e e' e'' : Engine σ}

/-- A session that nothing has happened to. -/
lemma of_eq (h : e'.session? n = e.session? n) : SteadyAt n e e' := by
  cases hs : e.session? n with
  | none => exact Or.inl ⟨hs, h.trans hs⟩
  | some s => exact Or.inr ⟨s, s, hs, h.trans hs, .refl s⟩

/-- What is steady for some time and then for some more. -/
lemma trans (h : SteadyAt n e e') (h' : SteadyAt n e' e'') : SteadyAt n e e'' := by
  rcases h with ⟨hnone, hnone'⟩ | ⟨s, s', hs, hs', hsteady⟩
  · rcases h' with ⟨-, hnone''⟩ | ⟨t, -, ht, -, -⟩
    · exact Or.inl ⟨hnone, hnone''⟩
    · rw [hnone'] at ht
      contradiction
  · rcases h' with ⟨hnone, -⟩ | ⟨t, s'', ht, hs'', hsteady'⟩
    · rw [hs'] at hnone
      contradiction
    · obtain rfl : s' = t := Option.some.inj (hs'.symm.trans ht)
      exact Or.inr ⟨s, s'', hs, hs'', hsteady.trans hsteady'⟩

/-- A session after it has been steady. -/
lemma session? (h : SteadyAt n e e') {s : Session σ} (hs : e.session? n = some s) :
    ∃ s', e'.session? n = some s' ∧ s.Steady s' := by
  rcases h with ⟨hnone, -⟩ | ⟨t, s', ht, hs', hsteady⟩
  · rw [hs] at hnone
    contradiction
  · obtain rfl : s = t := Option.some.inj (hs.symm.trans ht)
    exact ⟨s', hs', hsteady⟩

/-- A session that has been steady was there before. -/
lemma session?_of (h : SteadyAt n e e') {s' : Session σ} (hs' : e'.session? n = some s') :
    ∃ s, e.session? n = some s ∧ s.Steady s' := by
  rcases h with ⟨-, hnone⟩ | ⟨s, t, hs, ht, hsteady⟩
  · rw [hs'] at hnone
    contradiction
  · obtain rfl : s' = t := Option.some.inj (hs'.symm.trans ht)
    exact ⟨s, hs, hsteady⟩

/-- A change of a session is not seen in others. -/
lemma updateSession_of_ne (e : Engine σ) {m : Nat} (hne : m ≠ n) (f : Session σ → Session σ) :
    SteadyAt n e (e.updateSession m f) :=
  of_eq ((session?_updateSession e m n f).trans (if_neg hne))

end SteadyAt

namespace Steady

variable {e e' e'' : Engine σ}

/-- Sessions that nothing has happened to. -/
lemma of_sessions (h : e'.sessions = e.sessions) : e.Steady e' :=
  fun n => .of_eq (congrArg (·[n]?) h)

/-- What is steady for some time and then for some more. -/
lemma trans (h : e.Steady e') (h' : e'.Steady e'') : e.Steady e'' := fun n => (h n).trans (h' n)

/-- A change that leaves a session steady. -/
lemma updateSession (e : Engine σ) (m : Nat) {f : Session σ → Session σ}
    (h : ∀ s, e.session? m = some s → s.Steady (f s)) : e.Steady (e.updateSession m f) := by
  intro n
  by_cases hn : m = n
  · subst hn
    cases hs : e.session? m with
    | none => exact .of_eq (by rw [session?_updateSession, if_pos rfl, hs]; rfl)
    | some s =>
      refine Or.inr ⟨s, f s, hs, ?_, h s hs⟩
      rw [session?_updateSession, if_pos rfl, hs, Option.map_some]
  · exact .updateSession_of_ne e hn f

/-- Registering a hook leaves sessions steady: it is refused by a sealed one. -/
lemma hook (e : Engine σ) (ctx : ContextId) (target : String) (priority : Int32)
    (handler : Packet → Program σ) : e.Steady (e.hook ctx target priority handler).1 := by
  rcases e.hook_cases ctx target priority handler with
    ⟨s, c, hctx, hinit, -, heq⟩ | ⟨-, signals, heq⟩
  · rw [heq]
    refine updateSession e ctx.session fun t ht => ?_
    obtain ⟨hs, hc⟩ := context?_eq_some.1 hctx
    obtain rfl : s = t := Option.some.inj (hs.symm.trans ht)
    have hseals := s.seals_updateContext_self ctx.index
      (f := fun c => { c with hooks := c.hooks ++ [s.nextHook] }) fun _ => rfl
    refine ⟨rfl, rfl, rfl, hseals, fun hsealed => ?_⟩
    have hseal : c.isInitialized = true :=
      hsealed _ (List.mem_map_of_mem (List.mem_of_getElem? hc))
    rw [hseal] at hinit
    contradiction
  · rw [heq]
    exact of_sessions rfl

/-- Removing a hook leaves sessions steady. -/
lemma unhook (e : Engine σ) (h : HookHandle) : e.Steady (e.unhook h) := by
  rcases e.unhook_cases h with ⟨s, -, -, heq⟩ | ⟨-, signals, heq⟩
  · rw [heq]
    exact updateSession e _ fun s _ => ⟨rfl, rfl, rfl, rfl, fun _ => List.filter_sublist⟩
  · rw [heq]
    exact of_sessions rfl

/-- Another store leaves a session steady. -/
lemma withStore (e : Engine σ) (n : Nat) (store : Store) :
    e.Steady (e.updateSession n fun s => { s with store }) :=
  updateSession e n fun _ _ => ⟨rfl, rfl, rfl, rfl, fun _ => List.Sublist.refl _⟩

/-- Registering a path hook leaves sessions steady. -/
lemma pathHook (e : Engine σ) (ctx : ContextId) (path listener : String) (wantPayload : Bool) :
    e.Steady (e.pathHook ctx path listener wantPayload).1 := by
  unfold Engine.pathHook
  cases e.context? ctx with
  | none => exact of_sessions rfl
  | some sc =>
    obtain ⟨s, c⟩ := sc
    simp only
    have hstore (store : Store) (signals : List Signal) :
        e.Steady ((e.updateSession ctx.session fun s => { s with store }).emit signals) :=
      (withStore e ctx.session store).trans (of_sessions rfl)
    split
    · exact hstore _ _
    · exact (hstore _ _).trans (updateSession _ _ fun s _ =>
        .updateContext s ctx.index fun _ => rfl)

/-- Setting a shutdown callback leaves sessions steady. -/
lemma onShutdown (e : Engine σ) (ctx : ContextId) (callback : Bool → Program σ) :
    e.Steady (e.onShutdown ctx callback) := by
  unfold Engine.onShutdown
  cases e.context? ctx with
  | none => exact of_sessions rfl
  | some sc =>
    have hset : e.Steady (e.updateSession ctx.session fun s =>
        s.updateContext ctx.index fun c => { c with shutdown := some callback }) :=
      updateSession e _ fun s _ => .updateContext s ctx.index fun _ => rfl
    simp only
    split
    · exact hset.trans (of_sessions rfl)
    · exact hset

/-- One step of module code leaves sessions steady. -/
theorem advance (e : Engine σ) (p : Program σ) : e.Steady (e.advance p).1 := by
  cases p with
  | hook ctx target priority handler next => exact hook e ctx target priority handler
  | unhook h next => exact unhook e h
  | pathHook ctx path listener wantPayload next => exact pathHook e ctx path listener wantPayload
  | unhookPath h next =>
    exact updateSession e _ fun s _ => ⟨rfl, rfl, rfl, rfl, fun _ => List.Sublist.refl _⟩
  | onShutdown ctx callback next => exact onShutdown e ctx callback
  | _ => exact of_sessions rfl

/-- Taking in a packet leaves sessions steady. -/
lemma ingest (e : Engine σ) (n : Nat) (op : String) (payload : ByteArray) :
    e.Steady (e.ingest n op payload) := by
  unfold Engine.ingest
  cases e.session? n with
  | none => exact of_sessions rfl
  | some s =>
    have hlisteners (ls : Listeners) : e.Steady { e with listeners := ls } := of_sessions rfl
    exact ((hlisteners _).trans (withStore _ n _)).trans (of_sessions rfl)

/-- Taking out a shutdown callback leaves sessions steady. -/
lemma takeShutdown (e : Engine σ) (n i : Nat) : e.Steady (e.takeShutdown n i) :=
  updateSession e n fun s _ => .updateContext s i fun _ => rfl

end Steady

end Engine

end Intercept
