import Intercept.Proofs.Session.Activity
import Intercept.Proofs.Session.Alike

/-!
# Sessions in step

Packets, the start and the end of a session run code of its modules only. If that code keeps to its
session, the same packet does the same to two sessions that are alike, and comes out with the same
payload (`InStep.dispatch`); they shut down alike (`InStep.shutdown`), and two sessions that are
started for one identity are alike from the beginning (`inStep_startSession`).

A session may be compared with itself. That it is like itself says that all its handlers and
callbacks keep to it (`Tidy`), and then whatever happens in it leaves the others alone.
-/

namespace Intercept

variable {σ : Type}

/-- More contexts do not make hooks differ. -/
lemma Hook.Alike.mono {t : Twins} {size size' : Nat} (hsize : size ≤ size')
    {h h' : Hook (Packet → Program σ)} (hh : Hook.Alike t size h h') : Hook.Alike t size' h h' where
  id := hh.id
  label := hh.label
  handler := by
    obtain ⟨i, hi, hhandler⟩ := hh.handler
    exact ⟨i, by omega, hhandler⟩

/-- New sessions of one identity are alike. -/
lemma Session.Alike.blank (t : Twins) (config : StateConfig) :
    Alike (σ := σ) t 0 { key := t.key, store := { config } } { key := t.key, store := { config } } :=
  ⟨rfl, rfl, rfl, Store.Reserves.blank config, rfl, rfl, rfl, rfl, fun _ => .none, .nil⟩

/-- It does not matter whether the sessions are alive. -/
lemma Session.Alike.live {t : Twins} {size : Nat} {s s' : Session σ} (h : Alike t size s s')
    (isAlive isAlive' : Bool) :
    Alike t size { s with isAlive } { s' with isAlive := isAlive' } :=
  { h with }

/-- One more context on both sides. -/
lemma Session.Alike.addContext {t : Twins} {size : Nat} {s s' : Session σ}
    (h : Alike t size s s') (module : String) :
    Alike t (size + 1) { s with contexts := s.contexts ++ [{ module }] }
      { s' with contexts := s'.contexts ++ [{ module }] } where
  key := h.key
  key' := h.key'
  store := h.store
  reserves := h.reserves
  modules := h.modules
  nextHook := h.nextHook
  length := by rw [List.length_append, h.length, List.length_singleton]
  length' := by rw [List.length_append, h.length', List.length_singleton]
  contexts i := by
    simp only [List.getElem?_append, h.length, h.length']
    split
    · exact h.contexts i
    · cases i - size with
      | zero => exact .some ⟨rfl, rfl, rfl, rfl, .none⟩
      | succ j => exact .none
  hooks := h.hooks.imp fun _ _ hh => hh.mono (Nat.le_succ size)

namespace Engine

namespace InStep

variable {t : Twins} {size : Nat} {base base' e e' : Engine σ}

/-! ### Packets -/

/-- Listeners of the identity that have changed in the same way. -/
lemma withListeners (h : InStep t size base base' e e') {ls ls' : Listeners}
    (hagree : ls.Agree t.own ls')
    (hls : ∀ name, t.own name = false → ls.find? name = e.listeners.find? name)
    (hls' : ∀ name, t.own name = false → ls'.find? name = e'.listeners.find? name) :
    InStep t size base base' { e with listeners := ls } { e' with listeners := ls' } where
  twins := h.twins
  listeners := hagree
  left := ⟨h.left.sessions, fun name hname => (hls name hname).trans (h.left.listeners name hname),
    h.left.length⟩
  right := ⟨h.right.sessions,
    fun name hname => (hls' name hname).trans (h.right.listeners name hname), h.right.length⟩

/-- The stores take in a packet. -/
lemma ingest (h : InStep t size base base' e e') (op : String) (payload : ByteArray) :
    InStep t size base base' (e.ingest t.left op payload) (e'.ingest t.right op payload) := by
  obtain ⟨s, s', hs, hs', -, -, halike⟩ := h.twins
  obtain ⟨hstore, hreserves, hagree, hls⟩ := halike.reserves.ingest h.listeners op payload
  obtain ⟨-, -, -, hls'⟩ :=
    halike.reserves.ingest (Listeners.Agree.refl t.own e'.listeners) op payload
  unfold Engine.ingest
  simp only [hs, hs', ← halike.store]
  refine InStep.emit ?_ _ _
  refine (h.withListeners hagree hls hls').update (fun _ => rfl) (fun _ => rfl) ?_
  intro s₁ s₁' _ _ hs₁
  exact { hs₁ with store := hstore, reserves := hreserves }

/-- A packet passes a hook. -/
lemma runHook (h : InStep t size base base' e e') {g g' : Hook (Packet → Program σ)}
    (hg : Hook.Alike t size g g') (key : SessionKey) (op : String) (exchange : PacketMeta)
    (payload : ByteArray) :
    (Engine.runHook key op exchange (e, payload) g).2 =
        (Engine.runHook key op exchange (e', payload) g').2 ∧
      InStep t size base base' (Engine.runHook key op exchange (e, payload) g).1
        (Engine.runHook key op exchange (e', payload) g').1 := by
  obtain ⟨i, hi, hhandler⟩ := hg.handler
  obtain ⟨hout, hstep⟩ := h.run hi (hhandler { op, payload, exchange })
  unfold Engine.runHook
  simp only
  cases hrun : e.run (g.handler { op, payload, exchange }) with
  | mk e₁ outcome =>
    cases hrun' : e'.run (g'.handler { op, payload, exchange }) with
    | mk e₁' outcome' =>
      rw [hrun, hrun'] at hout hstep
      obtain rfl : outcome = outcome' := hout
      cases outcome with
      | finished output => exact ⟨rfl, hstep⟩
      | failed fault => exact ⟨rfl, hstep.emit _ _⟩

/-- A packet passes several hooks. -/
lemma foldl_runHook {hooks hooks' : List (Hook (Packet → Program σ))}
    (hhooks : List.Forall₂ (Hook.Alike t size) hooks hooks') (key : SessionKey) (op : String)
    (exchange : PacketMeta) {w w' : Engine σ × ByteArray} (hpayload : w.2 = w'.2)
    (h : InStep t size base base' w.1 w'.1) :
    (hooks.foldl (Engine.runHook key op exchange) w).2 =
        (hooks'.foldl (Engine.runHook key op exchange) w').2 ∧
      InStep t size base base' (hooks.foldl (Engine.runHook key op exchange) w).1
        (hooks'.foldl (Engine.runHook key op exchange) w').1 := by
  induction hhooks generalizing w w' with
  | nil => exact ⟨hpayload, h⟩
  | cons hg _ ih =>
    obtain ⟨e, payload⟩ := w
    obtain ⟨e', payload'⟩ := w'
    obtain rfl : payload = payload' := hpayload
    obtain ⟨hnext, hstep⟩ := h.runHook hg key op exchange payload
    exact ih hnext hstep

/-- A packet does the same to both sessions, and comes out with the same payload. -/
theorem dispatch (h : InStep t size base base' e e') (op : String) (payload : ByteArray)
    (exchange : PacketMeta) :
    (e.dispatch t.left op payload exchange).2 = (e'.dispatch t.right op payload exchange).2 ∧
      InStep t size base base' (e.dispatch t.left op payload exchange).1
        (e'.dispatch t.right op payload exchange).1 := by
  have hingest := h.ingest op payload
  obtain ⟨s, s', hs, hs', -, -, halike⟩ := hingest.twins
  unfold Engine.dispatch
  simp only [hs, hs', halike.key, halike.key']
  have hchain := HookTable.forall₂_chainFor (fun _ _ hh => hh.label) halike.hooks op
  exact foldl_runHook hchain t.key op exchange rfl hingest

/-! ### The end of a session -/

/-- The callback of a context is taken and run. -/
lemma shutdownModule (h : InStep t size base base' e e') (key : SessionKey) (processEnds : Bool)
    (i : Nat) :
    InStep t size base base' (Engine.shutdownModule t.left key processEnds e i)
      (Engine.shutdownModule t.right key processEnds e' i) := by
  unfold Engine.shutdownModule
  rcases h.contexts i with
    ⟨hnone, hnone'⟩ | ⟨s, s', c, c', hctx, hctx', hi, -, -, -, hc⟩
  · rw [hnone, hnone']
    exact h
  · simp only [hctx, hctx']
    rcases optionRel_cases hc.shutdown with ⟨hf, hf'⟩ | ⟨f, f', hf, hf', hrel⟩
    · simp only [hf, hf']
      exact h
    · have htaken := h.updateContext i (fun c => { c with shutdown := none })
        (fun c => { c with shutdown := none }) fun d d' hd => { hd with shutdown := .none }
      obtain ⟨hout, hrun⟩ := htaken.run hi (hrel processEnds)
      simp only [hf, hf']
      generalize Engine.run _ (f processEnds) = w at hout hrun ⊢
      generalize Engine.run _ (f' processEnds) = w' at hout hrun ⊢
      obtain ⟨e₁, outcome⟩ := w
      obtain ⟨e₁', outcome'⟩ := w'
      obtain rfl : outcome = outcome' := hout
      cases outcome with
      | finished output => exact hrun
      | failed fault => exact hrun.emit _ _

/-- Both sessions are shut down. -/
theorem shutdown (h : InStep t size base base' e e') (processEnds : Bool) :
    InStep t size base base' (e.shutdown t.left processEnds) (e'.shutdown t.right processEnds) := by
  obtain ⟨s, s', hs, hs', -, -, halike⟩ := h.twins
  unfold Engine.shutdown
  simp only [hs, hs', ← halike.modules, halike.key, halike.key']
  generalize s.modules = modules
  clear hs hs' halike
  induction modules generalizing e e' with
  | nil => exact h
  | cons i modules ih => exact ih (h.shutdownModule t.key processEnds i)

/-! ### The start of a session -/

/-- Both sessions get a context for a module. -/
lemma addContext (h : InStep t size base base' e e') (module : String) :
    (e.addContext t.left module).2 = ⟨t.left, size⟩ ∧
      (e'.addContext t.right module).2 = ⟨t.right, size⟩ ∧
      InStep t (size + 1) base base' (e.addContext t.left module).1
        (e'.addContext t.right module).1 := by
  obtain ⟨s, s', hs, hs', -, -, halike⟩ := h.twins
  refine ⟨?_, ?_, ?_⟩
  · simp only [Engine.addContext, hs, Option.map_some, Option.getD_some, halike.length]
  · simp only [Engine.addContext, hs', Option.map_some, Option.getD_some, halike.length']
  · exact h.update (fun _ => rfl) (fun _ => rfl) fun s₁ s₁' _ _ hs₁ => hs₁.addContext module

/-- What was registered through a context is taken back. -/
lemma rollBack (h : InStep t size base base' e e') (i : Nat) :
    InStep t size base base' (e.rollBack ⟨t.left, i⟩) (e'.rollBack ⟨t.right, i⟩) := by
  unfold Engine.rollBack
  rcases h.contexts i with
    ⟨hnone, hnone'⟩ | ⟨s, s', c, c', hctx, hctx', -, -, -, -, hc⟩
  · rw [hnone, hnone']
    exact h
  · simp only [hctx, hctx', ← hc.hooks, ← hc.pathHooks]
    refine h.update (fun _ => rfl) (fun _ => rfl) fun s₁ s₁' _ _ hs => ?_
    have hcleared := hs.updateContext i (fun c => { c with hooks := [], pathHooks := [] })
      (fun c => { c with hooks := [], pathHooks := [] })
      fun d d' hd => { hd with hooks := rfl, pathHooks := rfl }
    exact { hcleared with
      store := congrArg (c.pathHooks.foldl fun st id => st.unhook id) hs.store
      reserves := hs.reserves.foldl_unhook c.pathHooks
      hooks := HookTable.forall₂_foldl_remove c.hooks hs.hooks }

/-- The init function of a module runs for both sessions. -/
lemma initModule (h : InStep t size base base' e e') (m : ModuleDescriptor σ)
    (hm : Program.Alike t size (m.init ⟨t.left, size⟩) (m.init ⟨t.right, size⟩)) :
    InStep t (size + 1) base base' (e.initModule t.left t.key m) (e'.initModule t.right t.key m) := by
  obtain ⟨hctx, hctx', hadded⟩ := h.addContext m.name
  unfold Engine.initModule
  generalize e.addContext t.left m.name = w at hctx hadded ⊢
  generalize e'.addContext t.right m.name = w' at hctx' hadded ⊢
  obtain ⟨e₁, ctx⟩ := w
  obtain ⟨e₁', ctx'⟩ := w'
  obtain rfl : ctx = ⟨t.left, size⟩ := hctx
  obtain rfl : ctx' = ⟨t.right, size⟩ := hctx'
  obtain ⟨hout, hrun⟩ := hadded.run (Nat.lt_succ_self size) hm
  simp only
  generalize Engine.run _ (m.init ⟨t.left, size⟩) = w at hout hrun ⊢
  generalize Engine.run _ (m.init ⟨t.right, size⟩) = w' at hout hrun ⊢
  obtain ⟨e₂, outcome⟩ := w
  obtain ⟨e₂', outcome'⟩ := w'
  obtain rfl : outcome = outcome' := hout
  have hclosed := hrun.updateContext size (fun c => { c with isInitialized := true })
    (fun c => { c with isInitialized := true }) fun d d' hd => { hd with isInitialized := rfl }
  cases outcome with
  | finished output =>
    refine hclosed.update (fun _ => rfl) (fun _ => rfl) fun s s' _ _ hs => ?_
    exact { hs with modules := congrArg (· ++ [size]) hs.modules }
  | failed fault => exact (hclosed.emit _ _).rollBack size

end InStep

/-- An engine with one more session, in which nothing has happened yet. -/
def withSession (e : Engine σ) (key : SessionKey) (config : StateConfig) : Engine σ :=
  { e with sessions := e.sessions ++ [{ key, store := { config } }] }

/-- The new session has the next number. -/
lemma session?_withSession (e : Engine σ) (key : SessionKey) (config : StateConfig) (m : Nat) :
    (e.withSession key config).session? m =
      if m = e.sessions.length then some { key, store := { config } } else e.session? m :=
  e.session?_openSession key config m

/-- Sessions that are started for one identity are alike from the beginning. -/
theorem inStep_startSession (registry : ModuleRegistry σ) {t : Twins} {e e' : Engine σ}
    (hleft : t.left = e.sessions.length) (hright : t.right = e'.sessions.length)
    (hinit : ∀ m ∈ registry.modules, ∀ i,
      Program.Alike t i (m.init ⟨t.left, i⟩) (m.init ⟨t.right, i⟩))
    (hagree : e.listeners.Agree t.own e'.listeners) (config : StateConfig) :
    InStep t registry.modules.length (e.withSession t.key config) (e'.withSession t.key config)
      (e.startSession t.key config registry).1 (e'.startSession t.key config registry).1 := by
  have hblank : InStep t 0 (e.withSession t.key config) (e'.withSession t.key config)
      (e.withSession t.key config) (e'.withSession t.key config) := by
    refine ⟨⟨_, _, ?_, ?_, rfl, rfl, Session.Alike.blank t config⟩, hagree, Framed.refl _ _ _,
      Framed.refl _ _ _⟩
    · rw [session?_withSession, if_pos hleft]
    · rw [session?_withSession, if_pos hright]
  have hmodules : ∀ (modules : List (ModuleDescriptor σ)) (size : Nat) (e₁ e₁' : Engine σ),
      (∀ m ∈ modules, ∀ i, Program.Alike t i (m.init ⟨t.left, i⟩) (m.init ⟨t.right, i⟩)) →
      InStep t size (e.withSession t.key config) (e'.withSession t.key config) e₁ e₁' →
      InStep t (size + modules.length) (e.withSession t.key config) (e'.withSession t.key config)
        (modules.foldl (fun e m => e.initModule t.left t.key m) e₁)
        (modules.foldl (fun e m => e.initModule t.right t.key m) e₁') := by
    intro modules
    induction modules with
    | nil => exact fun size e₁ e₁' _ h => h
    | cons m modules ih =>
      intro size e₁ e₁' hinit h
      have hfirst := h.initModule m (hinit m List.mem_cons_self size)
      have hrest := ih (size + 1) _ _ (fun m' hm' => hinit m' (List.mem_cons_of_mem m hm')) hfirst
      rwa [List.length_cons, Nat.add_comm modules.length 1, ← Nat.add_assoc]
  have hstarted := hmodules registry.modules 0 _ _ hinit hblank
  rw [Nat.zero_add] at hstarted
  unfold Engine.startSession
  simp only [← hleft, ← hright]
  refine hstarted.update (fun _ => rfl) (fun _ => rfl) fun s s' _ _ hs => ?_
  exact { hs with hooks := HookTable.forall₂_sort (fun _ _ hh => hh.label) hs.hooks }

/-! ### What keeps to itself -/

end Engine

/-- Code that leaves all sessions alone. -/
inductive Program.Detached : Program σ → Prop
  | finish (output : ByteArray) : Detached (.finish output)
  | fail (fault : Fault) : Detached (.fail fault)
  | «recall» {next : σ → Program σ} (hnext : ∀ m, Detached (next m)) : Detached (.recall next)
  | remember (change : σ → σ) {next : Program σ} (hnext : Detached next) :
      Detached (.remember change next)

/-- Such code changes no session and sends no event. -/
lemma Program.Detached.run {p : Program σ} (hp : p.Detached) (e : Engine σ) :
    (e.run p).1.sessions = e.sessions ∧ (e.run p).1.listeners = e.listeners := by
  induction hp generalizing e with
  | finish output => exact ⟨rfl, rfl⟩
  | fail fault => exact ⟨rfl, rfl⟩
  | «recall» _ ih => exact ih e.memory e
  | remember change _ ih => exact ih { e with memory := change e.memory }

/-- The modules keep to their sessions: what an init function does, and every handler and callback that
it registers, depends on its arguments and on the session it runs for, and sends to listeners of that
identity only. No listener is of two identities. The start callbacks, which run for no session, leave
the sessions alone. -/
structure ModuleRegistry.Isolated (own : SessionKey → String → Bool) (r : ModuleRegistry σ) :
    Prop where
  disjoint : ∀ key key' listener, own key listener = true → own key' listener = true → key = key'
  init : ∀ m ∈ r.modules, ∀ key left right i,
    Program.Alike ⟨key, own key, left, right⟩ i (m.init ⟨left, i⟩) (m.init ⟨right, i⟩)
  onStart : ∀ callback ∈ r.onStart, callback.Detached

namespace Engine

variable {own : SessionKey → String → Bool} {e : Engine σ}

/-- Every session is like itself. -/
def Tidy (own : SessionKey → String → Bool) (e : Engine σ) : Prop :=
  ∀ n s, e.session? n = some s → ∃ size, Session.Alike ⟨s.key, own s.key, n, n⟩ size s s

/-- A live session of an engine is in step with itself. -/
lemma Tidy.inStep (h : e.Tidy own) {n : Nat} {key : SessionKey}
    (hroll : e.roll[n]? = some (key, true)) :
    ∃ size, InStep ⟨key, own key, n, n⟩ size e e e e := by
  obtain ⟨s, hs, rfl, hlive⟩ := session_of_roll hroll
  obtain ⟨size, halike⟩ := h n s hs
  exact ⟨size, ⟨s, s, hs, hs, hlive, hlive, halike⟩, Listeners.Agree.refl _ _, Framed.refl _ _ _,
    Framed.refl _ _ _⟩

/-- What happens in one session leaves an engine tidy. -/
lemma Tidy.of_inStep {base : Engine σ} {n size : Nat} {key : SessionKey}
    (h : ∀ m s, m ≠ n → base.session? m = some s →
      ∃ size, Session.Alike ⟨s.key, own s.key, m, m⟩ size s s)
    (hstep : InStep ⟨key, own key, n, n⟩ size base base e e) : e.Tidy own := by
  intro m s hs
  by_cases hm : m = n
  · subst hm
    obtain ⟨s₁, s₂, hs₁, hs₂, -, -, halike⟩ := hstep.twins
    obtain rfl : s₁ = s := Option.some.inj (hs₁.symm.trans hs)
    obtain rfl : s₂ = s₁ := Option.some.inj (hs₂.symm.trans hs)
    have hkey : s₂.key = key := halike.key
    subst hkey
    exact ⟨size, halike⟩
  · rw [hstep.left.sessions m hm] at hs
    exact h m s hm hs

/-- Dispatching a packet in a session leaves the others alone. -/
lemma Tidy.dispatch (h : e.Tidy own) {n : Nat} {key : SessionKey}
    (hroll : e.roll[n]? = some (key, true)) (op : String) (payload : ByteArray)
    (exchange : PacketMeta) : (e.dispatch n op payload exchange).1.Tidy own ∧
      Framed (own key) n e (e.dispatch n op payload exchange).1 := by
  obtain ⟨size, hself⟩ := h.inStep hroll
  obtain ⟨-, hstep⟩ := hself.dispatch op payload exchange
  exact ⟨Tidy.of_inStep (fun m s _ => h m s) hstep, hstep.left⟩

/-- Shutting a session down leaves the others alone. -/
lemma Tidy.shutdown (h : e.Tidy own) {n : Nat} {key : SessionKey}
    (hroll : e.roll[n]? = some (key, true)) (processEnds : Bool) :
    (e.shutdown n processEnds).Tidy own ∧ Framed (own key) n e (e.shutdown n processEnds) := by
  obtain ⟨size, hself⟩ := h.inStep hroll
  have hstep := hself.shutdown processEnds
  exact ⟨Tidy.of_inStep (fun m s _ => h m s) hstep, hstep.left⟩

/-- Starting a session leaves the others alone. -/
lemma Tidy.startSession (h : e.Tidy own) {registry : ModuleRegistry σ}
    (hregistry : registry.Isolated own) (key : SessionKey) (config : StateConfig) :
    (e.startSession key config registry).1.Tidy own ∧
      Framed (own key) e.sessions.length (e.withSession key config)
        (e.startSession key config registry).1 := by
  have hstep := inStep_startSession registry
    (t := ⟨key, own key, e.sessions.length, e.sessions.length⟩) rfl rfl
    (fun m hm i => hregistry.init m hm key _ _ i) (Listeners.Agree.refl _ _) config
  refine ⟨Tidy.of_inStep (fun m s hm hs => ?_) hstep, hstep.left⟩
  rw [session?_withSession, if_neg hm] at hs
  exact h m s hs

end Engine

end Intercept
