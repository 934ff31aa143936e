import Intercept.Proofs.Proxy.Request
import Intercept.Proofs.Proxy.Step
import Intercept.Proofs.Session.Lineup
import Intercept.Proofs.Session.Steady
import Mathlib.Logic.Function.Basic
import Mathlib.Logic.Relation

/-!
# Logins that meet other requests

Any number of requests use a proxy at the same time. The table of sessions has an entry for every
identity, which one login at a time can hold. A login takes the entry of its identity, shuts down the
session it finds there, initialises a new one module by module, puts the hooks in order, enters the
session into the table, and only then lets go of the entry. In the meantime neither another login of
this identity nor a lookup gets at the entry, but whatever else may happen does: other identities log
in, packets are dispatched, and module code runs, one step at a time, even between two steps of an
init function or a callback. `SwapSystem.Step` lists all this.

Beside the state `SwapSystem.log` tells in which order init functions and callbacks have begun, and
sessions have ended. A login that nothing comes in between does what `Proxy.addUser` does
(`steps_addUser`).
-/

namespace Intercept

variable {σ γ : Type}

/-! ### The parts of a login -/

namespace Engine

/-- What is done when the init function of a module has ended. -/
def settle (e : Engine σ) (n : Nat) (key : SessionKey) (m : ModuleDescriptor σ) (ctx : ContextId) :
    Outcome → Engine σ
  | .finished _ =>
    (e.closeContext ctx).updateSession n fun s => { s with modules := s.modules ++ [ctx.index] }
  | .failed fault =>
    ((e.closeContext ctx).note (.initFault m.name key.display fault.message)).rollBack ctx

/-- A module is initialised by giving it a context, running its init function, and settling what
has come of it. -/
lemma initModule_eq (e : Engine σ) (n : Nat) (key : SessionKey) (m : ModuleDescriptor σ) :
    e.initModule n key m =
      let (e₁, ctx) := e.addContext n m.name
      let (e₂, outcome) := e₁.run (m.init ctx)
      e₂.settle n key m ctx outcome := by
  cases hadd : e.addContext n m.name with
  | mk e₁ ctx =>
    rcases initModule_cases e n key m hadd with ⟨e₂, output, hrun, hinit⟩ | ⟨e₂, fault, hrun, hinit⟩
    · simp only [hrun, hinit, settle]
    · simp only [hrun, hinit, settle]

/-- What is done when a shutdown callback has ended. -/
def endCallback (e : Engine σ) (module : String) (key : SessionKey) : Outcome → Engine σ
  | .finished _ => e
  | .failed fault => e.note (.shutdownFault module key.display fault.message)

/-- The turn of a context in a shutdown, where there is a callback: it is taken out, run, and its
end is noted if it has failed. -/
lemma shutdownModule_eq {e : Engine σ} {n i : Nat} {s : Session σ} {c : Context σ}
    (hctx : e.context? ⟨n, i⟩ = some (s, c)) {callback : Bool → Program σ}
    (hcallback : c.shutdown = some callback) (key : SessionKey) (processEnds : Bool) :
    shutdownModule n key processEnds e i =
      let (e', outcome) := (e.takeShutdown n i).run (callback processEnds)
      e'.endCallback c.module key outcome := by
  have htake : (e.updateSession n fun s => s.updateContext i fun c =>
      { c with shutdown := none }) = e.takeShutdown n i := rfl
  rw [shutdownModule, hctx]
  simp only [hcallback, htake]
  cases (e.takeShutdown n i).run (callback processEnds) with
  | mk e' outcome => cases outcome <;> rfl

end Engine

/-! ### Requests and entries -/

/-- How far a login has come that holds an entry. -/
inductive LoginPhase (σ : Type) where
  /-- The session that was found is shut down. These contexts have not had their turn yet, and the
  callback of that context is running. -/
  | closing (old : Option Nat) (todo : List Nat) (code : Option (Nat × String × Program σ))
  /-- A session is started. These modules have not been initialised yet, and the init function of
  that one is running. -/
  | opening (n : Nat) (todo : List (ModuleDescriptor σ))
      (code : Option (ContextId × ModuleDescriptor σ × Program σ))
  /-- All modules have been initialised, and the hooks are in order. -/
  | sorted (n : Nat)
  /-- The session has been entered into the table. -/
  | entered (n : Nat)

/-- The session of its identity that a login is about. -/
def LoginPhase.session? : LoginPhase σ → Option Nat
  | closing old _ _ => old
  | opening n _ _ => some n
  | sorted n => some n
  | entered n => some n

/-- A login that holds an entry. -/
structure Login (σ : Type) where
  /-- The place of the request that logs in. -/
  task : Nat
  phase : LoginPhase σ

/-- How far a request has come. -/
inductive RequestPhase where
  | waiting
  /-- It logs in, and holds the entry. -/
  | inside
  /-- It has been given a session. -/
  | handed (n : Nat)
  /-- Its exchange is over, in that session if it was given one. -/
  | answered (session : Option Nat)

/-- The session that was given to a request. -/
def RequestPhase.session? : RequestPhase → Option Nat
  | waiting => none
  | inside => none
  | handed n => some n
  | answered session => session

/-- A request on its way. -/
structure RequestTask where
  request : Request
  phase : RequestPhase := .waiting

/-- What is told of init functions and callbacks. -/
inductive SwapEvent where
  /-- The init function of a module begins for a session. -/
  | initBegins (n : Nat)
  /-- The shutdown callback of a context begins. -/
  | callbackBegins (n i : Nat)
  /-- A context has had its turn in the shutdown of its session: the callback has ended, if there was
  one. -/
  | turnEnds (n i : Nat)
  /-- A session has been shut down for a new one. -/
  | ended (n : Nat)

/-- What may happen to an engine from elsewhere: handlers and other module code, packets of requests
and responses, receivers of events. -/
inductive Elsewhere (σ : Type) where
  /-- One step of a piece of module code. -/
  | code (p : Program σ)
  | packet (n : Nat) (op : String) (payload : ByteArray)
  | receive (change : Listeners → Listeners)
  | report (signals : List Signal)

/-- Let something happen from elsewhere. -/
def Engine.elsewhere (e : Engine σ) : Elsewhere σ → Engine σ
  | .code p => (e.advance p).1
  | .packet n op payload => e.ingest n op payload
  | .receive change => { e with listeners := change e.listeners }
  | .report signals => e.emit signals

/-- What happens elsewhere leaves sessions steady. -/
lemma Engine.Steady.elsewhere (e : Engine σ) (x : Elsewhere σ) : e.Steady (e.elsewhere x) := by
  cases x with
  | code p => exact advance e p
  | packet n op payload => exact ingest e n op payload
  | receive change => exact of_sessions rfl
  | report signals => exact of_sessions rfl

/-- A proxy that is used by requests. -/
structure SwapSystem (σ γ : Type) where
  proxy : Proxy σ γ
  /-- The logins that hold the entries of identities. -/
  logins : SessionKey → Option (Login σ) := fun _ => none
  /-- All requests that ever came, in their order. -/
  tasks : List RequestTask := []
  log : List SwapEvent := []

namespace SwapSystem

/-- Where a request belongs. -/
def destination (w : SwapSystem σ γ) (r : Request) : Destination :=
  r.destination w.proxy.config w.proxy.filter

/-- Whether something refers to a session: the table, a request, or a login. -/
def RefersTo (w : SwapSystem σ γ) (n : Nat) : Prop :=
  (∃ e ∈ w.proxy.table, e.2 = n) ∨ (∃ t ∈ w.tasks, t.phase = .handed n) ∨
    ∃ key login, w.logins key = some login ∧ login.phase.session? = some n

/-- A request has come further. -/
def goto (w : SwapSystem σ γ) (k : Nat) (phase : RequestPhase) : SwapSystem σ γ :=
  { w with tasks := w.tasks.modify k fun t => { t with phase } }

/-- A login that holds an entry has come further, which leaves the engine like this. -/
def hold (w : SwapSystem σ γ) (key : SessionKey) (k : Nat) (phase : LoginPhase σ) (e : Engine σ)
    (event : Option SwapEvent) : SwapSystem σ γ :=
  { w with
    proxy := { w.proxy with engine := e }
    logins := Function.update w.logins key (some ⟨k, phase⟩)
    log := w.log ++ event.toList }

/-- The entry that the login holds. -/
lemma logins_hold_self (w : SwapSystem σ γ) (key : SessionKey) (k : Nat) (phase : LoginPhase σ)
    (e : Engine σ) (event : Option SwapEvent) :
    (w.hold key k phase e event).logins key = some ⟨k, phase⟩ := Function.update_self _ _ _

/-- The entries that others hold. -/
lemma logins_hold_of_ne (w : SwapSystem σ γ) {key key' : SessionKey} (hne : key' ≠ key) (k : Nat)
    (phase : LoginPhase σ) (e : Engine σ) (event : Option SwapEvent) :
    (w.hold key k phase e event).logins key' = w.logins key' := Function.update_of_ne hne _ _

/-- A step of a request, or of something else. -/
inductive Step : SwapSystem σ γ → SwapSystem σ γ → Prop
  | call {w : SwapSystem σ γ} (r : Request) :
      Step w { w with tasks := w.tasks ++ [{ request := r }] }
  /-- A request belongs nowhere. -/
  | pass {w : SwapSystem σ γ} {k : Nat} {r : Request} {isBlocked : Bool}
      (htask : w.tasks[k]? = some ⟨r, .waiting⟩) (hdest : w.destination r = .nowhere isBlocked) :
      Step w { w.goto k (.answered none) with proxy := (w.proxy.processRequest r).1 }
  /-- A request finds the session of its identity. -/
  | find {w : SwapSystem σ γ} {k n : Nat} {r : Request} {key : SessionKey}
      (htask : w.tasks[k]? = some ⟨r, .waiting⟩) (hdest : w.destination r = .current key)
      (hfree : w.logins key = none) (hsession : w.proxy.session? key = some n) :
      Step w (w.goto k (.handed n))
  /-- A request finds no session of its identity. -/
  | miss {w : SwapSystem σ γ} {k : Nat} {r : Request} {key : SessionKey}
      (htask : w.tasks[k]? = some ⟨r, .waiting⟩) (hdest : w.destination r = .current key)
      (hfree : w.logins key = none) (hsession : w.proxy.session? key = none) :
      Step w { w.goto k (.answered none) with proxy := (w.proxy.processRequest r).1 }
  /-- A login takes the entry of its identity. -/
  | acquire {w : SwapSystem σ γ} {k : Nat} {r : Request} {key : SessionKey}
      (htask : w.tasks[k]? = some ⟨r, .waiting⟩) (hdest : w.destination r = .login key)
      (hfree : w.logins key = none) :
      Step w ((w.hold key k (.closing (w.proxy.session? key)
        (((w.proxy.session? key).map w.proxy.engine.loaded).getD []) none) w.proxy.engine none).goto k
          .inside)
  /-- A context without a callback has its turn. -/
  | skip {w : SwapSystem σ γ} {key : SessionKey} {k m i : Nat} {todo : List Nat}
      (hlogin : w.logins key = some ⟨k, .closing (some m) (i :: todo) none⟩)
      (hslot : w.proxy.engine.slots ⟨m, i⟩ = none) :
      Step w (w.hold key k (.closing (some m) todo none) w.proxy.engine (some (.turnEnds m i)))
  | callbackBegins {w : SwapSystem σ γ} {key : SessionKey} {k m i : Nat} {todo : List Nat}
      {s : Session σ} {c : Context σ} {callback : Bool → Program σ}
      (hlogin : w.logins key = some ⟨k, .closing (some m) (i :: todo) none⟩)
      (hctx : w.proxy.engine.context? ⟨m, i⟩ = some (s, c))
      (hcallback : c.shutdown = some callback) :
      Step w (w.hold key k (.closing (some m) todo (some (i, c.module, callback false)))
        (w.proxy.engine.takeShutdown m i) (some (.callbackBegins m i)))
  | callbackRuns {w : SwapSystem σ γ} {key : SessionKey} {k i : Nat} {old : Option Nat}
      {todo : List Nat} {module : String} {p : Program σ}
      (hlogin : w.logins key = some ⟨k, .closing old todo (some (i, module, p))⟩)
      (hruns : p.outcome? = none) :
      Step w (w.hold key k (.closing old todo (some (i, module, (w.proxy.engine.advance p).2)))
        (w.proxy.engine.advance p).1 none)
  | callbackEnds {w : SwapSystem σ γ} {key : SessionKey} {k m i : Nat} {todo : List Nat}
      {module : String} {p : Program σ} {outcome : Outcome}
      (hlogin : w.logins key = some ⟨k, .closing (some m) todo (some (i, module, p))⟩)
      (hend : p.outcome? = some outcome) :
      Step w (w.hold key k (.closing (some m) todo none)
        (w.proxy.engine.endCallback module key outcome) (some (.turnEnds m i)))
  /-- A new session is started when the old one, if there was one, has been shut down. -/
  | start {w : SwapSystem σ γ} {key : SessionKey} {k : Nat} {old : Option Nat}
      (hlogin : w.logins key = some ⟨k, .closing old [] none⟩) :
      Step w (w.hold key k (.opening w.proxy.engine.sessions.length w.proxy.registry.modules none)
        ((w.proxy.engine.emit [.count .sessionsCreated 1]).openSession key w.proxy.config.state)
        (old.map .ended))
  | initBegins {w : SwapSystem σ γ} {key : SessionKey} {k n : Nat} {module : ModuleDescriptor σ}
      {todo : List (ModuleDescriptor σ)}
      (hlogin : w.logins key = some ⟨k, .opening n (module :: todo) none⟩) :
      Step w (w.hold key k
        (.opening n todo (some ((w.proxy.engine.addContext n module.name).2, module,
          module.init (w.proxy.engine.addContext n module.name).2)))
        (w.proxy.engine.addContext n module.name).1 (some (.initBegins n)))
  | initRuns {w : SwapSystem σ γ} {key : SessionKey} {k n : Nat} {todo : List (ModuleDescriptor σ)}
      {ctx : ContextId} {module : ModuleDescriptor σ} {p : Program σ}
      (hlogin : w.logins key = some ⟨k, .opening n todo (some (ctx, module, p))⟩)
      (hruns : p.outcome? = none) :
      Step w (w.hold key k (.opening n todo (some (ctx, module, (w.proxy.engine.advance p).2)))
        (w.proxy.engine.advance p).1 none)
  | initEnds {w : SwapSystem σ γ} {key : SessionKey} {k n : Nat} {todo : List (ModuleDescriptor σ)}
      {ctx : ContextId} {module : ModuleDescriptor σ} {p : Program σ} {outcome : Outcome}
      (hlogin : w.logins key = some ⟨k, .opening n todo (some (ctx, module, p))⟩)
      (hend : p.outcome? = some outcome) :
      Step w (w.hold key k (.opening n todo none)
        (w.proxy.engine.settle n key module ctx outcome) none)
  /-- The hooks of the new session are put in order. -/
  | sort {w : SwapSystem σ γ} {key : SessionKey} {k n : Nat}
      (hlogin : w.logins key = some ⟨k, .opening n [] none⟩) :
      Step w (w.hold key k (.sorted n) (w.proxy.engine.completeSession n) none)
  /-- The new session is entered into the table. -/
  | insert {w : SwapSystem σ γ} {key : SessionKey} {k n : Nat}
      (hlogin : w.logins key = some ⟨k, .sorted n⟩) :
      Step w { w.hold key k (.entered n) w.proxy.engine none with proxy := w.proxy.setSession key n }
  /-- A login lets go of the entry. -/
  | release {w : SwapSystem σ γ} {key : SessionKey} {k n : Nat}
      (hlogin : w.logins key = some ⟨k, .entered n⟩) :
      Step w { w.goto k (.handed n) with logins := Function.update w.logins key none }
  | finish {w : SwapSystem σ γ} {k n : Nat} {r : Request}
      (htask : w.tasks[k]? = some ⟨r, .handed n⟩) : Step w (w.goto k (.answered (some n)))
  /-- The life of a session ends when nothing refers to it. -/
  | drop {w : SwapSystem σ γ} (n : Nat) (hunused : ¬ w.RefersTo n) :
      Step w { w with
        proxy := { w.proxy with
          engine := w.proxy.engine.updateSession n fun s => { s with isAlive := false } } }
  | elsewhere {w : SwapSystem σ γ} (x : Elsewhere σ) :
      Step w { w with proxy := { w.proxy with engine := w.proxy.engine.elsewhere x } }

/-- What can come of a system by any steps, in any interleaving. -/
abbrev Steps : SwapSystem σ γ → SwapSystem σ γ → Prop := Relation.ReflTransGen Step

/-! ### A login that nothing comes in between -/

/-- With nothing in between, a login that holds the entry comes to this phase and leaves the engine
like this. -/
def Reaches (w : SwapSystem σ γ) (key : SessionKey) (k : Nat) (phase : LoginPhase σ)
    (e : Engine σ) : Prop :=
  ∃ w', Steps w w' ∧ w'.proxy = { w.proxy with engine := e } ∧
    w'.logins = Function.update w.logins key (some ⟨k, phase⟩) ∧ w'.tasks = w.tasks

variable {w : SwapSystem σ γ} {key : SessionKey} {k : Nat}

namespace Reaches

/-- One more step. -/
lemma next {phase phase' : LoginPhase σ} {e e' : Engine σ} (h : w.Reaches key k phase e)
    (hstep : ∀ w' : SwapSystem σ γ, w'.proxy = { w.proxy with engine := e } →
      w'.logins key = some ⟨k, phase⟩ → ∃ event, Step w' (w'.hold key k phase' e' event)) :
    w.Reaches key k phase' e' := by
  obtain ⟨w', hsteps, hproxy, hlogins, htasks⟩ := h
  have hlogin : w'.logins key = some ⟨k, phase⟩ := by
    rw [hlogins, Function.update_self]
  obtain ⟨event, hstep⟩ := hstep w' hproxy hlogin
  refine ⟨_, hsteps.tail hstep, ?_, ?_, htasks⟩
  · rw [hold, hproxy]
  · rw [hold, hlogins, Function.update_idem]

/-- A callback runs to its end. -/
lemma callback {m i : Nat} {todo : List Nat} {module : String} {p : Program σ} {e : Engine σ}
    (h : w.Reaches key k (.closing (some m) todo (some (i, module, p))) e) :
    w.Reaches key k (.closing (some m) todo none)
      ((e.run p).1.endCallback module key (e.run p).2) := by
  obtain ⟨rest, hend, hran⟩ := Engine.run_of_advance
    (Q := fun e p => w.Reaches key k (.closing (some m) todo (some (i, module, p))) e)
    (fun e p hruns hp => hp.next fun w' hproxy hlogin => by
      have hstep := Step.callbackRuns hlogin hruns
      rw [hproxy] at hstep
      exact ⟨none, hstep⟩) h
  refine hran.next fun w' hproxy hlogin => ?_
  have hstep := Step.callbackEnds hlogin hend
  rw [hproxy] at hstep
  exact ⟨_, hstep⟩

/-- One context after the other has its turn. -/
lemma turns {m : Nat} {todo : List Nat} {e : Engine σ}
    (h : w.Reaches key k (.closing (some m) todo none) e) :
    w.Reaches key k (.closing (some m) [] none)
      (todo.foldl (Engine.shutdownModule m key false) e) := by
  induction todo generalizing e with
  | nil => exact h
  | cons i todo ih =>
    rw [List.foldl_cons]
    refine ih ?_
    cases hslot : e.slots ⟨m, i⟩ with
    | none =>
      have hsame : Engine.shutdownModule m key false e i = e := by
        rcases Engine.shutdownModule_cases m key false e i with ⟨-, heq⟩ | ⟨callback, hsome, -⟩
        · exact heq
        · rw [Engine.slots, hsome] at hslot
          contradiction
      rw [hsame]
      refine h.next fun w' hproxy hlogin => ?_
      have hstep := Step.skip hlogin (by rw [hproxy]; exact hslot)
      rw [hproxy] at hstep
      exact ⟨_, hstep⟩
    | some farewell =>
      obtain ⟨⟨s, c⟩, hctx, hcallback⟩ := Option.bind_eq_some_iff.1 hslot
      rw [Engine.shutdownModule_eq hctx hcallback]
      refine callback (i := i) (h.next fun w' hproxy hlogin => ?_)
      have hstep := Step.callbackBegins hlogin (by rw [hproxy]; exact hctx) hcallback
      rw [hproxy] at hstep
      exact ⟨_, hstep⟩

/-- A module is initialised. -/
lemma init {n : Nat} {module : ModuleDescriptor σ} {todo : List (ModuleDescriptor σ)}
    {e : Engine σ} (h : w.Reaches key k (.opening n (module :: todo) none) e) :
    w.Reaches key k (.opening n todo none) (e.initModule n key module) := by
  have hbegun := h.next fun w' hproxy hlogin => by
    have hstep := Step.initBegins hlogin
    rw [hproxy] at hstep
    exact ⟨_, hstep⟩
  obtain ⟨rest, hend, hran⟩ := Engine.run_of_advance
    (Q := fun e' p => w.Reaches key k
      (.opening n todo (some ((e.addContext n module.name).2, module, p))) e')
    (fun e p hruns hp => hp.next fun w' hproxy hlogin => by
      have hstep := Step.initRuns hlogin hruns
      rw [hproxy] at hstep
      exact ⟨none, hstep⟩) hbegun
  rw [Engine.initModule_eq]
  refine hran.next fun w' hproxy hlogin => ?_
  have hstep := Step.initEnds hlogin hend
  rw [hproxy] at hstep
  exact ⟨_, hstep⟩

/-- One module after the other is initialised. -/
lemma inits {n : Nat} {todo : List (ModuleDescriptor σ)} {e : Engine σ}
    (h : w.Reaches key k (.opening n todo none) e) :
    w.Reaches key k (.opening n [] none)
      (todo.foldl (fun e module => e.initModule n key module) e) := by
  induction todo generalizing e with
  | nil => exact h
  | cons module todo ih => exact ih h.init

end Reaches

/-- A login that nothing comes in between does what `addUser` does, and hands the new session to its
request. -/
theorem steps_addUser {r : Request} (htask : w.tasks[k]? = some ⟨r, .waiting⟩)
    (hdest : w.destination r = .login key) (hfree : w.logins key = none)
    (hkey : ∀ m s, w.proxy.session? key = some m → w.proxy.engine.session? m = some s →
      s.key = key) :
    ∃ w', Steps w w' ∧ w'.proxy.dropUnused = (w.proxy.addUser key).1 ∧
      w'.tasks = (w.goto k (.handed (w.proxy.addUser key).2)).tasks ∧ w'.logins = w.logins := by
  have hacquired := Step.acquire htask hdest hfree
  set w₁ : SwapSystem σ γ := (w.hold key k (.closing (w.proxy.session? key)
    (((w.proxy.session? key).map w.proxy.engine.loaded).getD []) none) w.proxy.engine none).goto k
      .inside with hw₁
  have hclosed : w₁.Reaches key k (.closing (w.proxy.session? key) [] none)
      (w.proxy.closed key) := by
    have hbegun : w₁.Reaches key k (.closing (w.proxy.session? key)
        (((w.proxy.session? key).map w.proxy.engine.loaded).getD []) none) w.proxy.engine :=
      ⟨w₁, .refl, rfl, (Function.update_idem _ _ _).symm, rfl⟩
    unfold Proxy.closed
    cases hsession : w.proxy.session? key with
    | none =>
      rw [hsession] at hbegun
      exact hbegun
    | some m =>
      rw [hsession] at hbegun
      have hturns := hbegun.turns
      rw [Option.map_some, Option.getD_some, Engine.loaded] at hturns
      unfold Engine.shutdown
      cases hs : w.proxy.engine.session? m with
      | none =>
        rw [hs] at hturns
        simp only [hs]
        exact hturns
      | some s =>
        rw [hs] at hturns
        simp only [hs, hkey m s hsession hs]
        exact hturns
  have hopened : w₁.Reaches key k (.sorted w.proxy.engine.sessions.length)
      (w.proxy.opened key) := by
    have hstarted := hclosed.next fun w' hproxy hlogin => by
      have hstep := Step.start hlogin
      rw [hproxy] at hstep
      exact ⟨_, hstep⟩
    have hsorted := hstarted.inits.next fun w' hproxy hlogin => by
      have hstep := Step.sort hlogin
      rw [hproxy] at hstep
      exact ⟨_, hstep⟩
    rw [← w.proxy.length_closed key]
    exact hsorted
  obtain ⟨w₂, hsteps, hproxy, hlogins, htasks⟩ := hopened
  have hlogin : w₂.logins key = some ⟨k, .sorted w.proxy.engine.sessions.length⟩ := by
    rw [hlogins, Function.update_self]
  have hinserted := Step.insert hlogin
  have hreleased := Step.release (w := { w₂.hold key k
    (.entered w.proxy.engine.sessions.length) w₂.proxy.engine none with
      proxy := w₂.proxy.setSession key w.proxy.engine.sessions.length })
    (Function.update_self key _ w₂.logins)
  refine ⟨_, (Relation.ReflTransGen.head hacquired (hsteps.tail hinserted)).tail hreleased, ?_, ?_,
    ?_⟩
  · rw [Proxy.addUser_eq]
    change (w₂.proxy.setSession key _).dropUnused = _
    rw [hproxy]
    rfl
  · rw [Proxy.addUser_eq]
    change w₂.tasks.modify k _ = w.tasks.modify k _
    rw [htasks]
    exact List.modify_modify_eq _ _ _ _
  · change Function.update (Function.update w₂.logins key _) key none = w.logins
    rw [hlogins, Function.update_idem, Function.update_idem]
    change Function.update (Function.update w.logins key _) key none = w.logins
    rw [Function.update_idem, Function.update_eq_self_iff, hfree]

end SwapSystem

end Intercept
