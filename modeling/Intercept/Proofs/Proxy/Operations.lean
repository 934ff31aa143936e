import Intercept.Proofs.Proxy.Step
import Intercept.Proofs.Session.Activity

/-!
# The operations in a run

What is done in a step of a proxy is told by definitions that stand beside those that perform it: the
activities of modules (`Proxy.stepActivity`), and the packet that is dispatched (`Proxy.call?`). Both
are about the same operations, which the engine performs one after the other. `Engine.Performs` says
so: from one engine to another there is a sequence of operations, the activities are those of these
operations, and the packets are those that are dispatched among them, each by the engine that the
operations before it have left.

Every step of a proxy performs operations in this way, and so does every run (`step_performs`,
`run_performs`). Whatever is known of the operations of an engine is therefore known of a record.
-/

namespace Intercept

variable {σ : Type}

/-- Steps that bring nothing. -/
lemma gather_nil {α β γ : Type} (step : β → α → β) (w : β) (xs : List α) :
    gather step (fun _ _ => ([] : List γ)) w xs = [] := by
  induction xs generalizing w with
  | nil => rfl
  | cons x xs ih => rw [gather, ih, List.append_nil]

/-- Something that the engine of a proxy performs. -/
inductive Operation (σ : Type) where
  /-- Some code of a module runs. -/
  | code (program : Program σ)
  /-- A session is started. -/
  | start (key : SessionKey) (config : StateConfig) (registry : ModuleRegistry σ)
  /-- A packet of a session is dispatched. -/
  | dispatch (n : Nat) (op : String) (payload : ByteArray) (exchange : PacketMeta)
  /-- A session is shut down. -/
  | shutdown (n : Nat) (processEnds : Bool)
  | emit (signals : List Signal)
  /-- The life of all sessions ends but for some that are kept. -/
  | endLife (kept : Nat → Bool)

namespace Engine

/-! ### Operations -/

/-- End the life of all sessions but for some that are kept. -/
def endLife (e : Engine σ) (kept : Nat → Bool) : Engine σ :=
  { e with sessions := e.sessions.mapIdx fun n s => { s with isAlive := s.isAlive && kept n } }

/-- Perform an operation. -/
def perform (e : Engine σ) : Operation σ → Engine σ
  | .code program => (e.run program).1
  | .start key config registry => (e.startSession key config registry).1
  | .dispatch n op payload exchange => (e.dispatch n op payload exchange).1
  | .shutdown n processEnds => e.shutdown n processEnds
  | .emit signals => e.emit signals
  | .endLife kept => e.endLife kept

/-- What is done in an operation. -/
def performActivity (e : Engine σ) : Operation σ → List (Activity σ)
  | .code program => e.activity program
  | .start key config registry => e.startActivity key config registry
  | .dispatch n op payload exchange => e.dispatchActivity n op payload exchange
  | .shutdown n processEnds => e.shutdownActivity n processEnds
  | _ => []

/-- The packet that is dispatched in an operation. -/
def performCalls (e : Engine σ) : Operation σ → List (PacketCall σ)
  | .dispatch n op payload exchange => [⟨e, n, op, payload, exchange⟩]
  | _ => []

/-- Ending the life of sessions leaves the slots of contexts alone. -/
lemma slots_endLife (e : Engine σ) (kept : Nat → Bool) : (e.endLife kept).slots = e.slots := by
  funext ctx
  unfold slots context? session? endLife
  rw [List.getElem?_mapIdx]
  cases e.sessions[ctx.session]? with
  | none => rfl
  | some s => cases hc : s.contexts[ctx.index]? <;> simp [hc]

/-- Every operation is orderly. -/
theorem perform_orderly (e : Engine σ) (operation : Operation σ) :
    Orderly e.slots (e.performActivity operation) (e.perform operation).slots := by
  cases operation with
  | code program => exact run_orderly program e
  | start key config registry => exact e.start_orderly key config registry
  | dispatch n op payload exchange => exact e.dispatch_orderly n op payload exchange
  | shutdown n processEnds => exact e.shutdown_orderly n processEnds
  | emit signals => exact .done _
  | endLife kept =>
    rw [perform, slots_endLife]
    exact .done _

/-! ### Operations one after the other -/

/-- An engine becomes another one by some operations. Activities are done in them, and packets are
dispatched. -/
inductive Performs :
    Engine σ → List (Activity σ) → List (PacketCall σ) → Engine σ → Prop where
  | nothing (e : Engine σ) : Performs e [] [] e
  | step {e e' : Engine σ} {activities : List (Activity σ)} {calls : List (PacketCall σ)}
      (operation : Operation σ) :
      Performs (e.perform operation) activities calls e' →
      Performs e (e.performActivity operation ++ activities) (e.performCalls operation ++ calls) e'

namespace Performs

variable {e e' e'' : Engine σ} {activities more : List (Activity σ)}
  {calls others : List (PacketCall σ)}

/-- Operations after other ones. -/
theorem trans (h : Performs e activities calls e') (h' : Performs e' more others e'') :
    Performs e (activities ++ more) (calls ++ others) e'' := by
  induction h with
  | nothing e => exact h'
  | step operation _ ih =>
    rw [List.append_assoc, List.append_assoc]
    exact .step operation (ih h')

/-- A single operation. -/
lemma single (e : Engine σ) (operation : Operation σ) :
    Performs e (e.performActivity operation) (e.performCalls operation) (e.perform operation) := by
  have hstep := Performs.step operation (.nothing (e.perform operation))
  rwa [List.append_nil, List.append_nil] at hstep

/-- One more operation, in which nothing is done and no packet is dispatched. -/
lemma quietly (h : Performs e activities calls e') (operation : Operation σ)
    (hactivity : e'.performActivity operation = []) (hcalls : e'.performCalls operation = []) :
    Performs e activities calls (e'.perform operation) := by
  have hmore := h.trans (.single e' operation)
  rwa [hactivity, hcalls, List.append_nil, List.append_nil] at hmore

/-- Signals are emitted at the end. -/
lemma emit (h : Performs e activities calls e') (signals : List Signal) :
    Performs e activities calls (e'.emit signals) :=
  h.quietly (.emit signals) rfl rfl

/-- The life of sessions ends at the end. -/
lemma endLife (h : Performs e activities calls e') (kept : Nat → Bool) :
    Performs e activities calls (e'.endLife kept) :=
  h.quietly (.endLife kept) rfl rfl

/-- If operations are performed in each step, they are in all of them. -/
lemma foldl {α β : Type} (view : β → Engine σ) {step : β → α → β}
    {activities : β → α → List (Activity σ)} {calls : β → α → List (PacketCall σ)}
    (h : ∀ w x, Performs (view w) (activities w x) (calls w x) (view (step w x))) (xs : List α)
    (w : β) :
    Performs (view w) (gather step activities w xs) (gather step calls w xs)
      (view (xs.foldl step w)) := by
  induction xs generalizing w with
  | nil => exact .nothing _
  | cons x xs ih => exact (h w x).trans (ih (step w x))

/-- The same for steps in which no packet is dispatched. -/
lemma foldl_quiet {α : Type} {step : Engine σ → α → Engine σ}
    {activities : Engine σ → α → List (Activity σ)}
    (h : ∀ e x, Performs e (activities e x) [] (step e x)) (xs : List α) (e : Engine σ) :
    Performs e (gather step activities e xs) [] (xs.foldl step e) := by
  have hsteps := foldl id h xs e
  rwa [gather_nil] at hsteps

/-- What is done in operations is orderly. -/
theorem orderly (h : Performs e activities calls e') : Orderly e.slots activities e'.slots := by
  induction h with
  | nothing e => exact .done _
  | @step e _ _ _ operation _ ih => exact (e.perform_orderly operation).trans ih

/-- Every packet is dispatched in the course of the operations: some come before it and lead to the
engine that dispatches it, and the others begin when it has passed. -/
theorem split_of_mem (h : Performs e activities calls e') {call : PacketCall σ}
    (hcall : call ∈ calls) :
    ∃ before after earlier later, calls = earlier ++ call :: later ∧
      activities = before ++ call.engine.dispatchActivity call.session call.op call.payload
        call.exchange ++ after ∧
      Performs e before earlier call.engine ∧ Performs call.after after later e' := by
  induction h with
  | nothing e => contradiction
  | @step e e' activities calls operation hrest ih =>
    rcases List.mem_append.1 hcall with hfirst | hlater
    · cases operation with
      | dispatch n op payload exchange =>
        obtain rfl := List.mem_singleton.1 hfirst
        exact ⟨[], activities, [], calls, rfl, rfl, .nothing e, hrest⟩
      | _ => contradiction
    · obtain ⟨before, after, earlier, later, rfl, rfl, hbefore, hafter⟩ := ih hlater
      refine ⟨e.performActivity operation ++ before, after, e.performCalls operation ++ earlier,
        later, ?_, ?_, .step operation hbefore, hafter⟩
      · rw [List.append_assoc]
      · simp only [List.append_assoc]

end Performs

end Engine

namespace Proxy

variable {γ : Type}

/-! ### What a step contributes -/

/-- What is done when the session of an identity gives way to a new one. -/
def closingActivity (p : Proxy σ γ) (key : SessionKey) : List (Activity σ) :=
  match p.session? key with
  | none => []
  | some old => p.engine.shutdownActivity old false

/-- What is done in a login, up to its packet. -/
def loginActivity (p : Proxy σ γ) (key : SessionKey) : List (Activity σ) :=
  p.closingActivity key ++
    ((p.closed key).emit [.count .sessionsCreated 1]).startActivity key p.config.state p.registry

/-- What is done when a request is dispatched in a session. -/
def forwardActivity (p : Proxy σ γ) (n : Nat) (r : Request) : List (Activity σ) :=
  p.engine.dispatchActivity n (r.exchangeIn n).requestOp r.body (r.exchangeIn n).packetMeta

/-- What is done when a request is processed. -/
def requestActivity (p : Proxy σ γ) (r : Request) : List (Activity σ) :=
  match r.destination p.config p.filter with
  | .login key =>
    p.loginActivity key ++ (p.addUser key).1.forwardActivity (p.addUser key).2 r
  | .current key =>
    match p.session? key with
    | none => []
    | some n => p.forwardActivity n r
  | .nowhere _ => []

/-- What is done when the response of an exchange is processed. -/
def responseActivity (p : Proxy σ γ) (x : Exchange) (body : ByteArray) : List (Activity σ) :=
  if x.isBlocked then []
  else
    match x.session with
    | none => []
    | some n => p.engine.dispatchActivity n x.responseOp body x.packetMeta

/-- What is done when the current sessions of some identities are shut down. -/
def shutdownsActivity (e : Engine σ) (table : List (SessionKey × Nat)) : List (Activity σ) :=
  gather (fun (e : Engine σ) entry => e.shutdown entry.2 true)
    (fun e entry => e.shutdownActivity entry.2 true) e table

/-- What is done in one step. -/
def stepActivity (p : Proxy σ γ) : ProxyStep σ → List (Activity σ)
  | .traffic (.request _ r) => p.requestActivity r
  | .traffic (.response name body) =>
    match p.exchange? name with
    | none => []
    | some x => p.responseActivity x body
  | .traffic (.finish _) => []
  | .traffic .start =>
    if p.isStarted then [] else gather runStart Engine.activity p.engine p.registry.onStart
  | .traffic (.shutdown rank) => shutdownsActivity p.engine (p.arranged rank)
  | .code program => p.engine.activity program

/-- The packet that is dispatched in one step, if one is. -/
def stepCalls (p : Proxy σ γ) : ProxyStep σ → List (PacketCall σ)
  | .traffic t => (p.call? t).toList
  | .code _ => []

/-- All that is done while some steps are performed. -/
def record (p : Proxy σ γ) (steps : List (ProxyStep σ)) : List (Activity σ) :=
  gather step stepActivity p steps

/-- All packets that are dispatched while some steps are performed. -/
def calls (p : Proxy σ γ) (steps : List (ProxyStep σ)) : List (PacketCall σ) :=
  gather step stepCalls p steps

/-! ### Steps perform operations -/

/-- The packet of a request that is dispatched in a session. -/
def forwarded (p : Proxy σ γ) (n : Nat) (r : Request) : PacketCall σ :=
  ⟨p.engine, n, (r.exchangeIn n).requestOp, r.body, (r.exchangeIn n).packetMeta⟩

/-- Which packet is dispatched for a request depends on its destination. -/
lemma call?_request (p : Proxy σ γ) (name : String) (r : Request) :
    p.call? (.request name r) =
      match r.destination p.config p.filter with
      | .login key => some ((p.addUser key).1.forwarded (p.addUser key).2 r)
      | .current key => (p.session? key).map fun n => p.forwarded n r
      | .nowhere _ => none := by
  have hquiet := (p.filter.classify_signals r.host).1
  obtain ⟨cls, signals, hclass⟩ : ∃ cls signals, p.filter.classify r.host = (cls, signals) :=
    ⟨_, _, rfl⟩
  rw [hclass] at hquiet
  simp only [call?, Request.destination, hclass]
  cases cls with
  | blocked => rfl
  | passThrough => rfl
  | game region =>
    obtain rfl : signals = [] := hquiet region rfl
    simp only [emit_nil]
    rcases p.route_cases region r with
      ⟨key, hdest, hroute⟩ | ⟨key, hdest, hroute⟩ | ⟨hdest, signals, -, hroute⟩
    · rw [hroute, hdest]
      rfl
    · rw [hroute, hdest]
      rfl
    · rw [hroute, hdest]
      rfl

/-- A login performs operations: the session of the identity is shut down, if there is one, the new one
is started, and the life of the old one ends unless an exchange keeps it. -/
lemma addUser_performs (p : Proxy σ γ) (key : SessionKey) :
    p.engine.Performs (p.loginActivity key) [] (p.addUser key).1.engine := by
  have hclosing : p.engine.Performs (p.closingActivity key) [] (p.closed key) := by
    unfold closingActivity closed
    cases p.session? key with
    | none => exact .nothing _
    | some old => exact .single p.engine (.shutdown old false)
  have hopening := (hclosing.emit [.count .sessionsCreated 1]).trans
    (.single _ (.start key p.config.state p.registry))
  rw [addUser_eq]
  exact hopening.endLife _

/-- A request that is processed performs operations. -/
lemma processRequest_performs (p : Proxy σ γ) (name : String) (r : Request) :
    p.engine.Performs (p.requestActivity r) (p.call? (.request name r)).toList
      (p.processRequest r).1.engine := by
  rw [call?_request]
  unfold requestActivity
  rcases p.processRequest_cases r with
    ⟨key, hdest, heq⟩ | ⟨key, n, hdest, hsession, heq⟩ | ⟨isBlocked, hdest, signals, -, heq⟩
  · rw [heq, hdest]
    exact (p.addUser_performs key).trans (.single (p.addUser key).1.engine (.dispatch _ _ _ _))
  · rw [heq, hdest]
    simp only [hsession]
    exact .single p.engine (.dispatch n _ r.body _)
  · have hemit := (Engine.Performs.nothing p.engine).emit signals
    rw [heq]
    rcases hdest with hdest | ⟨-, key, hdest, hsession⟩
    · rw [hdest]
      exact hemit
    · rw [hdest]
      simp only [hsession]
      exact hemit

/-- A start callback performs operations. -/
lemma runStart_performs (e : Engine σ) (callback : Program σ) :
    e.Performs (e.activity callback) [] (runStart e callback) := by
  have hrun : e.Performs (e.activity callback) [] (e.run callback).1 := .single e (.code callback)
  obtain ⟨signals, -, heq⟩ := runStart_eq e callback
  rw [heq]
  exact hrun.emit signals

/-- Every step performs operations, in which its activities are done and its packet is dispatched. -/
theorem step_performs (p : Proxy σ γ) (s : ProxyStep σ) :
    p.engine.Performs (p.stepActivity s) (p.stepCalls s) (p.step s).engine := by
  cases s with
  | code program => exact .single p.engine (.code program)
  | traffic t =>
    cases t with
    | request name r => exact (p.processRequest_performs name r).endLife _
    | response name body =>
      rw [step, handle, stepActivity, stepCalls, call?]
      cases p.exchange? name with
      | none => exact .nothing _
      | some x =>
        simp only [responseActivity, handleResponse]
        split_ifs
        · exact .nothing _
        · cases x.session with
          | none => exact .nothing _
          | some n => exact .single p.engine (.dispatch n x.responseOp body x.packetMeta)
    | finish name => exact (Engine.Performs.nothing p.engine).endLife _
    | start =>
      rw [step, handle, start, stepActivity]
      split_ifs
      · exact .nothing _
      · exact .foldl_quiet runStart_performs p.registry.onStart p.engine
    | shutdown rank =>
      refine .foldl_quiet ?_ (p.arranged rank) p.engine
      exact fun e entry => .single e (.shutdown entry.2 true)

/-- Every run performs operations, in which what is recorded is done and the packets of the run are
dispatched. -/
theorem run_performs (p : Proxy σ γ) (steps : List (ProxyStep σ)) :
    p.engine.Performs (p.record steps) (p.calls steps) (p.run steps).engine :=
  .foldl (fun p : Proxy σ γ => p.engine) step_performs steps p

end Proxy

end Intercept
