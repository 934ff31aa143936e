import Intercept.Proofs.Session.Mirror
import Intercept.Proxy.Basic
import Mathlib

/-!
# Journals

The journal of a proxy is told from its traffic alone: which exchanges are in progress, which
session is the current one of each identity, and which packets every session has received, as they
came from the client or from the server. No module has a part in it, and neither has the end of the
process, of which sessions are told in an order that is not settled. Traffic and module code may come
in any order (`ProxyStep`); a proxy agrees with its journal all the while (`Proxy.Agrees.run`): the
same identities have the same sessions, and the mirror of a session is what its packets tell.

Hence the main statement, `run_mirrors_eq_of_traffic`: two proxies that see the same traffic know
the same of every session, whatever their modules do, and a handler that looks at a session state is
shown what the packets of that session tell, the one that it is just being passed included.
-/

namespace Intercept

/-- What comes from outside. -/
inductive Traffic where
  | request (name : String) (r : Request)
  /-- The response of an exchange in progress. -/
  | response (name : String) (body : ByteArray)
  /-- The transport is done with an exchange. -/
  | finish (name : String)
  | start
  /-- The process ends. The sessions hear of it in the order of a rank of their identities. -/
  | shutdown (rank : SessionKey → Nat)

/-- A step of a proxy. -/
inductive ProxyStep (σ : Type) where
  | traffic (t : Traffic)
  /-- Some code of a module runs, outside of any packet. -/
  | code (program : Program σ)

/-- The traffic among some steps, but for the end of the process: it tells nothing of a proxy, and may
come at any time. -/
def ProxyStep.trafficOf {σ : Type} (steps : List (ProxyStep σ)) : List Traffic :=
  steps.filterMap fun
    | .traffic (.shutdown _) => none
    | .traffic t => some t
    | .code _ => none

/-- A packet that is dispatched: by which engine, in which session, and what it is. -/
structure PacketCall (σ : Type) where
  engine : Engine σ
  session : Nat
  op : String
  payload : ByteArray
  exchange : PacketMeta

namespace PacketCall

variable {σ : Type}

/-- The engine when the packet has passed. -/
def after (call : PacketCall σ) : Engine σ :=
  (call.engine.dispatch call.session call.op call.payload call.exchange).1

/-- The looks at session states that handlers take while the packet passes. -/
def reads (call : PacketCall σ) : List (Nat × Option Document) :=
  call.engine.dispatchReads call.session call.op call.payload call.exchange

end PacketCall

namespace Proxy

variable {σ γ : Type}

/-- A proxy as it is set up. -/
def setUp (config : EngineConfig) (filter : HostFilter) (registry : ModuleRegistry σ) (memory : σ)
    (listeners : Listeners) : Proxy σ γ :=
  { config, filter, registry, engine := { memory, listeners } }

/-- Handle what comes from outside. -/
def handle (p : Proxy σ γ) : Traffic → Proxy σ γ
  | .request name r => (p.handleRequest name r).1
  | .response name body =>
    match p.exchange? name with
    | none => p
    | some x => (p.handleResponse x body).1
  | .finish name => p.finish name
  | .start => p.start
  | .shutdown rank => p.shutdown rank

/-- Perform one step. -/
def step (p : Proxy σ γ) : ProxyStep σ → Proxy σ γ
  | .traffic t => p.handle t
  | .code program => { p with engine := (p.engine.run program).1 }

/-- Perform steps one after the other. -/
def run (p : Proxy σ γ) (steps : List (ProxyStep σ)) : Proxy σ γ := steps.foldl step p

/-- A start callback is run, and nothing else is done but to report its failure. -/
lemma runStart_eq (e : Engine σ) (callback : Program σ) :
    ∃ signals, (∀ c k, .count c k ∉ signals) ∧
      runStart e callback = (e.run callback).1.emit signals := by
  unfold runStart
  cases e.run callback with
  | mk e' outcome =>
    cases outcome with
    | finished output => exact ⟨[], by simp, by simp [Engine.emit]⟩
    | failed fault => exact ⟨_, by simp, rfl⟩

/-- The packet that is dispatched when something comes from outside, if one is. -/
def call? (p : Proxy σ γ) : Traffic → Option (PacketCall σ)
  | .request _ r =>
    let x := Exchange.ofRequest r
    let (cls, signals) := p.filter.classify r.host
    match cls with
    | .game region =>
      let (p, session) := (p.emit signals).route x.requestOp region r
      session.map fun n =>
        ⟨p.engine, n, x.requestOp, r.body, { x with requestData := some r.body }.packetMeta⟩
    | _ => none
  | .response name body =>
    match p.exchange? name with
    | none => none
    | some x =>
      if x.isBlocked then none
      else x.session.map fun n => ⟨p.engine, n, x.responseOp, body, x.packetMeta⟩
  | _ => none

/-- What is known of the current session of an identity. -/
def mirror? (p : Proxy σ γ) (key : SessionKey) : Option Mirror :=
  (p.session? key).bind fun n => p.engine.mirrors[n]?

end Proxy

/-! ### The journal -/

/-- What traffic tells of a proxy. -/
structure Journal where
  /-- The current session of each identity. -/
  table : List (SessionKey × Nat) := []
  /-- The exchanges in progress. -/
  exchanges : List (String × Exchange) := []
  /-- Of each session that was ever started its identity and the packets that it has received. -/
  sessions : List (SessionKey × List (String × ByteArray)) := []

namespace Journal

/-- The current session of an identity. -/
def session? (j : Journal) (key : SessionKey) : Option Nat :=
  (j.table.find? fun e => e.1 = key).map (·.2)

/-- The exchange in progress of a name. -/
def exchange? (j : Journal) (name : String) : Option Exchange :=
  (j.exchanges.find? fun e => e.1 = name).map (·.2)

/-- A user logs in: a new session becomes the current one. -/
def login (j : Journal) (key : SessionKey) : Journal :=
  let n := j.sessions.length
  { j with
    table :=
      if j.table.any fun e => e.1 = key then
        j.table.map fun e => if e.1 = key then (key, n) else e
      else j.table ++ [(key, n)]
    sessions := j.sessions ++ [(key, [])] }

/-- A session receives a packet. -/
def deliver (j : Journal) (n : Nat) (op : String) (payload : ByteArray) : Journal :=
  { j with sessions := j.sessions.modify n fun s => (s.1, s.2 ++ [(op, payload)]) }

/-- The session that a game request belongs to. -/
def route (c : EngineConfig) (j : Journal) (op region : String) (r : Request) :
    Journal × Option Nat :=
  match Identity.ofHeader r.uid with
  | .known uid => (j, j.session? ⟨region, uid⟩)
  | .garbled _ => (j, none)
  | .anonymous =>
    if op = c.proxy.loginOp then
      match (loginUid r.body).1 with
      | some uid => (j.login ⟨region, uid⟩, some j.sessions.length)
      | none => (j, none)
    else (j, none)

/-- Process the request of an exchange. -/
def request (c : EngineConfig) (f : HostFilter) (j : Journal) (r : Request) : Journal × Exchange :=
  let x := Exchange.ofRequest r
  match (f.classify r.host).1 with
  | .blocked => (j, { x with isBlocked := true })
  | .passThrough => (j, x)
  | .game region =>
    match j.route c x.requestOp region r with
    | (j, none) => (j, x)
    | (j, some n) =>
      (j.deliver n x.requestOp r.body, { x with requestData := some r.body, session := some n })

/-- Note what comes from outside. -/
def handle (c : EngineConfig) (f : HostFilter) (j : Journal) : Traffic → Journal
  | .request name r =>
    let (j, x) := j.request c f r
    { j with exchanges := (name, x) :: j.exchanges.filter fun e => e.1 ≠ name }
  | .response name body =>
    match j.exchange? name with
    | none => j
    | some x =>
      if x.isBlocked then j
      else
        match x.session with
        | none => j
        | some n => j.deliver n x.responseOp body
  | .finish name => { j with exchanges := j.exchanges.filter fun e => e.1 ≠ name }
  | .start => j
  | .shutdown _ => j

/-- The journal of some traffic. -/
def ofTraffic (c : EngineConfig) (f : HostFilter) (traffic : List Traffic) : Journal :=
  traffic.foldl (handle c f) {}

/-- What the packets of a session tell. -/
def mirrorOf (c : EngineConfig) (s : SessionKey × List (String × ByteArray)) : Mirror :=
  (Mirror.empty s.1 c.state).takeInAll s.2

/-- What is known of all sessions. -/
def mirrors (c : EngineConfig) (j : Journal) : List Mirror := j.sessions.map (mirrorOf c)

/-- A packet is taken in by the mirror of its session. -/
lemma mirrors_deliver (c : EngineConfig) (j : Journal) (n : Nat) (op : String)
    (payload : ByteArray) :
    (j.deliver n op payload).mirrors c = (j.mirrors c).modify n fun m => m.takeIn op payload := by
  refine map_modify ?_ j.sessions n
  intro s
  rw [mirrorOf, mirrorOf, Mirror.takeInAll, List.foldl_append]
  rfl

/-- A login adds an empty mirror. -/
lemma mirrors_login (c : EngineConfig) (j : Journal) (key : SessionKey) :
    (j.login key).mirrors c = j.mirrors c ++ [.empty key c.state] := List.map_append

end Journal

/-! ### Agreement -/

namespace Proxy

variable {σ γ : Type}

/-- A proxy agrees with a journal. -/
structure Agrees (c : EngineConfig) (f : HostFilter) (p : Proxy σ γ) (j : Journal) : Prop where
  config : p.config = c
  filter : p.filter = f
  table : p.table = j.table
  exchanges : p.exchanges = j.exchanges
  mirrors : p.engine.mirrors = j.mirrors c

/-- Ending the life of sessions changes no mirror. -/
lemma mirrors_dropUnused (p : Proxy σ γ) : p.dropUnused.engine.mirrors = p.engine.mirrors := by
  refine List.ext_getElem? fun n => ?_
  rw [dropUnused, Engine.mirrors, Engine.mirrors, List.getElem?_map, List.getElem?_mapIdx,
    List.getElem?_map]
  cases p.engine.sessions[n]? <;> rfl

namespace Agrees

variable {c : EngineConfig} {f : HostFilter} {p : Proxy σ γ} {j : Journal}

/-- What changes no mirror keeps the agreement. -/
lemma of_engine (h : Agrees c f p j) {e : Engine σ} (hmirrors : e.mirrors = p.engine.mirrors) :
    Agrees c f { p with engine := e } j :=
  { h with mirrors := hmirrors.trans h.mirrors }

/-- Ending the life of sessions keeps the agreement. -/
lemma dropUnused (h : Agrees c f p j) : Agrees c f p.dropUnused j :=
  h.of_engine p.mirrors_dropUnused

/-- The current session of an identity is that of the journal. -/
lemma session? (h : Agrees c f p j) (key : SessionKey) : p.session? key = j.session? key := by
  rw [Proxy.session?, Journal.session?, h.table]

/-- The exchange of a name is that of the journal. -/
lemma exchange? (h : Agrees c f p j) (name : String) : p.exchange? name = j.exchange? name := by
  rw [Proxy.exchange?, Journal.exchange?, h.exchanges]

/-- As many sessions were started as the journal says. -/
lemma length_sessions (h : Agrees c f p j) {e : Engine σ}
    (hmirrors : e.mirrors = p.engine.mirrors) : e.sessions.length = j.sessions.length := by
  have hlength := congrArg List.length (hmirrors.trans h.mirrors)
  rwa [Engine.mirrors, Journal.mirrors, List.length_map, List.length_map] at hlength

/-- A login keeps the agreement. -/
lemma addUser (h : Agrees c f p j) (key : SessionKey) :
    Agrees c f (p.addUser key).1 (j.login key) ∧ (p.addUser key).2 = j.sessions.length := by
  obtain ⟨e, hmirrors, hadd⟩ : ∃ e : Engine σ, e.mirrors = p.engine.mirrors ∧
      p.addUser key =
        (({ p with
            engine := ((e.emit [.count .sessionsCreated 1]).startSession key p.config.state
              p.registry).1 }.setSession key e.sessions.length).dropUnused, e.sessions.length) := by
    rw [Proxy.addUser]
    cases p.session? key with
    | none => exact ⟨p.engine, rfl, rfl⟩
    | some old =>
      exact ⟨p.engine.shutdown old false,
        Engine.enduring_mirrors.shutdown p.engine old false, rfl⟩
  have hnumber : e.sessions.length = j.sessions.length := h.length_sessions hmirrors
  rw [hadd]
  refine ⟨Agrees.dropUnused ⟨h.config, h.filter, ?_, h.exchanges, ?_⟩, hnumber⟩
  · rw [Journal.login, ← hnumber, ← h.table]
    rfl
  · rw [Journal.mirrors_login, ← h.mirrors, ← hmirrors, ← h.config]
    exact Engine.mirrors_startSession _ key p.config.state p.registry

/-- A packet that is dispatched keeps the agreement. -/
lemma dispatch (h : Agrees c f p j) (n : Nat) (op : String) (payload : ByteArray)
    (exchange : PacketMeta) :
    Agrees c f { p with engine := (p.engine.dispatch n op payload exchange).1 }
      (j.deliver n op payload) where
  config := h.config
  filter := h.filter
  table := h.table
  exchanges := h.exchanges
  mirrors := by
    rw [Journal.mirrors_deliver, ← h.mirrors]
    exact p.engine.mirrors_dispatch n op payload exchange

/-- Finding the session of a request keeps the agreement. -/
lemma route (h : Agrees c f p j) (op region : String) (r : Request) :
    Agrees c f (p.route op region r).1 (j.route c op region r).1 ∧
      (p.route op region r).2 = (j.route c op region r).2 := by
  unfold Proxy.route Journal.route
  cases Identity.ofHeader r.uid with
  | known uid => exact ⟨h, h.session? _⟩
  | garbled text => exact ⟨h.of_engine rfl, rfl⟩
  | anonymous =>
    simp only [h.config]
    split_ifs
    · cases hlogin : loginUid r.body with
      | mk uid? signals =>
        cases uid? with
        | none => exact ⟨h.of_engine rfl, rfl⟩
        | some uid =>
          have hemit : Agrees c f (p.emit signals) j := h.of_engine rfl
          obtain ⟨hlogin, hnumber⟩ := hemit.addUser ⟨region, uid⟩
          exact ⟨hlogin, congrArg some hnumber⟩
    · exact ⟨h, rfl⟩

/-- Processing a request keeps the agreement, and its exchange is as the journal has it. -/
lemma processRequest (h : Agrees c f p j) (r : Request) :
    Agrees c f (p.processRequest r).1 (j.request c f r).1 ∧
      (p.processRequest r).2.1 = (j.request c f r).2 := by
  unfold Proxy.processRequest Journal.request
  simp only [h.filter]
  cases hclass : f.classify r.host with
  | mk cls signals =>
    have hemit : Agrees c f (p.emit signals) j := h.of_engine rfl
    cases cls with
    | blocked => exact ⟨hemit, rfl⟩
    | passThrough => exact ⟨hemit, rfl⟩
    | game region =>
      simp only
      obtain ⟨hroute, hsession⟩ := hemit.route (Exchange.ofRequest r).requestOp region r
      generalize (p.emit signals).route (Exchange.ofRequest r).requestOp region r = routed
        at hroute hsession
      generalize j.route c (Exchange.ofRequest r).requestOp region r = noted at hroute hsession
      obtain ⟨p', session⟩ := routed
      obtain ⟨j', session'⟩ := noted
      obtain rfl : session = session' := hsession
      cases session with
      | none => exact ⟨hroute, rfl⟩
      | some n => exact ⟨hroute.dispatch n _ r.body _, rfl⟩

/-- Keeping other exchanges keeps the agreement. -/
lemma keep (h : Agrees c f p j) (exchanges : List (String × Exchange)) :
    Agrees c f { p with exchanges }.dropUnused { j with exchanges } :=
  Agrees.dropUnused ⟨h.config, h.filter, h.table, rfl, h.mirrors⟩

/-- Whatever comes from outside keeps the agreement. -/
theorem handle (h : Agrees c f p j) (t : Traffic) : Agrees c f (p.handle t) (j.handle c f t) := by
  cases t with
  | request name r =>
    obtain ⟨hprocessed, hexchange⟩ := h.processRequest r
    rw [Proxy.handle, Proxy.handleRequest, Journal.handle]
    simp only
    rw [hexchange, hprocessed.exchanges]
    exact hprocessed.keep _
  | response name body =>
    rw [Proxy.handle, Journal.handle, h.exchange?]
    cases j.exchange? name with
    | none => exact h
    | some x =>
      simp only [Proxy.handleResponse]
      split_ifs
      · exact h
      · cases x.session with
        | none => exact h
        | some n => exact h.dispatch n x.responseOp body x.packetMeta
  | finish name =>
    rw [Proxy.handle, Journal.handle, Proxy.finish, h.exchanges]
    exact h.keep _
  | start =>
    rw [Proxy.handle, Journal.handle, Proxy.start]
    split_ifs
    · exact h
    · have hstart : ∀ (e : Engine σ) callback, (runStart e callback).mirrors = e.mirrors := by
        intro e callback
        obtain ⟨signals, -, heq⟩ := runStart_eq e callback
        rw [heq]
        exact e.mirrors_run callback
      have hmirrors := Engine.view_foldl id hstart p.registry.onStart p.engine
      exact ⟨h.config, h.filter, h.table, h.exchanges, hmirrors.trans h.mirrors⟩
  | shutdown rank =>
    rw [Proxy.handle, Journal.handle, Proxy.shutdown]
    refine h.of_engine (Engine.view_foldl id ?_ (p.arranged rank) p.engine)
    exact fun e entry => Engine.enduring_mirrors.shutdown e entry.2 true

/-- Every step keeps the agreement; module code leaves the journal as it is. -/
lemma step (h : Agrees c f p j) (s : ProxyStep σ) :
    Agrees c f (p.step s) ((ProxyStep.trafficOf [s]).foldl (Journal.handle c f) j) := by
  cases s with
  | traffic t =>
    have hhandled := h.handle t
    cases t <;> exact hhandled
  | code program => exact h.of_engine (p.engine.mirrors_run program)

/-- A proxy agrees with the journal of its traffic all the while. -/
theorem run (h : Agrees c f p j) (steps : List (ProxyStep σ)) :
    Agrees c f (p.run steps)
      ((ProxyStep.trafficOf steps).foldl (Journal.handle c f) j) := by
  induction steps generalizing p j with
  | nil => exact h
  | cons s steps ih =>
    have hsplit : ProxyStep.trafficOf (s :: steps) =
        ProxyStep.trafficOf [s] ++ ProxyStep.trafficOf steps :=
      List.filterMap_append (l := [s])
    rw [hsplit, List.foldl_append]
    exact ih (h.step s)

/-- A proxy that has just been set up agrees with the empty journal. -/
lemma setUp (c : EngineConfig) (f : HostFilter) (registry : ModuleRegistry σ) (memory : σ)
    (ls : Listeners) : Agrees c f (Proxy.setUp c f registry memory ls : Proxy σ γ) {} :=
  ⟨rfl, rfl, rfl, rfl, rfl⟩

/-- A packet that is dispatched leaves the mirrors as the proxy then has them, and is the last one
in the journal of its session. -/
lemma handle_of_call? (h : Agrees c f p j) {t : Traffic} {call : PacketCall σ}
    (hcall : p.call? t = some call) :
    (p.handle t).engine.mirrors = call.after.mirrors ∧
      ∃ sessions : List (SessionKey × List (String × ByteArray)),
        (j.handle c f t).sessions =
          sessions.modify call.session fun s => (s.1, s.2 ++ [(call.op, call.payload)]) := by
  cases t with
  | request name r =>
    rw [Proxy.call?] at hcall
    rw [Proxy.handle, Proxy.handleRequest, Proxy.processRequest, Journal.handle, Journal.request]
    simp only [h.filter] at hcall ⊢
    cases hclass : f.classify r.host with
    | mk cls signals =>
      rw [hclass] at hcall
      cases cls with
      | blocked => contradiction
      | passThrough => contradiction
      | game region =>
        have hemit : Agrees c f (p.emit signals) j := h.of_engine rfl
        obtain ⟨-, hsession⟩ := hemit.route (Exchange.ofRequest r).requestOp region r
        simp only at hcall ⊢
        generalize (p.emit signals).route (Exchange.ofRequest r).requestOp region r = routed
          at hcall hsession
        generalize j.route c (Exchange.ofRequest r).requestOp region r = noted at hsession
        obtain ⟨p', session⟩ := routed
        obtain ⟨j', session'⟩ := noted
        obtain rfl : session = session' := hsession
        cases session with
        | none => contradiction
        | some n =>
          obtain rfl := Option.some.inj hcall
          exact ⟨mirrors_dropUnused _, j'.sessions, rfl⟩
  | response name body =>
    rw [Proxy.call?] at hcall
    rw [Proxy.handle, Journal.handle, ← h.exchange?]
    cases hx : p.exchange? name with
    | none =>
      rw [hx] at hcall
      contradiction
    | some x =>
      rw [hx] at hcall
      simp only [Proxy.handleResponse] at hcall ⊢
      split_ifs at hcall ⊢
      cases hn : x.session with
      | none =>
        rw [hn] at hcall
        contradiction
      | some n =>
        rw [hn] at hcall
        obtain rfl := Option.some.inj hcall
        exact ⟨rfl, j.sessions, rfl⟩
  | finish name => contradiction
  | start => contradiction
  | shutdown rank => contradiction

end Agrees

/-- Modules have no influence on what is known of session states. Two proxies of one configuration,
with any modules, any memory and any listeners of their own, see the same traffic; module code may
run besides at any time, and sessions may be told at any time, in any order, that the process ends.

* Every identity has the same session in both, and the same is known of its state, as of all
  sessions that were ever started.
* The mirror of a session is what its packets tell, as they came from the client or the server.
* When one more packet is dispatched, a handler that looks at a session state is shown what the
  packets of that session tell. If it is the session of the packet, this is the last of them. -/
theorem run_mirrors_eq_of_traffic {σ₁ σ₂ γ₁ γ₂ : Type} (c : EngineConfig) (f : HostFilter)
    (registry₁ : ModuleRegistry σ₁) (registry₂ : ModuleRegistry σ₂) (memory₁ : σ₁) (memory₂ : σ₂)
    (ls₁ ls₂ : Listeners) (steps₁ : List (ProxyStep σ₁)) (steps₂ : List (ProxyStep σ₂))
    (htraffic : ProxyStep.trafficOf steps₁ = ProxyStep.trafficOf steps₂) :
    let p₁ := (setUp c f registry₁ memory₁ ls₁ : Proxy σ₁ γ₁).run steps₁
    let p₂ := (setUp c f registry₂ memory₂ ls₂ : Proxy σ₂ γ₂).run steps₂
    let j := Journal.ofTraffic c f (ProxyStep.trafficOf steps₁)
    (∀ key, p₁.session? key = p₂.session? key ∧ p₁.mirror? key = p₂.mirror? key) ∧
    p₁.engine.mirrors = p₂.engine.mirrors ∧
    (∀ n : Nat, p₁.engine.mirrors[n]? = j.sessions[n]?.map fun s =>
      (Mirror.empty s.1 c.state).takeInAll s.2) ∧
    ∀ t call, p₁.call? t = some call → ∀ k d, (k, d) ∈ call.reads →
      ∃ key packets, (j.handle c f t).sessions[k]? = some (key, packets) ∧
        d = ((Mirror.empty key c.state).takeInAll packets).known ∧
        (k = call.session → ∃ earlier, packets = earlier ++ [(call.op, call.payload)]) := by
  intro p₁ p₂ j
  have h₁ : Agrees c f p₁ j := (Agrees.setUp c f registry₁ memory₁ ls₁).run steps₁
  have h₂ : Agrees c f p₂ j := by
    change Agrees c f p₂ (Journal.ofTraffic c f (ProxyStep.trafficOf steps₁))
    rw [htraffic]
    exact (Agrees.setUp c f registry₂ memory₂ ls₂).run steps₂
  have hmirrors : p₁.engine.mirrors = p₂.engine.mirrors := h₁.mirrors.trans h₂.mirrors.symm
  refine ⟨?_, hmirrors, ?_, ?_⟩
  · intro key
    have hsession : p₁.session? key = p₂.session? key :=
      (h₁.session? key).trans (h₂.session? key).symm
    exact ⟨hsession, by rw [mirror?, mirror?, hsession, hmirrors]⟩
  · intro n
    rw [h₁.mirrors, Journal.mirrors, List.getElem?_map]
    rfl
  · intro t call hcall k d hread
    obtain ⟨m, hm, rfl⟩ := Engine.mem_dispatchReads hread
    obtain ⟨hafter, sessions, hsessions⟩ := h₁.handle_of_call? hcall
    have hnoted : ((j.handle c f t).mirrors c)[k]? = some m := by
      rw [← (h₁.handle t).mirrors, hafter]
      exact hm
    rw [Journal.mirrors, List.getElem?_map] at hnoted
    obtain ⟨s, hs, rfl⟩ := Option.map_eq_some_iff.1 hnoted
    refine ⟨s.1, s.2, hs, rfl, ?_⟩
    rintro rfl
    rw [hsessions, List.getElem?_modify_eq] at hs
    obtain ⟨s', -, rfl⟩ := Option.map_eq_some_iff.1 hs
    exact ⟨s'.2, rfl⟩

/-- A user logs in at a proxy with a module that looks at the session state and then fails, and at
one without modules. The same is known in both, and when the response comes, the module is shown
what it tells. -/
theorem run_mirrors_eq_of_login :
    let c : EngineConfig :=
      { state := { snapshotOp := "S/account/login", snapshotKey := "u", deltaKey := "d" } }
    let f : HostFilter :=
      { deny := none, gameHost := .group 1 .empty, config := { regions := [("", "GL")] } }
    let module : ModuleDescriptor Nat :=
      ⟨"m", fun ctx => .hook ctx "*" 0 (fun _ => .inspect ctx fun _ => .fail .untyped)
        fun _ => .finish .empty⟩
    let login : Traffic := .request "x"
      { host := "h", path := "/account/login", body := "\x7b\"uid\":7\x7d".toUTF8 }
    let answer : Traffic := .response "x" "\x7b\"u\":1\x7d".toUTF8
    let p₁ := (setUp c f { modules := [module] } 0 [] : Proxy Nat Unit).run
      [.traffic login, .code (.fail .untyped)]
    let p₂ := (setUp c f {} () [] : Proxy Unit Unit).run [.traffic login]
    p₁.session? ⟨"GL", 7⟩ = some 0 ∧ p₁.mirror? ⟨"GL", 7⟩ = p₂.mirror? ⟨"GL", 7⟩ ∧
      ∃ call, p₁.call? answer = some call ∧ call.reads.map Prod.fst = [0] ∧
        ∀ d, (0, d) ∈ call.reads → ∃ key packets,
          d = ((Mirror.empty key c.state).takeInAll packets).known ∧
            ∃ earlier, packets = earlier ++ [(call.op, call.payload)] := by
  intro c f module login answer p₁ p₂
  obtain ⟨hkeys, -, -, hreads⟩ := @run_mirrors_eq_of_traffic Nat Unit Unit Unit c f
    { modules := [module] } {} 0 () [] [] [.traffic login, .code (.fail .untyped)]
    [.traffic login] rfl
  have hsession : p₁.session? ⟨"GL", 7⟩ = some 0 := by cbv
  have hlook : (p₁.call? answer).map (fun call => (call.session, call.reads.map Prod.fst)) =
      some (0, [0]) := by cbv
  obtain ⟨call, hcall, heq⟩ := Option.map_eq_some_iff.1 hlook
  obtain ⟨hown, hfst⟩ := Prod.mk.inj heq
  refine ⟨hsession, (hkeys ⟨"GL", 7⟩).2, call, hcall, hfst, fun d hd => ?_⟩
  obtain ⟨key, packets, -, hknown, hlast⟩ := hreads answer call hcall 0 d hd
  exact ⟨key, packets, hknown, hlast hown.symm⟩

end Proxy

end Intercept
