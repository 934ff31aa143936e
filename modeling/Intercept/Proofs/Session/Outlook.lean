import Intercept.Proofs.Session.Activity
import Intercept.Proofs.Session.Reduction

/-!
# What is seen of a session

From outside, a session is seen by what comes out of it and by what it shows. Packets are dispatched
in it, its modules have hooks removed, events are taken from listeners, and it is shut down
(`SessionStep`). Each of these lets something be seen (`Sight`): a payload and the events that were
sent to listeners or lost on the way, the events taken, which callbacks ran and how they ended.
Afterwards the session shows its modules, how many hooks it has, its state, how many events were
lost, and what its listeners hold (`Outlook`).

Nothing of this shows a number. Main statement: two sessions that differ in numbers and in some
missing modules only look the same at every step (`Reduces.watch`).
-/

namespace Intercept

variable {σ : Type}

/-- Something that happens to a session after its start. Hooks are named by the module that they
belong to, as the session lists its modules, and by how many of its kind the module had registered
before. -/
inductive SessionStep where
  | packet (op : String) (payload : ByteArray) (exchange : PacketMeta)
  /-- A module's packet hook is removed. -/
  | unhook (module hook : Nat) (label : HookLabel)
  /-- A module's path hook is removed. -/
  | unhookPath (module hook : Nat) (path : String)
  /-- Events are taken from a listener, at most `max` if a limit is given. -/
  | drain (listener : String) (max : Option Nat)
  /-- The receiving end of a listener is dropped. -/
  | close (listener : String)
  | shutdown (processEnds : Bool)

/-- An event for a listener, and what became of it. -/
structure Sending where
  listener : String
  event : Event
  outcome : Offer

/-- What is seen of an attempt to send an event, which is all but the hook. -/
def Attempt.sending (a : Attempt) : Sending := ⟨a.hook.listener, a.event, a.outcome⟩

/-- What is seen when something happens to a session. -/
inductive Sight where
  | nothing
  /-- What a packet has become, and the events that were sent for it. -/
  | payload (output : ByteArray) (sendings : List Sending)
  | events (events : List Event)
  /-- The callbacks that ran, by module, and how they ended. -/
  | farewells (callbacks : List (String × Outcome))

/-- What a session shows. -/
structure Outlook where
  moduleNames : List String
  hookCount : Nat
  /-- How many path hooks are installed. -/
  pathHookCount : Nat
  state : Option Document
  /-- How many events have been lost to full listeners. -/
  dropped : Nat
  listeners : Listeners

/-- The context of a module, as the session lists its modules. -/
def Session.member? (s : Session σ) (module : Nat) : Option (Context σ) :=
  s.modules[module]?.bind fun i => s.contexts[i]?

/-- What a step does to the listeners if it is one of the receivers. -/
def SessionStep.receive (ls : Listeners) : SessionStep → Listeners
  | drain listener max => ls.update listener fun l => (l.take max).2
  | close listener => ls.update listener (·.close)
  | _ => ls

/-- Receivers do the same to listeners that agree. -/
lemma Listeners.Agree.receive {own : String → Bool} {ls ls' : Listeners} (h : ls.Agree own ls')
    (step : SessionStep) : (step.receive ls).Agree own (step.receive ls') := by
  cases step with
  | drain listener max => exact h.update listener fun l => (l.take max).2
  | close listener => exact h.update listener (·.close)
  | packet op payload exchange => exact h
  | unhook module hook label => exact h
  | unhookPath module hook path => exact h
  | shutdown processEnds => exact h

namespace Engine

/-- What a session shows. -/
def outlook? (e : Engine σ) (n : Nat) : Option Outlook := (e.session? n).map fun s =>
  ⟨s.moduleNames, s.hookCount, s.store.hookCount, s.store.loaded?, s.store.dropped, e.listeners⟩

/-- The events that are sent for a packet, in their order, and what becomes of each of them. A
listener has lost those of its events that met it full, and `Store.ingest_offers` says that they are
the ones that the store counts. -/
def sendings (e : Engine σ) (n : Nat) (op : String) (payload : ByteArray) : List Sending :=
  ((e.session? n).map fun s =>
    (s.store.offers e.listeners op payload).1.map Attempt.sending).getD []

/-- The callback that runs at the turn of a context in a shutdown, and how it ends. -/
def farewell (n : Nat) (processEnds : Bool) (e : Engine σ) (i : Nat) : List (String × Outcome) :=
  (((e.context? ⟨n, i⟩).bind fun (_, c) => c.shutdown.map fun callback =>
    (c.module, ((e.takeShutdown n i).run (callback processEnds)).2)) : Option _).toList

/-- The callbacks that run in a shutdown, and how they end. -/
def farewells (e : Engine σ) (n : Nat) (processEnds : Bool) : List (String × Outcome) :=
  match e.session? n with
  | none => []
  | some s => gather (shutdownModule n s.key processEnds) (farewell n processEnds) e s.modules

/-- A module's packet hook is removed. -/
def unhookOf (e : Engine σ) (n module hook : Nat) (label : HookLabel) : Engine σ :=
  match (e.session? n).bind fun s => (s.member? module).bind fun c => c.hooks[hook]? with
  | none => e
  | some id => e.unhook ⟨n, id, label⟩

/-- A module's path hook is removed. -/
def unhookPathOf (e : Engine σ) (n module hook : Nat) (path : String) : Engine σ :=
  match (e.session? n).bind fun s => (s.member? module).bind fun c =>
    c.pathHooks[hook]?.map fun id => (id, c.module) with
  | none => e
  | some (id, name) => e.unhookPath ⟨n, id, path, name⟩

/-- Something happens to a session. Answers what is seen of it. -/
def happen (n : Nat) (e : Engine σ) : SessionStep → Engine σ × Sight
  | .packet op payload exchange =>
    let (e', output) := e.dispatch n op payload exchange
    (e', .payload output (e.sendings n op payload))
  | .unhook module hook label => (e.unhookOf n module hook label, .nothing)
  | .unhookPath module hook path => (e.unhookPathOf n module hook path, .nothing)
  | .drain listener max =>
    ({ e with listeners := e.listeners.update listener fun l => (l.take max).2 },
      .events (((e.listeners.find? listener).map fun l => (l.take max).1).getD []))
  | .close listener => ({ e with listeners := e.listeners.update listener (·.close) }, .nothing)
  | .shutdown processEnds => (e.shutdown n processEnds, .farewells (e.farewells n processEnds))

/-- The engine after several things have happened to a session. -/
def live (n : Nat) (e : Engine σ) (steps : List SessionStep) : Engine σ :=
  steps.foldl (fun e step => (e.happen n step).1) e

/-- What is seen while several things happen to a session, and what it shows after each of them. -/
def watch (n : Nat) (e : Engine σ) (steps : List SessionStep) : List (Sight × Option Outlook) :=
  gather (fun e step => (happen n e step).1)
    (fun e step => [((e.happen n step).2, (e.happen n step).1.outlook? n)]) e steps

namespace Grows

/-- Something happens to a session. -/
lemma happen (n : Nat) (e : Engine σ) (step : SessionStep) : Grows n e (e.happen n step).1 := by
  cases step with
  | packet op payload exchange => exact dispatch n e n op payload exchange
  | unhook module hook label =>
    change Grows n e (e.unhookOf n module hook label)
    unfold unhookOf
    split
    · exact refl n e
    · exact unhook n e _
  | unhookPath module hook path =>
    change Grows n e (e.unhookPathOf n module hook path)
    unfold unhookPathOf
    split
    · exact refl n e
    · exact unhookPath n e _
  | drain listener max => exact of_eq rfl rfl
  | close listener => exact of_eq rfl rfl
  | shutdown processEnds => exact shutdown n e n processEnds

/-- Several things happen to a session. -/
lemma live (n : Nat) (e : Engine σ) (steps : List SessionStep) : Grows n e (e.live n steps) :=
  foldl id (fun e step => happen n e step) steps e

end Grows

end Engine

/-! ### What does not depend on numbers -/

namespace Session.Reduces

variable {t : Reduction σ} {s s' : Session σ}

/-- The contexts of a module in both sessions. -/
lemma member (h : Reduces t s s') (module : Nat) :
    Option.Rel (Context.Reduces t) (s.member? module) (s'.member? module) := by
  unfold Session.member?
  rw [h.modules, List.getElem?_map]
  cases hmodule : s.modules[module]? with
  | none => exact .none
  | some i => exact h.contexts i (h.modulesKept i (List.mem_of_getElem? hmodule))

/-- The same modules take part. -/
lemma moduleNames (h : Reduces t s s') : s'.moduleNames = s.moduleNames := by
  unfold Session.moduleNames
  rw [h.modules, List.filterMap_map]
  refine List.filterMap_congr fun i hi => ?_
  change s'.contexts[rank t.kept.context i]?.map _ = s.contexts[i]?.map _
  rcases optionRel_cases (h.contexts i (h.modulesKept i hi)) with
    ⟨hc, hc'⟩ | ⟨c, c', hc, hc', hrel⟩
  · rw [hc, hc']
  · rw [hc, hc', Option.map_some, Option.map_some, hrel.module]

/-- There are as many packet hooks. -/
lemma hookCount (h : Reduces t s s') : s'.hookCount = s.hookCount := h.hooks.length_eq.symm

end Session.Reduces

namespace Engine

namespace Reduces

variable {t : Reduction σ} {base : Listeners} {e e' : Engine σ}

/-- Both sessions show the same. -/
lemma outlook (h : Reduces t base e e') : e'.outlook? t.session = e.outlook? t.session := by
  obtain ⟨s, s', hs, hs', hrel⟩ := h.sessions
  rw [outlook?, outlook?, hs, hs', Option.map_some, Option.map_some, hrel.moduleNames,
    hrel.hookCount, hrel.store.hookCount, hrel.store.loaded?, hrel.store.dropped, h.listeners]

/-! ### Packets -/

/-- The same events are sent for a packet, and the same becomes of them. -/
lemma sendings (h : Reduces t base e e') (op : String) (payload : ByteArray) :
    e'.sendings t.session op payload = e.sendings t.session op payload := by
  obtain ⟨s, s', hs, hs', hrel⟩ := h.sessions
  rw [Engine.sendings, Engine.sendings, hs, hs', Option.map_some, Option.map_some, Option.getD_some,
    Option.getD_some, h.listeners, hrel.store.offers, List.map_map]
  rfl

/-- The stores take in a packet. -/
lemma ingest (h : Reduces t base e e') (op : String) (payload : ByteArray) :
    Reduces t base (e.ingest t.session op payload) (e'.ingest t.session op payload) := by
  obtain ⟨s, s', hs, hs', hrel⟩ := h.sessions
  obtain ⟨hstore, hlisteners, hidle⟩ := hrel.store.ingest e.listeners op payload
  unfold Engine.ingest
  simp only [hs, hs', h.listeners]
  have hreceived : Reduces t base
      { e with listeners := (s.store.ingest e.listeners op payload).2.1 }
      { e' with listeners := (s'.store.ingest e.listeners op payload).2.1 } :=
    ⟨h.sessions, hlisteners, fun name hname => (hidle name hname).trans (h.idle name hname),
      h.memory⟩
  exact (hreceived.update fun _ _ _ _ hrel₁ => hrel₁.withStore hstore).emit _ _

/-- A packet passes a hook. -/
lemma runHook (h : Reduces t base e e') {g g' : Hook (Packet → Program σ)}
    (hg : Hook.Reduces t g g') (key : SessionKey) (op : String) (exchange : PacketMeta)
    (payload : ByteArray) (hsmooth : Smooth t e (Engine.runHook key op exchange (e, payload) g).1) :
    (Engine.runHook key op exchange (e', payload) g').2 =
        (Engine.runHook key op exchange (e, payload) g).2 ∧
      Reduces t base (Engine.runHook key op exchange (e, payload) g).1
        (Engine.runHook key op exchange (e', payload) g').1 := by
  have hran : Smooth t e (e.run (g.handler { op, payload, exchange })).1 := by
    obtain ⟨signals, -, heq⟩ := runHook_fst key op exchange (e, payload) g
    rw [heq] at hsmooth
    exact hsmooth.first (.run _ _ _) (.emit _ _ _)
  obtain ⟨hout, hstep⟩ := h.run (hg.handler { op, payload, exchange }) hran
  unfold Engine.runHook
  simp only
  generalize e.run (g.handler { op, payload, exchange }) = w at hout hstep ⊢
  generalize e'.run (g'.handler { op, payload, exchange }) = w' at hout hstep ⊢
  obtain ⟨e₁, outcome⟩ := w
  obtain ⟨e₁', outcome'⟩ := w'
  obtain rfl : outcome' = outcome := hout
  cases outcome' with
  | finished output => exact ⟨rfl, hstep⟩
  | failed fault => exact ⟨rfl, hstep.emit _ _⟩

/-- A packet passes several hooks. -/
lemma foldl_runHook {hooks hooks' : List (Hook (Packet → Program σ))}
    (hhooks : List.Forall₂ (Hook.Reduces t) hooks hooks') (key : SessionKey) (op : String)
    (exchange : PacketMeta) {payload : ByteArray} (h : Reduces t base e e')
    (hsmooth : Smooth t e (hooks.foldl (Engine.runHook key op exchange) (e, payload)).1) :
    (hooks'.foldl (Engine.runHook key op exchange) (e', payload)).2 =
        (hooks.foldl (Engine.runHook key op exchange) (e, payload)).2 ∧
      Reduces t base (hooks.foldl (Engine.runHook key op exchange) (e, payload)).1
        (hooks'.foldl (Engine.runHook key op exchange) (e', payload)).1 := by
  induction hhooks generalizing e e' payload with
  | nil => exact ⟨rfl, h⟩
  | @cons g g' hooks hooks' hg _ ih =>
    have hfirst := Grows.runHook t.session key op exchange (e, payload) g
    have hrest := Grows.foldl Prod.fst
      (fun w g => Grows.runHook t.session key op exchange w g) hooks
      (Engine.runHook key op exchange (e, payload) g)
    obtain ⟨hout, hstep⟩ := h.runHook hg key op exchange payload (hsmooth.first hfirst hrest)
    rw [List.foldl_cons, List.foldl_cons]
    rw [List.foldl_cons] at hsmooth
    generalize Engine.runHook key op exchange (e, payload) g = w at *
    generalize Engine.runHook key op exchange (e', payload) g' = w' at *
    obtain ⟨e₁, payload₁⟩ := w
    obtain ⟨e₁', payload₁'⟩ := w'
    obtain rfl : payload₁' = payload₁ := hout
    exact ih hstep (hsmooth.rest hfirst hrest)

/-- The same packet does the same, but for numbers. -/
theorem dispatch (h : Reduces t base e e') (op : String) (payload : ByteArray)
    (exchange : PacketMeta)
    (hsmooth : Smooth t e (e.dispatch t.session op payload exchange).1) :
    (e'.dispatch t.session op payload exchange).2 =
        (e.dispatch t.session op payload exchange).2 ∧
      Reduces t base (e.dispatch t.session op payload exchange).1
        (e'.dispatch t.session op payload exchange).1 := by
  have hingest := h.ingest op payload
  have hfirst := Grows.ingest t.session e t.session op payload
  obtain ⟨s, s', hs, hs', hrel⟩ := hingest.sessions
  unfold Engine.dispatch at hsmooth ⊢
  simp only [hs, hs', hrel.key] at hsmooth ⊢
  have hrest := Grows.foldl Prod.fst
    (fun w g => Grows.runHook t.session s.key op exchange w g) (s.table.chainFor op)
    (e.ingest t.session op payload, payload)
  exact foldl_runHook (HookTable.forall₂_chainFor (fun _ _ hg => hg.label) hrel.hooks op) s.key op
    exchange hingest (hsmooth.rest hfirst hrest)

/-! ### The end of a session -/

/-- At the turn of a context that is kept, the same callback runs or none does. -/
lemma shutdownModule (h : Reduces t base e e') {i : Nat} (hi : t.kept.context i = true)
    (key : SessionKey) (processEnds : Bool)
    (hsmooth : Smooth t e (Engine.shutdownModule t.session key processEnds e i)) :
    farewell t.session processEnds e' (rank t.kept.context i) =
        farewell t.session processEnds e i ∧
      Reduces t base (Engine.shutdownModule t.session key processEnds e i)
        (Engine.shutdownModule t.session key processEnds e' (rank t.kept.context i)) := by
  rcases h.contexts hi with ⟨hctx, hctx'⟩ | ⟨s, s', c, c', hctx, hctx', -, hc⟩
  · unfold Engine.shutdownModule farewell
    rw [hctx, hctx']
    exact ⟨rfl, h⟩
  · rcases optionRel_cases hc.shutdown with ⟨hf, hf'⟩ | ⟨f, f', hf, hf', hcallback⟩
    · unfold Engine.shutdownModule farewell
      simp only [hctx, hctx', hf, hf', Option.bind_some]
      exact ⟨rfl, h⟩
    · have htaken : Reduces t base (e.takeShutdown t.session i)
          (e'.takeShutdown t.session (rank t.kept.context i)) :=
        h.updateContext hi fun d d' hd => { hd with shutdown := .none }
      have hran : Smooth t (e.takeShutdown t.session i)
          ((e.takeShutdown t.session i).run (f processEnds)).1 := by
        rcases shutdownModule_cases t.session key processEnds e i with
          ⟨hnone, -⟩ | ⟨callback, hsome, signals, -, heq⟩
        · rw [hctx, Option.bind_some, hf] at hnone
          contradiction
        · rw [hctx, Option.bind_some, hf] at hsome
          obtain rfl := Option.some.inj hsome
          have hfirst := Grows.takeShutdown t.session e t.session i
          have hrun := Grows.run t.session (e.takeShutdown t.session i) (f processEnds)
          have hemit := Grows.emit t.session ((e.takeShutdown t.session i).run (f processEnds)).1
            signals
          rw [heq] at hsmooth
          exact (hsmooth.rest hfirst (hrun.trans hemit)).first hrun hemit
      obtain ⟨hout, hstep⟩ := htaken.run (hcallback processEnds) hran
      unfold Engine.shutdownModule farewell
      simp only [hctx, hctx', hf, hf', Option.bind_some, Option.map_some, hc.module, hout, true_and]
      unfold takeShutdown at hout hstep
      generalize Engine.run _ (f processEnds) = w at hout hstep ⊢
      generalize Engine.run _ (f' processEnds) = w' at hout hstep ⊢
      obtain ⟨e₁, outcome⟩ := w
      obtain ⟨e₁', outcome'⟩ := w'
      obtain rfl : outcome' = outcome := hout
      cases outcome' with
      | finished output => exact hstep
      | failed fault => exact hstep.emit _ _

/-- Both sessions are shut down. The same callbacks run and end in the same way. -/
theorem shutdown (h : Reduces t base e e') (processEnds : Bool)
    (hsmooth : Smooth t e (e.shutdown t.session processEnds)) :
    e'.farewells t.session processEnds = e.farewells t.session processEnds ∧
      Reduces t base (e.shutdown t.session processEnds) (e'.shutdown t.session processEnds) := by
  obtain ⟨s, s', hs, hs', hrel⟩ := h.sessions
  have hmodules := hrel.modulesKept
  unfold Engine.shutdown farewells at *
  simp only [hs, hs', hrel.modules, hrel.key] at hsmooth ⊢
  generalize s.modules = modules at hmodules hsmooth ⊢
  clear hs hs' hrel
  induction modules generalizing e e' with
  | nil => exact ⟨rfl, h⟩
  | cons i modules ih =>
    have hfirst := Grows.shutdownModule t.session t.session s.key processEnds e i
    have hrest := Grows.foldl id (Grows.shutdownModule t.session t.session s.key processEnds)
      modules (Engine.shutdownModule t.session s.key processEnds e i)
    obtain ⟨hturn, hstep⟩ := h.shutdownModule (hmodules i List.mem_cons_self) s.key processEnds
      (hsmooth.first hfirst hrest)
    obtain ⟨hturns, hsteps⟩ := ih hstep (fun j hj => hmodules j (List.mem_cons_of_mem i hj))
      (hsmooth.rest hfirst hrest)
    refine ⟨?_, hsteps⟩
    rw [List.map_cons, gather, gather, hturn, hturns]

/-! ### What happens from outside -/

/-- A module's packet hook is removed from both sessions. -/
lemma unhookOf (h : Reduces t base e e') (module hook : Nat) (label : HookLabel) :
    Reduces t base (e.unhookOf t.session module hook label)
      (e'.unhookOf t.session module hook label) := by
  obtain ⟨s, s', hs, hs', hrel⟩ := h.sessions
  unfold Engine.unhookOf
  simp only [hs, hs', Option.bind_some]
  rcases optionRel_cases (hrel.member module) with ⟨hc, hc'⟩ | ⟨c, c', hc, hc', hctx⟩
  · simp only [hc, hc', Option.bind_none]
    exact h
  · simp only [hc, hc', Option.bind_some, hctx.hooks, List.getElem?_map]
    cases hid : c.hooks[hook]? with
    | none => exact h
    | some id => exact h.unhook (hctx.hooksKept id (List.mem_of_getElem? hid)) label

/-- A module's path hook is removed from both sessions. -/
lemma unhookPathOf (h : Reduces t base e e') (module hook : Nat) (path : String) :
    Reduces t base (e.unhookPathOf t.session module hook path)
      (e'.unhookPathOf t.session module hook path) := by
  obtain ⟨s, s', hs, hs', hrel⟩ := h.sessions
  unfold Engine.unhookPathOf
  simp only [hs, hs', Option.bind_some]
  rcases optionRel_cases (hrel.member module) with ⟨hc, hc'⟩ | ⟨c, c', hc, hc', hctx⟩
  · simp only [hc, hc', Option.bind_none]
    exact h
  · simp only [hc, hc', Option.bind_some, hctx.pathHooks, hctx.module, List.getElem?_map]
    cases hid : c.pathHooks[hook]? with
    | none => exact h
    | some id =>
      exact h.unhookPath (hctx.pathHooksKept id (List.mem_of_getElem? hid)) path c.module

/-- A receiver does the same to the listeners of both engines. -/
lemma receive (h : Reduces t base e e') (step : SessionStep) :
    Reduces t (step.receive base) { e with listeners := step.receive e.listeners }
      { e' with listeners := step.receive e'.listeners } where
  sessions := h.sessions
  listeners := congrArg (SessionStep.receive · step) h.listeners
  idle name hname := by
    have hidle : e.listeners.Agree (fun name => !t.own name) base := fun name hname =>
      h.idle name (Bool.not_eq_true' _ ▸ hname)
    exact hidle.receive step name (Bool.not_eq_true' _ ▸ hname)
  memory := h.memory

/-- The same is seen of both sessions when something happens to them. -/
theorem happen (h : Reduces t base e e') (step : SessionStep)
    (hsmooth : Smooth t e (e.happen t.session step).1) :
    (e'.happen t.session step).2 = (e.happen t.session step).2 ∧
      Reduces t (step.receive base) (e.happen t.session step).1
        (e'.happen t.session step).1 := by
  cases step with
  | packet op payload exchange =>
    obtain ⟨hout, hstep⟩ := h.dispatch op payload exchange hsmooth
    exact ⟨congrArg₂ Sight.payload hout (h.sendings op payload), hstep⟩
  | unhook module hook label => exact ⟨rfl, h.unhookOf module hook label⟩
  | unhookPath module hook path => exact ⟨rfl, h.unhookPathOf module hook path⟩
  | drain listener max =>
    refine ⟨?_, h.receive (.drain listener max)⟩
    unfold Engine.happen
    simp only [h.listeners]
  | close listener => exact ⟨rfl, h.receive (.close listener)⟩
  | shutdown processEnds =>
    obtain ⟨hcallbacks, hstep⟩ := h.shutdown processEnds hsmooth
    exact ⟨congrArg Sight.farewells hcallbacks, hstep⟩

/-- Whatever happens to the two sessions, they look the same at every step, as long as all goes well
in the first one. -/
theorem watch (h : Reduces t base e e') (steps : List SessionStep)
    (hsmooth : Smooth t e (e.live t.session steps)) :
    e'.watch t.session steps = e.watch t.session steps ∧
      Reduces t (steps.foldl SessionStep.receive base) (e.live t.session steps)
        (e'.live t.session steps) := by
  induction steps generalizing base e e' with
  | nil => exact ⟨rfl, h⟩
  | cons step steps ih =>
    have hfirst := Grows.happen t.session e step
    have hrest := Grows.live t.session (e.happen t.session step).1 steps
    obtain ⟨hsight, hstep⟩ := h.happen step (hsmooth.first hfirst hrest)
    obtain ⟨hwatch, hlive⟩ := ih hstep (hsmooth.rest hfirst hrest)
    unfold Engine.watch at hwatch ⊢
    exact ⟨by rw [gather, gather, hsight, hstep.outlook, hwatch], hlive⟩

end Reduces

end Engine

end Intercept
