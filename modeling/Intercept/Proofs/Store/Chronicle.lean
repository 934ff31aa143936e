import Intercept.Proofs.Register
import Intercept.Proofs.Store.Run
import Mathlib.Data.List.Dedup

/-!
# Chronicles

What the listeners of a store are owed, told without the store. A chronicle records which
registrations were accepted, which hooks were unhooked, and with which attempts to send events a
document was taken in. From the record alone follows who subscribes (`Record.subscribers`): every
accepted registration that was neither unhooked afterwards nor found to have a closed listener.
From the subscribers and the walk of a delta follows which events are due (`due`), and from the
listeners at that moment what becomes of each of them (`offerAll`).

A chronicle knows neither a queue of registrations nor installed hooks. `Proofs.Store.Delivery`
shows that a store behaves as its chronicle tells. Here it is shown that registrations are numbered
in their order (`map_id_registrations`), and that no event overtakes another one
(`waitingAt_append_acceptedAt`).
-/

namespace Intercept

/-! ### Offering events -/

namespace Listeners

/-- Put an event into the listener of a name, if it is open and has room. -/
def deliver (ls : Listeners) (name : String) (e : Event) : Listeners :=
  match ls.outcome name with
  | .accepted => ls.offer name e
  | _ => ls

/-- A change of the listener of a name is found under that name. -/
lemma find?_update_self (ls : Listeners) (name : String) (f : Listener → Listener) :
    find? (ls.update name f) name = (find? ls name).map f := by
  unfold find? update
  induction ls with
  | nil => rfl
  | cons e ls ih =>
    rw [List.map_cons]
    by_cases h : e.1 = name
    · simp [h]
    · simpa [h] using ih

/-- A change of the listener of a name is not seen under other names. -/
lemma find?_update_of_ne (ls : Listeners) {name other : String} (hne : other ≠ name)
    (f : Listener → Listener) : find? (ls.update name f) other = find? ls other := by
  unfold find? update
  induction ls with
  | nil => rfl
  | cons e ls ih =>
    rw [List.map_cons]
    by_cases h : e.1 = name
    · have hother : e.1 ≠ other := fun h' => hne (h'.symm.trans h)
      simpa [h, hother, Ne.symm hne] using ih
    · by_cases h' : e.1 = other
      · simp [h', hne]
      · simpa [h, h'] using ih

/-- The events that wait in the listener of a name. -/
def waitingAt (ls : Listeners) (name : String) : List Event :=
  ((find? ls name).map (·.waiting)).getD []

/-- An accepted event is put behind those that wait. -/
lemma waitingAt_deliver_of_accepted {ls : Listeners} {name : String} (e : Event)
    (h : ls.outcome name = .accepted) :
    waitingAt (ls.deliver name e) name = waitingAt ls name ++ [e] := by
  unfold deliver waitingAt
  rw [h]
  unfold outcome at h
  cases hl : find? ls name with
  | none =>
    rw [hl] at h
    contradiction
  | some l =>
    rw [hl] at h
    have hl' : l.outcome = .accepted := h
    simp only [offer, find?_update_self, hl, Option.map_some, Option.getD_some]
    rw [Listener.offer, hl']

/-- An event that is not accepted changes nothing. -/
lemma deliver_of_ne_accepted {ls : Listeners} {name : String} (e : Event)
    (h : ls.outcome name ≠ .accepted) : ls.deliver name e = ls := by
  unfold deliver
  split
  · next hacc => exact absurd hacc h
  · rfl

/-- An event for one listener is not seen by the others. -/
lemma waitingAt_deliver_of_ne (ls : Listeners) {name other : String} (hne : other ≠ name)
    (e : Event) : waitingAt (ls.deliver name e) other = waitingAt ls other := by
  by_cases h : ls.outcome name = .accepted
  · unfold deliver waitingAt
    rw [h]
    simp only [offer, find?_update_of_ne ls hne]
  · rw [deliver_of_ne_accepted e h]

/-- An event is refused by the listener of a name if it is closed, or there is none. -/
lemma outcome_eq_closed_iff (ls : Listeners) (name : String) :
    ls.outcome name = .closed ↔ ∀ l, find? ls name = some l → l.isClosed = true := by
  unfold outcome
  cases find? ls name with
  | none => simp
  | some l =>
    simp only [Option.map_some, Option.getD_some, Listener.outcome, Option.some.injEq, forall_eq']
    cases l.isClosed with
    | true => simp
    | false => by_cases hroom : l.waiting.length < l.capacity <;> simp [hroom]

/-- Putting events into listeners closes none and opens none. -/
lemma outcome_deliver_eq_closed_iff (ls : Listeners) (name other : String) (e : Event) :
    (ls.deliver name e).outcome other = .closed ↔ ls.outcome other = .closed := by
  by_cases hacc : ls.outcome name = .accepted
  · have hdeliver : ls.deliver name e = ls.update name (·.offer e) := by
      rw [deliver, hacc]
      rfl
    have hkept (l : Listener) : (l.offer e).isClosed = l.isClosed := by
      unfold Listener.offer
      cases l.outcome <;> rfl
    rw [outcome_eq_closed_iff, outcome_eq_closed_iff, hdeliver]
    by_cases hname : other = name
    · subst hname
      rw [find?_update_self]
      cases find? ls other with
      | none => simp
      | some l => simp [hkept]
    · rw [find?_update_of_ne ls hname]
  · rw [deliver_of_ne_accepted e hacc]

end Listeners

/-- An event for the listener of a hook, and what became of it. -/
structure Attempt where
  hook : PathHook
  event : Event
  outcome : Offer

namespace Attempt

/-- Whether the event was put into its listener. -/
def isAccepted (a : Attempt) : Bool := a.outcome = .accepted

/-- Whether the event was lost to a full listener. -/
def isLost (a : Attempt) : Bool := a.outcome = .full

/-- Whether the receiver was gone. -/
def isRefused (a : Attempt) : Bool := a.outcome = .closed

end Attempt

/-- The events due for a delta: along the walk of the delta, and on each path in the order of
registration. The values are those of the state with the delta laid over it. -/
def due (subscribers : List PathHook) (delta state : Document) : List (PathHook × Event) :=
  delta.walk.flatMap fun path =>
    (subscribers.filter fun h => h.path = path).map fun h =>
      (h, { path, payload := if h.wantPayload then state.resolve? path else none })

/-- Offer events one after the other, each to its listener as the earlier ones have left it. -/
def offerAll (ls : Listeners) : List (PathHook × Event) → List Attempt × Listeners
  | [] => ([], ls)
  | (h, e) :: rest =>
    let (attempts, ls') := offerAll (ls.deliver h.listener e) rest
    (⟨h, e, ls.outcome h.listener⟩ :: attempts, ls')

/-- The hooks whose listener turned out to be closed, by number, as often as they were visited. -/
def refusedHooks (attempts : List Attempt) : List Nat :=
  (attempts.filter (·.isRefused)).map (·.hook.id)

/-- A hook is refused if it was offered an event and its listener is closed. -/
lemma mem_refusedHooks_offerAll {ls : Listeners} {events : List (PathHook × Event)} {n : Nat} :
    n ∈ refusedHooks (offerAll ls events).1 ↔
      ∃ x ∈ events, x.1.id = n ∧ ls.outcome x.1.listener = .closed := by
  induction events generalizing ls with
  | nil => simp [offerAll, refusedHooks]
  | cons x events ih =>
    obtain ⟨h, e⟩ := x
    have hhead : n ∈ refusedHooks (offerAll ls ((h, e) :: events)).1 ↔
        (h.id = n ∧ ls.outcome h.listener = .closed) ∨
          n ∈ refusedHooks (offerAll (ls.deliver h.listener e) events).1 := by
      rw [offerAll, refusedHooks, refusedHooks, List.filter_cons]
      by_cases hc : ls.outcome h.listener = .closed
      · simp [Attempt.isRefused, hc, eq_comm]
      · simp [Attempt.isRefused, hc]
    rw [hhead, ih]
    simp only [Listeners.outcome_deliver_eq_closed_iff]
    exact (List.exists_mem_cons_iff
      (fun x : PathHook × Event => x.1.id = n ∧ ls.outcome x.1.listener = .closed)
      (h, e) events).symm

/-- What is reported of a delta's attempts: each event that was lost, their number if there are any,
and how many events were delivered, were lost, and how many hooks were removed. -/
def reports (op : String) (attempts : List Attempt) : List Signal :=
  let lost := attempts.filter (·.isLost)
  let delivered := attempts.countP (·.isAccepted)
  let removed := (refusedHooks attempts).dedup.length
  lost.map (fun a => Signal.notice (.eventDropped a.event.path a.hook.module)) ++
    (if lost.length = 0 then [] else [.count .eventsDropped lost.length]) ++
    [.notice (.deltaMerged op delivered lost.length removed)]

/-! ### The record -/

/-- An entry of a chronicle. -/
inductive ChronicleEntry where
  /-- A registration was accepted. -/
  | registered (h : PathHook)
  | unhooked (id : Nat)
  /-- A document was taken in, with these attempts to send events. -/
  | taken (attempts : List Attempt)
  /-- Events left a listener: the receiver took them out, or went away and left them. -/
  | left (listener : String) (events : List Event)

namespace ChronicleEntry

/-- What an entry means for the register of subscriptions. A hook whose listener turned out to be
closed is struck out; one whose listener was full is not. -/
def register : ChronicleEntry → List (RegisterEntry PathHook)
  | registered h => [.entered h]
  | unhooked id => [.struck id]
  | taken attempts => (refusedHooks attempts).map .struck
  | left _ _ => []

/-- The attempts of an entry. -/
def attempts : ChronicleEntry → List Attempt
  | taken attempts => attempts
  | _ => []

/-- The events that left a listener with an entry. -/
def leftFrom (name : String) : ChronicleEntry → List Event
  | left listener events => if listener = name then events else []
  | _ => []

end ChronicleEntry

/-- What happened to the subscriptions of a store, oldest entry first. -/
abbrev Record := List ChronicleEntry

namespace Record

/-- The register of subscriptions. -/
def register (r : Record) : List (RegisterEntry PathHook) := r.flatMap (·.register)

/-- The accepted registrations in their order. -/
def registrations (r : Record) : List PathHook := Register.entered r.register

/-- Accepted registrations that were neither unhooked nor removed since, in their order. -/
def subscribers (r : Record) : List PathHook := Register.standing PathHook.id r.register

/-- How many registrations were accepted since a document was taken in last. -/
def pending (r : Record) : Nat :=
  r.foldl
    (fun n e =>
      match e with
      | .registered _ => n + 1
      | .taken _ => 0
      | _ => n)
    0

/-- All attempts in their order. -/
def attempts (r : Record) : List Attempt := r.flatMap (·.attempts)

/-- The events that were put into a listener, in their order. -/
def acceptedAt (r : Record) (name : String) : List Event :=
  (r.attempts.filter fun a => a.isAccepted && a.hook.listener = name).map (·.event)

/-- The events that left a listener, in their order. -/
def leftFrom (r : Record) (name : String) : List Event := r.flatMap (·.leftFrom name)

/-- Nothing but a registration enters the register. -/
lemma entered_register (e : ChronicleEntry) :
    Register.entered e.register = match e with | .registered h => [h] | _ => [] := by
  cases e with
  | taken attempts => exact Register.entered_map_struck (refusedHooks attempts)
  | _ => rfl

/-- The registrations after one more entry. -/
lemma registrations_concat (r : Record) (e : ChronicleEntry) :
    registrations (r ++ [e]) =
      registrations r ++ match e with | .registered h => [h] | _ => [] := by
  rw [registrations, register, List.flatMap_append, Register.entered_append,
    List.flatMap_singleton, entered_register]
  rfl

/-- Nothing but a registration adds to the registrations. -/
lemma registrations_concat_of_ne (r : Record) (e : ChronicleEntry)
    (he : ∀ h, e ≠ .registered h) : registrations (r ++ [e]) = registrations r := by
  rw [registrations_concat]
  cases e with
  | registered h => exact absurd rfl (he h)
  | _ => exact List.append_nil _

/-- The subscribers after one more entry. -/
lemma subscribers_concat (r : Record) (e : ChronicleEntry) :
    subscribers (r ++ [e]) =
      (subscribers r).filter (fun h => !Register.strikes h.id e.register) ++
        Register.standing PathHook.id e.register := by
  rw [subscribers, register, List.flatMap_append, Register.standing_append,
    List.flatMap_singleton]
  rfl

/-- The attempts after one more entry. -/
lemma attempts_concat (r : Record) (e : ChronicleEntry) :
    attempts (r ++ [e]) = attempts r ++ e.attempts := by
  rw [attempts, List.flatMap_append, List.flatMap_singleton]
  rfl

/-- The accepted events after one more entry. -/
lemma acceptedAt_concat (r : Record) (e : ChronicleEntry) (name : String) :
    acceptedAt (r ++ [e]) name = acceptedAt r name ++
      (e.attempts.filter fun a => a.isAccepted && a.hook.listener = name).map (·.event) := by
  rw [acceptedAt, attempts_concat, List.filter_append, List.map_append]
  rfl

/-- The events that have left a listener after one more entry. -/
lemma leftFrom_concat (r : Record) (e : ChronicleEntry) (name : String) :
    leftFrom (r ++ [e]) name = leftFrom r name ++ e.leftFrom name := by
  rw [leftFrom, List.flatMap_append, List.flatMap_singleton]
  rfl

end Record

/-! ### Chronicles -/

/-- What is known of the state, the listeners, and what happened to the subscriptions. -/
structure Chronicle where
  state : Option Document := none
  listeners : Listeners
  record : Record := []

namespace Chronicle

/-- Whether one more registration is accepted. -/
def hasRoom (c : StateConfig) (b : Chronicle) : Bool :=
  b.record.pending < max c.hookQueueCapacity.toNat 1

/-- The number of the next registration. -/
def nextId (b : Chronicle) : Nat := b.record.registrations.length

/-- The attempts for a delta, and the listeners as they leave them. -/
def offers (b : Chronicle) (delta state : Document) : List Attempt × Listeners :=
  offerAll b.listeners (due b.record.subscribers delta state)

/-- Take in a packet. -/
def takeIn (c : StateConfig) (b : Chronicle) (op : String) (payload : ByteArray) : Chronicle :=
  match c.snapshotIn? op payload, c.deltaIn? op payload, b.state with
  | some d, _, _ => { b with state := some d, record := b.record ++ [.taken []] }
  | none, some delta, some state =>
    { state := some (state.merge delta)
      listeners := (b.offers delta (state.merge delta)).2
      record := b.record ++ [.taken (b.offers delta (state.merge delta)).1] }
  | none, _, _ => b

/-- Record one call on a store of a configuration. -/
def step (c : StateConfig) (b : Chronicle) : StoreStep → Chronicle
  | .hook path module listener wantPayload =>
    if b.hasRoom c then
      { b with
        record := b.record ++ [.registered ⟨b.nextId, path, module, listener, wantPayload⟩] }
    else b
  | .unhook id => { b with record := b.record ++ [.unhooked id] }
  | .ingest op payload => b.takeIn c op payload
  | .drain listener max =>
    let waiting := b.listeners.waitingAt listener
    { b with
      listeners := b.listeners.update listener fun l => (l.take max).2
      record := b.record ++ [.left listener (waiting.take (max.getD waiting.length))] }
  | .close listener =>
    { b with
      listeners := b.listeners.update listener (·.close)
      record := b.record ++ [.left listener (b.listeners.waitingAt listener)] }

/-- The chronicle of some calls on a fresh store. -/
def ofRun (c : StateConfig) (ls : Listeners) (steps : List StoreStep) : Chronicle :=
  steps.foldl (step c) { listeners := ls }

variable {c : StateConfig} {ls : Listeners}

/-- The last call is recorded behind what the others have left. -/
lemma ofRun_concat (steps : List StoreStep) (s : StoreStep) :
    ofRun c ls (steps ++ [s]) = (ofRun c ls steps).step c s := List.foldl_append

/-- What holds at the beginning and is kept by every call holds of every chronicle. -/
lemma ofRun_induction {P : Chronicle → Prop} (hstart : P { listeners := ls })
    (hstep : ∀ b s, P b → P (b.step c s)) (steps : List StoreStep) : P (ofRun c ls steps) := by
  unfold ofRun
  generalize ({ listeners := ls } : Chronicle) = b at hstart
  induction steps generalizing b with
  | nil => exact hstart
  | cons s steps ih => exact ih (b.step c s) (hstep b s hstart)

/-- What a packet does to a chronicle: it brings a snapshot, or a delta for a known state, or
nothing. -/
lemma takeIn_cases (b : Chronicle) (op : String) (payload : ByteArray) :
    (∃ d, c.snapshotIn? op payload = some d ∧
      b.takeIn c op payload = { b with state := some d, record := b.record ++ [.taken []] }) ∨
    (∃ delta state, c.deltaIn? op payload = some delta ∧ b.state = some state ∧
      b.takeIn c op payload =
        { state := some (state.merge delta)
          listeners := (b.offers delta (state.merge delta)).2
          record := b.record ++ [.taken (b.offers delta (state.merge delta)).1] }) ∨
    (c.snapshotIn? op payload = none ∧ (c.deltaIn? op payload = none ∨ b.state = none) ∧
      b.takeIn c op payload = b) := by
  unfold takeIn
  cases hs : c.snapshotIn? op payload with
  | some d => exact Or.inl ⟨d, rfl, rfl⟩
  | none =>
    cases hd : c.deltaIn? op payload with
    | none => exact Or.inr (Or.inr ⟨rfl, Or.inl rfl, rfl⟩)
    | some delta =>
      cases hb : b.state with
      | none => exact Or.inr (Or.inr ⟨rfl, Or.inr rfl, rfl⟩)
      | some state => exact Or.inr (Or.inl ⟨delta, state, rfl, rfl, rfl⟩)

/-- Registrations are numbered in their order. -/
theorem map_id_registrations (steps : List StoreStep) :
    (ofRun c ls steps).record.registrations.map PathHook.id =
      List.range (ofRun c ls steps).nextId := by
  refine ofRun_induction (P := fun b =>
    b.record.registrations.map PathHook.id = List.range b.nextId) rfl ?_ steps
  intro b s hb
  have hother := b.record.registrations_concat_of_ne
  cases s with
  | hook path module listener wantPayload =>
    rw [step]
    split
    · simp only [nextId, Record.registrations_concat] at hb ⊢
      rw [List.map_append, hb, List.length_append, List.length_singleton, List.range_succ]
      rfl
    · exact hb
  | ingest op payload =>
    rw [step]
    rcases b.takeIn_cases op payload with ⟨d, -, h⟩ | ⟨delta, state, -, -, h⟩ | ⟨-, -, h⟩
    · rw [h]
      simpa only [nextId, hother (.taken []) (by simp)] using hb
    · rw [h]
      simpa only [nextId, hother (.taken _) (by simp)] using hb
    · rw [h]
      exact hb
  | unhook id => simpa only [step, nextId, hother (.unhooked id) (by simp)] using hb
  | drain listener max => simpa only [step, nextId, hother (.left _ _) (by simp)] using hb
  | close listener => simpa only [step, nextId, hother (.left _ _) (by simp)] using hb

/-- No two subscribers have one number. -/
lemma nodup_subscribers (steps : List StoreStep) :
    ((ofRun c ls steps).record.subscribers.map PathHook.id).Nodup := by
  have hsub : ((ofRun c ls steps).record.subscribers.map PathHook.id).Sublist
      ((ofRun c ls steps).record.registrations.map PathHook.id) :=
    (Register.standing_sublist _).map PathHook.id
  rw [map_id_registrations] at hsub
  exact hsub.nodup List.nodup_range

/-! ### No event overtakes another one -/

/-- After events were offered, those that were accepted wait behind the earlier ones. -/
lemma waitingAt_offerAll (ls : Listeners) (events : List (PathHook × Event)) (name : String) :
    (offerAll ls events).2.waitingAt name = ls.waitingAt name ++
      ((offerAll ls events).1.filter fun a => a.isAccepted && a.hook.listener = name).map
        (·.event) := by
  induction events generalizing ls with
  | nil => simp [offerAll]
  | cons x events ih =>
    obtain ⟨h, e⟩ := x
    rw [offerAll, ih]
    by_cases hname : h.listener = name
    · subst hname
      by_cases hacc : ls.outcome h.listener = .accepted
      · rw [Listeners.waitingAt_deliver_of_accepted e hacc]
        simp [Attempt.isAccepted, hacc]
      · rw [Listeners.deliver_of_ne_accepted e hacc]
        simp [Attempt.isAccepted, hacc]
    · rw [Listeners.waitingAt_deliver_of_ne ls (Ne.symm hname) e]
      simp [hname]

/-- The events that wait in a listener after some listener was changed. -/
lemma waitingAt_update (ls : Listeners) (listener name : String) {f : Listener → Listener}
    {g : List Event → List Event} (hg : ∀ l, (f l).waiting = g l.waiting) (hnil : g [] = []) :
    (ls.update listener f).waitingAt name =
      if listener = name then g (ls.waitingAt name) else ls.waitingAt name := by
  unfold Listeners.waitingAt
  by_cases h : listener = name
  · subst h
    rw [if_pos rfl, Listeners.find?_update_self]
    cases ls.find? listener with
    | none => exact hnil.symm
    | some l => exact hg l
  · rw [if_neg h, Listeners.find?_update_of_ne ls (Ne.symm h)]

/-- Whatever was put into a listener has left it or still waits in it, and in the order in which it
was put in. -/
theorem waitingAt_append_acceptedAt (steps : List StoreStep) (name : String) :
    ls.waitingAt name ++ (ofRun c ls steps).record.acceptedAt name =
      (ofRun c ls steps).record.leftFrom name ++ (ofRun c ls steps).listeners.waitingAt name := by
  refine ofRun_induction (P := fun b =>
    ls.waitingAt name ++ b.record.acceptedAt name =
      b.record.leftFrom name ++ b.listeners.waitingAt name)
    (by simp [Record.acceptedAt, Record.attempts, Record.leftFrom]) ?_ steps
  intro b s hb
  cases s with
  | hook path module listener wantPayload =>
    rw [step]
    split
    · simpa [Record.acceptedAt_concat, Record.leftFrom_concat, ChronicleEntry.attempts,
        ChronicleEntry.leftFrom] using hb
    · exact hb
  | unhook id =>
    simpa [step, Record.acceptedAt_concat, Record.leftFrom_concat, ChronicleEntry.attempts,
      ChronicleEntry.leftFrom] using hb
  | ingest op payload =>
    rw [step]
    rcases b.takeIn_cases op payload with ⟨d, -, h⟩ | ⟨delta, state, -, -, h⟩ | ⟨-, -, h⟩
    · rw [h]
      simpa [Record.acceptedAt_concat, Record.leftFrom_concat, ChronicleEntry.attempts,
        ChronicleEntry.leftFrom] using hb
    · rw [h, offers, waitingAt_offerAll, Record.acceptedAt_concat, Record.leftFrom_concat,
        ← List.append_assoc, hb]
      simp [ChronicleEntry.attempts, ChronicleEntry.leftFrom]
    · rw [h]
      exact hb
  | drain listener max =>
    have hwaiting := waitingAt_update b.listeners listener name (f := fun l => (l.take max).2)
      (g := fun es => es.drop (max.getD es.length)) (fun _ => rfl) (by simp)
    rw [step, Record.acceptedAt_concat, Record.leftFrom_concat, hwaiting, ← List.append_assoc, hb]
    by_cases h : listener = name
    · simp [h, ChronicleEntry.attempts, ChronicleEntry.leftFrom]
    · simp [h, ChronicleEntry.attempts, ChronicleEntry.leftFrom]
  | close listener =>
    have hwaiting := waitingAt_update b.listeners listener name (f := (·.close))
      (g := fun _ => []) (fun _ => rfl) rfl
    rw [step, Record.acceptedAt_concat, Record.leftFrom_concat, hwaiting, ← List.append_assoc, hb]
    by_cases h : listener = name
    · simp [h, ChronicleEntry.attempts, ChronicleEntry.leftFrom]
    · simp [h, ChronicleEntry.attempts, ChronicleEntry.leftFrom]

end Chronicle

end Intercept
