import Intercept.Proofs.Store.Blank

/-!
# Runs of a store

A store is used by calls in any order: hooks are registered and removed, packets are taken in, and
on the other side the receivers of its listeners take events out or go away. `StoreStep` lists these
calls, `StoreState.run` performs them one after the other.

A packet does one of three things to a store: it replaces the state, it changes a loaded state, or
it does nothing at all. Which of them is read off the packet by `StateConfig.snapshotIn?` and
`StateConfig.deltaIn?`; the three lemmas `ingest_of_snapshotIn?`, `ingest_of_deltaIn?` and
`ingest_of_none` say what it then does, and `loaded?_ingest` sums up what becomes known of the
state.
-/

namespace Intercept

/-! ### What a packet carries -/

namespace StateConfig

/-- The snapshot in a packet: what its payload holds at the snapshot key, if the packet is of the
snapshot operation. -/
def snapshotIn? (c : StateConfig) (op : String) (payload : ByteArray) : Option Document :=
  if op = c.snapshotOp then (Document.parseBytes? payload).bind (·.atKey? c.snapshotKey) else none

/-- The delta in a packet: what its payload holds at the delta key, if the packet is of any other
operation. -/
def deltaIn? (c : StateConfig) (op : String) (payload : ByteArray) : Option Document :=
  if op = c.snapshotOp then none else (Document.parseBytes? payload).bind (·.atKey? c.deltaKey)

/-- What is known of the state after one more packet, none standing for a state not yet loaded. -/
def takeIn (c : StateConfig) (known : Option Document) (op : String) (payload : ByteArray) :
    Option Document :=
  match c.snapshotIn? op payload with
  | some d => some d
  | none =>
    match c.deltaIn? op payload with
    | some delta => known.map fun d => d.merge delta
    | none => known

/-- A packet with a snapshot tells the state, whatever was known before. -/
lemma takeIn_of_snapshotIn? {c : StateConfig} {op : String} {payload : ByteArray} {d : Document}
    (h : c.snapshotIn? op payload = some d) (known : Option Document) :
    c.takeIn known op payload = some d := by
  rw [takeIn, h]

/-- A packet does not carry both a snapshot and a delta. -/
lemma snapshotIn?_eq_none_of_deltaIn? {c : StateConfig} {op : String} {payload : ByteArray}
    {delta : Document} (h : c.deltaIn? op payload = some delta) :
    c.snapshotIn? op payload = none := by
  unfold deltaIn? at h
  split at h
  · contradiction
  · next hop => exact if_neg hop

end StateConfig

namespace Store

/-- What is found in a payload at a key, in terms of the document that the payload holds. -/
lemma extract_eq_found_iff {payload : ByteArray} {key : String} {d : Document} :
    extract payload key = .found d ↔
      (Document.parseBytes? payload).bind (·.atKey? key) = some d := by
  unfold extract
  cases Document.parseBytes? payload with
  | none => simp
  | some root =>
    simp only [Option.bind_some]
    cases root.atKey? key <;> simp

/-- A packet with a snapshot replaces the state. -/
lemma ingest_of_snapshotIn? {s : Store} (ls : Listeners) {op : String} {payload : ByteArray}
    {d : Document} (h : s.config.snapshotIn? op payload = some d) :
    s.ingest ls op payload = (s.applySnapshot d, ls, []) := by
  unfold StateConfig.snapshotIn? at h
  split at h
  · next hop =>
    rw [ingest, if_pos hop, ingestSnapshot, extract_eq_found_iff.2 h]
  · contradiction

/-- A packet with a delta changes a loaded state. -/
lemma ingest_of_deltaIn? {s : Store} (ls : Listeners) {op : String} {payload : ByteArray}
    {delta : Document} (h : s.config.deltaIn? op payload = some delta) (hl : s.isLoaded = true) :
    s.ingest ls op payload = s.applyDelta ls op delta := by
  unfold StateConfig.deltaIn? at h
  split at h
  · contradiction
  · next hop =>
    have hblank : isBlankPayload payload = false := by
      by_contra hb
      rw [parseBytes?_eq_none_of_isBlankPayload (by simpa using hb)] at h
      contradiction
    rw [ingest, if_neg hop, if_pos hl, ingestDelta, hblank, extract_eq_found_iff.2 h]
    rfl

/-- A packet without a snapshot, and without a delta or before the state is loaded, leaves the store
and the listeners as they are. -/
lemma ingest_of_none {s : Store} (ls : Listeners) {op : String} {payload : ByteArray}
    (hs : s.config.snapshotIn? op payload = none)
    (hd : s.config.deltaIn? op payload = none ∨ s.isLoaded = false) :
    (s.ingest ls op payload).1 = s ∧ (s.ingest ls op payload).2.1 = ls := by
  unfold ingest
  by_cases hop : op = s.config.snapshotOp
  · rw [if_pos hop]
    rw [StateConfig.snapshotIn?, if_pos hop] at hs
    unfold ingestSnapshot
    cases hx : extract payload s.config.snapshotKey with
    | malformed => exact ⟨rfl, rfl⟩
    | absent => exact ⟨rfl, rfl⟩
    | found d =>
      rw [extract_eq_found_iff.1 hx] at hs
      contradiction
  · rw [if_neg hop]
    rcases hd with hd | hl
    · rw [StateConfig.deltaIn?, if_neg hop] at hd
      unfold ingestDelta
      cases hx : extract payload s.config.deltaKey with
      | malformed => split_ifs <;> exact ⟨rfl, rfl⟩
      | absent => split_ifs <;> exact ⟨rfl, rfl⟩
      | found d =>
        rw [extract_eq_found_iff.1 hx] at hd
        contradiction
    · rw [hl]
      exact ⟨rfl, rfl⟩

/-- Every packet does one of the three things. -/
lemma ingest_cases (s : Store) (op : String) (payload : ByteArray) :
    (∃ d, s.config.snapshotIn? op payload = some d) ∨
      (∃ delta, s.config.deltaIn? op payload = some delta ∧ s.isLoaded = true) ∨
      (s.config.snapshotIn? op payload = none ∧
        (s.config.deltaIn? op payload = none ∨ s.isLoaded = false)) := by
  cases hs : s.config.snapshotIn? op payload with
  | some d => exact Or.inl ⟨d, rfl⟩
  | none =>
    cases hd : s.config.deltaIn? op payload with
    | none => exact Or.inr (Or.inr ⟨rfl, Or.inl rfl⟩)
    | some delta =>
      cases hl : s.isLoaded with
      | true => exact Or.inr (Or.inl ⟨delta, rfl, rfl⟩)
      | false => exact Or.inr (Or.inr ⟨rfl, Or.inr rfl⟩)

/-- Taking in a packet does not touch the configuration. -/
@[simp] lemma config_ingest (s : Store) (ls : Listeners) (op : String) (payload : ByteArray) :
    (s.ingest ls op payload).1.config = s.config := by
  rcases s.ingest_cases op payload with ⟨d, h⟩ | ⟨delta, h, hl⟩ | ⟨hs, hd⟩
  · rw [ingest_of_snapshotIn? ls h]
    rfl
  · rw [ingest_of_deltaIn? ls h hl]
    rfl
  · rw [(ingest_of_none ls hs hd).1]

/-- Taking in a packet does not number hooks. -/
lemma nextId_ingest (s : Store) (ls : Listeners) (op : String) (payload : ByteArray) :
    (s.ingest ls op payload).1.nextId = s.nextId := by
  rcases s.ingest_cases op payload with ⟨d, h⟩ | ⟨delta, h, hl⟩ | ⟨hs, hd⟩
  · rw [ingest_of_snapshotIn? ls h]
    rfl
  · rw [ingest_of_deltaIn? ls h hl]
    rfl
  · rw [(ingest_of_none ls hs hd).1]

/-- What is known of the state after a packet depends on what was known before and on the packet. -/
lemma loaded?_ingest (s : Store) (ls : Listeners) (op : String) (payload : ByteArray) :
    (s.ingest ls op payload).1.loaded? = s.config.takeIn s.loaded? op payload := by
  unfold StateConfig.takeIn
  rcases s.ingest_cases op payload with ⟨d, h⟩ | ⟨delta, h, hl⟩ | ⟨hs, hd⟩
  · rw [ingest_of_snapshotIn? ls h, h]
    rfl
  · rw [ingest_of_deltaIn? ls h hl, StateConfig.snapshotIn?_eq_none_of_deltaIn? h, h]
    simp [loaded?, applyDelta, installWaiting, hl]
  · rw [(ingest_of_none ls hs hd).1, hs]
    rcases hd with hd | hl
    · rw [hd]
    · cases s.config.deltaIn? op payload <;> simp [loaded?, hl]

/-- A store is loaded when its state is known. -/
lemma isLoaded_eq_isSome (s : Store) : s.isLoaded = s.loaded?.isSome := by
  unfold loaded?
  cases s.isLoaded <;> rfl

/-- The state of a loaded store is the one that is known. -/
lemma state_of_loaded? {s : Store} {d : Document} (h : s.loaded? = some d) : s.state = d := by
  unfold loaded? at h
  split at h
  · exact Option.some.inj h
  · contradiction

/-! ### Hooks -/

/-- Registering a hook adds to the queue and counts, or does nothing. -/
lemma hook_cases (s : Store) (path module listener : String) (wantPayload : Bool) :
    (s.queue.length < s.queueRoom ∧
      s.hook path module listener wantPayload =
        ({ s with
            queue :=
              s.queue ++ [{ hook := { id := s.nextId, path, module, listener, wantPayload } }]
            nextId := s.nextId + 1 }, some s.nextId, [])) ∨
      (s.queueRoom ≤ s.queue.length ∧
        s.hook path module listener wantPayload =
          (s, none, [.notice (.pathHookRefused path module)])) := by
  by_cases h : s.queue.length < s.queueRoom
  · exact Or.inl ⟨h, if_pos h⟩
  · exact Or.inr ⟨Nat.le_of_not_lt h, if_neg h⟩

/-- Registering a hook changes neither the state nor the flag nor the configuration. -/
lemma hook_frame (s : Store) (path module listener : String) (wantPayload : Bool) :
    (s.hook path module listener wantPayload).1.state = s.state ∧
      (s.hook path module listener wantPayload).1.isLoaded = s.isLoaded ∧
      (s.hook path module listener wantPayload).1.config = s.config := by
  rcases s.hook_cases path module listener wantPayload with ⟨-, h⟩ | ⟨-, h⟩ <;> rw [h] <;>
    exact ⟨rfl, rfl, rfl⟩

/-- Registering a hook does not change what is known of the state. -/
@[simp] lemma loaded?_hook (s : Store) (path module listener : String) (wantPayload : Bool) :
    (s.hook path module listener wantPayload).1.loaded? = s.loaded? := by
  obtain ⟨hs, hl, -⟩ := s.hook_frame path module listener wantPayload
  rw [loaded?, loaded?, hs, hl]

end Store

/-! ### Runs -/

/-- A call on a store, or on the receiving end of one of its listeners. -/
inductive StoreStep where
  | hook (path module listener : String) (wantPayload : Bool)
  | unhook (id : Nat)
  | ingest (op : String) (payload : ByteArray)
  /-- Take events from the front of a listener, at most `max` if a limit is given. -/
  | drain (listener : String) (max : Option Nat)
  /-- Drop the receiving end of a listener. -/
  | close (listener : String)

/-- A store, the listeners that its hooks send to, and what it has reported. -/
structure StoreState where
  store : Store
  listeners : Listeners
  signals : List Signal := []

namespace StoreState

/-- A store as it is set up. -/
def ofConfig (config : StateConfig) (listeners : Listeners) : StoreState :=
  { store := { config }, listeners }

/-- Perform one call. -/
def step (w : StoreState) : StoreStep → StoreState
  | .hook path module listener wantPayload =>
    let (store, _, signals) := w.store.hook path module listener wantPayload
    { w with store, signals := w.signals ++ signals }
  | .unhook id => { w with store := w.store.unhook id }
  | .ingest op payload =>
    let (store, listeners, signals) := w.store.ingest w.listeners op payload
    { store, listeners, signals := w.signals ++ signals }
  | .drain listener max =>
    { w with listeners := w.listeners.update listener fun l => (l.take max).2 }
  | .close listener => { w with listeners := w.listeners.update listener (·.close) }

/-- Perform calls one after the other. -/
def run (w : StoreState) (steps : List StoreStep) : StoreState := steps.foldl step w

@[simp] lemma run_cons (w : StoreState) (s : StoreStep) (steps : List StoreStep) :
    w.run (s :: steps) = (w.step s).run steps := rfl

/-- A run can be cut anywhere. -/
lemma run_append (w : StoreState) (before after : List StoreStep) :
    w.run (before ++ after) = (w.run before).run after := List.foldl_append

/-- The last call of a run is performed on what the others have left. -/
lemma run_concat (w : StoreState) (steps : List StoreStep) (s : StoreStep) :
    w.run (steps ++ [s]) = (w.run steps).step s := run_append w steps [s]

/-- No call touches the configuration. -/
@[simp] lemma config_step (w : StoreState) (s : StoreStep) :
    (w.step s).store.config = w.store.config := by
  cases s with
  | hook path module listener wantPayload =>
    exact (w.store.hook_frame path module listener wantPayload).2.2
  | ingest op payload => exact w.store.config_ingest w.listeners op payload
  | unhook => rfl
  | drain => rfl
  | close => rfl

/-- No run touches the configuration. -/
@[simp] lemma config_run (w : StoreState) (steps : List StoreStep) :
    (w.run steps).store.config = w.store.config := by
  induction steps generalizing w with
  | nil => rfl
  | cons s steps ih => rw [run_cons, ih, config_step]

end StoreState

end Intercept
