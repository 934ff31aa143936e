import Intercept.Proofs.Store.Lifetime
import Mathlib.Logic.Relation

/-!
# Threads that share a store

Any number of threads use one store at the same time. Its state is guarded by a lock; what a thread
does while it holds the lock is one step, and other threads come in between such steps. A snapshot,
the removal of a hook and a read are one step each. Registering a hook is one step too, though it
takes no lock, for it is a single push into a queue. Every other packet takes two steps: the thread
looks whether the state is loaded, and if it is, and the payload holds a delta, lays the delta over
the state later on, when anything may have happened in between. `StoreSystem.Step` lists these steps.

Beside the state `StoreSystem.order` records what has been done to the store, call by call, in the
order of the steps that did it. `Linear` says that the store is what a single thread would have made
of it with the calls in that order, and that every call that is over has its place there. It holds
at the start and is kept by every step (`Linear.of_steps`).
-/

namespace Intercept

/-! ### What the first look of a packet decides -/

namespace Store

/-- What a look at the store decides for a packet of an operation other than the snapshot: the delta
that is to be laid over the state, if the state is loaded and the payload holds one. -/
def sought? (s : Store) (payload : ByteArray) : Option Document :=
  if s.isLoaded then
    if isBlankPayload payload then none
    else
      match extract payload s.config.deltaKey with
      | .found delta => some delta
      | _ => none
  else none

/-- A packet that is taken in at once does what its look decides. -/
lemma ingest_of_sought? {s : Store} (ls : Listeners) {op : String} (hop : op ≠ s.config.snapshotOp)
    (payload : ByteArray) :
    s.ingest ls op payload =
      match s.sought? payload with
      | some delta => s.applyDelta ls op delta
      | none => (s, ls, []) := by
  rw [ingest, if_neg hop, sought?]
  cases s.isLoaded with
  | false => rfl
  | true =>
    simp only [if_true]
    unfold ingestDelta
    cases isBlankPayload payload with
    | true => rfl
    | false => cases extract payload s.config.deltaKey <;> rfl

/-- A delta is sought in a loaded store only, and is what the payload holds at the delta key. -/
lemma deltaIn?_of_sought? {s : Store} {op : String} (hop : op ≠ s.config.snapshotOp)
    {payload : ByteArray} {delta : Document} (h : s.sought? payload = some delta) :
    s.isLoaded = true ∧ s.config.deltaIn? op payload = some delta := by
  unfold sought? at h
  split_ifs at h with hloaded hblank
  · refine ⟨hloaded, ?_⟩
    rw [StateConfig.deltaIn?, if_neg hop]
    cases hx : extract payload s.config.deltaKey with
    | found d =>
      rw [hx] at h
      obtain rfl : d = delta := Option.some.inj h
      exact extract_eq_found_iff.1 hx
    | malformed =>
      rw [hx] at h
      contradiction
    | absent =>
      rw [hx] at h
      contradiction

end Store

namespace StoreState

/-- A packet of the snapshot operation replaces the state. -/
def takeSnapshot (w : StoreState) (op : String) (payload : ByteArray) : StoreState :=
  let (store, signals) := w.store.ingestSnapshot op payload
  { w with store, signals := w.signals ++ signals }

/-- Lay a delta over the state, and notify the hooks. -/
def mergeDelta (w : StoreState) (op : String) (delta : Document) : StoreState :=
  let (store, listeners, signals) := w.store.applyDelta w.listeners op delta
  { store, listeners, signals := w.signals ++ signals }

/-- A packet of the snapshot operation that is taken in at once. -/
lemma step_ingest_of_snapshotOp (w : StoreState) {op : String}
    (hop : op = w.store.config.snapshotOp) (payload : ByteArray) :
    w.step (.ingest op payload) = w.takeSnapshot op payload := by
  rw [step, Store.ingest, if_pos hop]
  rfl

/-- A packet that is taken in at once, and finds nothing to do. -/
lemma step_ingest_of_sought?_eq_none (w : StoreState) {op : String}
    (hop : op ≠ w.store.config.snapshotOp) {payload : ByteArray}
    (h : w.store.sought? payload = none) : w.step (.ingest op payload) = w := by
  rw [step, Store.ingest_of_sought? w.listeners hop, h]
  exact congrArg (StoreState.mk w.store w.listeners) (List.append_nil w.signals)

/-- A packet with a delta that is taken in at once. -/
lemma step_ingest_of_deltaIn? (w : StoreState) {op : String} {payload : ByteArray}
    {delta : Document} (h : w.store.config.deltaIn? op payload = some delta)
    (hloaded : w.store.isLoaded = true) :
    w.step (.ingest op payload) = w.mergeDelta op delta := by
  rw [step, Store.ingest_of_deltaIn? w.listeners h hloaded]
  rfl

end StoreState

/-! ### Threads and their calls -/

/-- What a thread may ask of a store. -/
inductive StoreCall where
  | ingest (op : String) (payload : ByteArray)
  | get (path : String)
  /-- Wait for whoever holds the lock. -/
  | barrier
  | hook (path module listener : String) (wantPayload : Bool)
  | unhook (id : Nat)

/-- What a call answers. -/
inductive CallAnswer where
  | done
  | value (result : Except EngineError Document)
  | registered (id : Option Nat)

/-- How far a call has come. -/
inductive CallPhase where
  | called
  /-- The look of a packet has decided that a delta is to be laid over the state. -/
  | merging (delta : Document)
  /-- All has been done but to return; so many calls had been done before. -/
  | finished (place : Nat) (answer : CallAnswer) (hasReturned : Bool)

/-- A call of a thread. -/
structure StoreTask where
  thread : Nat
  call : StoreCall
  phase : CallPhase

/-- What a call does to a store; reads and barriers leave it as it is. -/
def StoreCall.acts? : StoreCall → Option StoreStep
  | .ingest op payload => some (.ingest op payload)
  | .hook path module listener wantPayload => some (.hook path module listener wantPayload)
  | .unhook id => some (.unhook id)
  | .get _ => none
  | .barrier => none

/-- Calls that do the same are the same. -/
lemma StoreCall.acts?_inj {a b : StoreCall} {s : StoreStep} (ha : a.acts? = some s)
    (hb : b.acts? = some s) : a = b := by
  cases a <;> cases ha <;> cases b <;> cases hb <;> rfl

namespace StoreTask

/-- Whether a call has returned. -/
def hasReturned (t : StoreTask) : Bool :=
  match t.phase with
  | .finished _ _ hasReturned => hasReturned
  | _ => false

/-- The place and the answer of a call that is over. -/
def result? (t : StoreTask) : Option (Nat × CallAnswer) :=
  match t.phase with
  | .finished place answer _ => some (place, answer)
  | _ => none

end StoreTask

/-- A store that is shared by threads. -/
structure StoreSystem where
  shared : StoreState
  /-- All calls that were ever made, in the order in which they began. -/
  tasks : List StoreTask := []
  /-- What was done to the store, in the order of the steps that did it. -/
  order : List StoreStep := []

namespace StoreSystem

/-- A store that nobody has used yet. -/
def ofConfig (c : StateConfig) (ls : Listeners) : StoreSystem :=
  { shared := StoreState.ofConfig c ls }

/-- A call has come further. -/
def advance (w : StoreSystem) (k : Nat) (phase : CallPhase) : StoreSystem :=
  { w with tasks := w.tasks.modify k fun t => { t with phase } }

/-- A call has done what it does to the store. -/
def act (w : StoreSystem) (k : Nat) (s : StoreStep) (shared : StoreState) (answer : CallAnswer) :
    StoreSystem :=
  { w.advance k (.finished w.order.length answer false) with shared, order := w.order ++ [s] }

/-- A step of a thread, or of a receiver. -/
inductive Step : StoreSystem → StoreSystem → Prop
  /-- A thread whose calls have all returned makes another one. Only a hook that has been registered
  can be removed. -/
  | call {w : StoreSystem} (thread : Nat) (call : StoreCall)
      (hidle : ∀ t ∈ w.tasks, t.thread = thread → t.hasReturned = true)
      (hhandle : ∀ id, call = .unhook id → id < w.shared.store.nextId) :
      Step w { w with tasks := w.tasks ++ [⟨thread, call, .called⟩] }
  | snapshot {w : StoreSystem} {k thread : Nat} {op : String} {payload : ByteArray}
      (htask : w.tasks[k]? = some ⟨thread, .ingest op payload, .called⟩)
      (hop : op = w.shared.store.config.snapshotOp) :
      Step w (w.act k (.ingest op payload) (w.shared.takeSnapshot op payload) .done)
  /-- A packet finds nothing to do for it. -/
  | dismiss {w : StoreSystem} {k thread : Nat} {op : String} {payload : ByteArray}
      (htask : w.tasks[k]? = some ⟨thread, .ingest op payload, .called⟩)
      (hop : op ≠ w.shared.store.config.snapshotOp)
      (hnone : w.shared.store.sought? payload = none) :
      Step w (w.act k (.ingest op payload) w.shared .done)
  /-- A packet finds the state loaded, and has a delta. -/
  | look {w : StoreSystem} {k thread : Nat} {op : String} {payload : ByteArray} {delta : Document}
      (htask : w.tasks[k]? = some ⟨thread, .ingest op payload, .called⟩)
      (hop : op ≠ w.shared.store.config.snapshotOp)
      (hsome : w.shared.store.sought? payload = some delta) :
      Step w (w.advance k (.merging delta))
  | merge {w : StoreSystem} {k thread : Nat} {op : String} {payload : ByteArray} {delta : Document}
      (htask : w.tasks[k]? = some ⟨thread, .ingest op payload, .merging delta⟩) :
      Step w (w.act k (.ingest op payload) (w.shared.mergeDelta op delta) .done)
  /-- A read waits until the state is loaded. -/
  | get {w : StoreSystem} {k thread : Nat} {path : String} {state : Document}
      (htask : w.tasks[k]? = some ⟨thread, .get path, .called⟩)
      (hloaded : w.shared.store.loaded? = some state) :
      Step w (w.advance k (.finished w.order.length (.value (Store.lookup state path)) false))
  | barrier {w : StoreSystem} {k thread : Nat}
      (htask : w.tasks[k]? = some ⟨thread, .barrier, .called⟩) :
      Step w (w.advance k (.finished w.order.length .done false))
  | hook {w : StoreSystem} {k thread : Nat} {path module listener : String} {wantPayload : Bool}
      (htask : w.tasks[k]? = some ⟨thread, .hook path module listener wantPayload, .called⟩) :
      Step w (w.act k (.hook path module listener wantPayload)
        (w.shared.step (.hook path module listener wantPayload))
        (.registered (w.shared.store.hook path module listener wantPayload).2.1))
  | unhook {w : StoreSystem} {k thread id : Nat}
      (htask : w.tasks[k]? = some ⟨thread, .unhook id, .called⟩) :
      Step w (w.act k (.unhook id) (w.shared.step (.unhook id)) .done)
  | finish {w : StoreSystem} {k thread place : Nat} {call : StoreCall} {answer : CallAnswer}
      (htask : w.tasks[k]? = some ⟨thread, call, .finished place answer false⟩) :
      Step w (w.advance k (.finished place answer true))
  /-- A receiver takes events out of its listener. -/
  | drain {w : StoreSystem} (listener : String) (max : Option Nat) :
      Step w { w with
        shared := w.shared.step (.drain listener max)
        order := w.order ++ [.drain listener max] }
  /-- A receiver goes away. -/
  | close {w : StoreSystem} (listener : String) :
      Step w { w with
        shared := w.shared.step (.close listener)
        order := w.order ++ [.close listener] }

/-- What can come of a system by any steps, in any interleaving. -/
abbrev Steps : StoreSystem → StoreSystem → Prop := Relation.ReflTransGen Step

/-! ### Calls in their places -/

section Sound

variable (c : StateConfig) (ls : Listeners)

/-- A call has a place in the order of what was done. There stands what it did to the store, and it
answers what it would have answered if it had been made there. -/
def Placed (order : List StoreStep) (place : Nat) (answer : CallAnswer) : StoreCall → Prop
  | .ingest op payload => order[place]? = some (.ingest op payload)
  | .get path => place ≤ order.length ∧
      ∃ state, c.replay (order.take place) = some state ∧
        answer = .value (Store.lookup state path)
  | .barrier => place ≤ order.length
  | .hook path module listener wantPayload =>
    order[place]? = some (.hook path module listener wantPayload) ∧
      answer = .registered (((StoreState.ofConfig c ls).run (order.take place)).store.hook path
        module listener wantPayload).2.1
  | .unhook id => order[place]? = some (.unhook id) ∧
      id < ((StoreState.ofConfig c ls).run (order.take place)).store.nextId

/-- What is known of a call. A hook that is to be removed has been registered, a delta that is about
to be laid over the state was found in a packet when the state was loaded, and what is over has its
place. -/
def Sound (order : List StoreStep) (t : StoreTask) : Prop :=
  match t.phase with
  | .called => ∀ id, t.call = .unhook id → id < ((StoreState.ofConfig c ls).run order).store.nextId
  | .merging delta => ∃ op payload, t.call = .ingest op payload ∧
      c.deltaIn? op payload = some delta ∧
      ((StoreState.ofConfig c ls).run order).store.isLoaded = true
  | .finished place answer _ => Placed c ls order place answer t.call

end Sound

variable {c : StateConfig} {ls : Listeners}

/-- A call keeps its place when more is done. -/
lemma Placed.append {order : List StoreStep} {place : Nat} {answer : CallAnswer} {call : StoreCall}
    (h : Placed c ls order place answer call) (more : List StoreStep) :
    Placed c ls (order ++ more) place answer call := by
  have hget : ∀ {s}, order[place]? = some s →
      (order ++ more)[place]? = some s ∧ (order ++ more).take place = order.take place := by
    intro s hs
    have hlt := (List.getElem?_eq_some_iff.1 hs).1
    exact ⟨(List.getElem?_append_left hlt).trans hs,
      List.take_append_of_le_length (Nat.le_of_lt hlt)⟩
  have hle : order.length ≤ (order ++ more).length := by
    rw [List.length_append]
    exact Nat.le_add_right _ _
  cases call with
  | ingest op payload => exact (hget h).1
  | get path =>
    obtain ⟨hplace, state, hstate, hanswer⟩ := h
    refine ⟨Nat.le_trans hplace hle, state, ?_, hanswer⟩
    rwa [List.take_append_of_le_length hplace]
  | barrier => exact Nat.le_trans h hle
  | hook path module listener wantPayload =>
    obtain ⟨hs, hanswer⟩ := h
    obtain ⟨hs', htake⟩ := hget hs
    exact ⟨hs', htake ▸ hanswer⟩
  | unhook id =>
    obtain ⟨hs, hid⟩ := h
    obtain ⟨hs', htake⟩ := hget hs
    exact ⟨hs', htake ▸ hid⟩

/-- What is known of a call stays true when one more thing is done. -/
lemma Sound.concat {order : List StoreStep} {t : StoreTask} (h : Sound c ls order t)
    (s : StoreStep) : Sound c ls (order ++ [s]) t := by
  unfold Sound at h ⊢
  have hafter := (StoreState.ofConfig c ls).run_concat order s
  cases hphase : t.phase with
  | called =>
    rw [hphase] at h
    intro id hcall
    rw [hafter]
    exact Nat.lt_of_lt_of_le (h id hcall) (((StoreState.ofConfig c ls).run order).nextId_le_step s)
  | merging delta =>
    rw [hphase] at h
    obtain ⟨op, payload, hcall, hdelta, hloaded⟩ := h
    refine ⟨op, payload, hcall, hdelta, ?_⟩
    rw [hafter]
    exact StoreState.isLoaded_step hloaded s
  | finished place answer hasReturned =>
    rw [hphase] at h
    exact h.append [s]

/-- The store is what a single thread would have made of it with what was done in its order, and so
much is known of every call. -/
structure Linear (c : StateConfig) (ls : Listeners) (w : StoreSystem) : Prop where
  shared : w.shared = (StoreState.ofConfig c ls).run w.order
  sound : ∀ t ∈ w.tasks, Sound c ls w.order t

/-- The calls of a system in which one of them has come further. -/
lemma getElem?_advance (w : StoreSystem) (k : Nat) (phase : CallPhase) (j : Nat) :
    (w.advance k phase).tasks[j]? =
      (w.tasks[j]?).map fun t => if k = j then { t with phase } else t :=
  List.getElem?_modify _ _ _ _

/-- A call that is in a system after one of them has come further. -/
lemma cases_advance {w : StoreSystem} {k j : Nat} {phase : CallPhase} {t u : StoreTask}
    (htask : w.tasks[k]? = some t) (hu : (w.advance k phase).tasks[j]? = some u) :
    (k = j ∧ u = { t with phase }) ∨ (k ≠ j ∧ w.tasks[j]? = some u) := by
  rw [getElem?_advance] at hu
  obtain ⟨v, hv, rfl⟩ := Option.map_eq_some_iff.1 hu
  by_cases hk : k = j
  · subst hk
    obtain rfl : t = v := Option.some.inj (htask.symm.trans hv)
    exact Or.inl ⟨rfl, if_pos rfl⟩
  · rw [if_neg hk]
    exact Or.inr ⟨hk, hv⟩

namespace Linear

variable {w w' : StoreSystem}

/-- The configuration is what it was at the start. -/
lemma config (h : Linear c ls w) : w.shared.store.config = c := by
  rw [h.shared]
  exact StoreState.config_run _ _

/-- A call comes further without touching the store. -/
lemma advance (h : Linear c ls w) {k : Nat} {t : StoreTask} (htask : w.tasks[k]? = some t)
    {phase : CallPhase} (hsound : Sound c ls w.order { t with phase }) :
    Linear c ls (w.advance k phase) := by
  refine ⟨h.shared, fun u hu => ?_⟩
  obtain ⟨j, hj⟩ := List.mem_iff_getElem?.1 hu
  rcases cases_advance htask hj with ⟨-, rfl⟩ | ⟨-, hold⟩
  · exact hsound
  · exact h.sound u (List.mem_of_getElem? hold)

/-- Doing one more thing is what a single thread would have done. -/
lemma shared_step (h : Linear c ls w) (s : StoreStep) :
    w.shared.step s = (StoreState.ofConfig c ls).run (w.order ++ [s]) := by
  rw [h.shared, StoreState.run_concat]

/-- A call does to the store what a single thread would have done. -/
lemma act (h : Linear c ls w) {k : Nat} {t : StoreTask} (htask : w.tasks[k]? = some t)
    {s : StoreStep} {shared : StoreState} {answer : CallAnswer}
    (hshared : shared = w.shared.step s)
    (hplaced : Placed c ls (w.order ++ [s]) w.order.length answer t.call) :
    Linear c ls (w.act k s shared answer) := by
  refine ⟨hshared.trans (h.shared_step s), fun u hu => ?_⟩
  obtain ⟨j, hj⟩ := List.mem_iff_getElem?.1 hu
  rcases cases_advance htask hj with ⟨-, rfl⟩ | ⟨-, hold⟩
  · exact hplaced
  · exact (h.sound u (List.mem_of_getElem? hold)).concat s

/-- A receiver does something. -/
lemma receive (h : Linear c ls w) (s : StoreStep) :
    Linear c ls { w with shared := w.shared.step s, order := w.order ++ [s] } :=
  ⟨h.shared_step s, fun u hu => (h.sound u hu).concat s⟩

/-- Every step keeps the store what a single thread would have made of it. -/
theorem step (h : Linear c ls w) (hstep : Step w w') : Linear c ls w' := by
  have hlast (s : StoreStep) : (w.order ++ [s])[w.order.length]? = some s :=
    List.getElem?_concat_length
  have htake (s : StoreStep) :
      (StoreState.ofConfig c ls).run ((w.order ++ [s]).take w.order.length) = w.shared := by
    rw [List.take_left, h.shared]
  cases hstep with
  | call thread call hidle hhandle =>
    refine ⟨h.shared, fun u hu => ?_⟩
    rcases List.mem_append.1 hu with hold | hnew
    · exact h.sound u hold
    · obtain rfl := List.mem_singleton.1 hnew
      intro id hid
      exact h.shared ▸ hhandle id hid
  | snapshot htask hop =>
    exact h.act htask (w.shared.step_ingest_of_snapshotOp hop _).symm (hlast _)
  | dismiss htask hop hnone =>
    exact h.act htask (w.shared.step_ingest_of_sought?_eq_none hop hnone).symm (hlast _)
  | look htask hop hsome =>
    obtain ⟨hloaded, hdelta⟩ := Store.deltaIn?_of_sought? hop hsome
    exact h.advance htask ⟨_, _, rfl, h.config ▸ hdelta, h.shared ▸ hloaded⟩
  | merge htask =>
    obtain ⟨op, payload, hcall, hdelta, hloaded⟩ := h.sound _ (List.mem_of_getElem? htask)
    obtain ⟨rfl, rfl⟩ := StoreCall.ingest.inj hcall
    rw [← h.config] at hdelta
    rw [← h.shared] at hloaded
    exact h.act htask (w.shared.step_ingest_of_deltaIn? hdelta hloaded).symm (hlast _)
  | get htask hloaded =>
    rw [h.shared, StoreState.loaded?_run_ofConfig] at hloaded
    refine h.advance htask ⟨Nat.le_refl _, _, ?_, rfl⟩
    rw [List.take_length]
    exact hloaded
  | barrier htask => exact h.advance htask (Nat.le_refl _)
  | hook htask =>
    refine h.act htask rfl ⟨hlast _, ?_⟩
    rw [htake]
  | unhook htask =>
    have hid := h.sound _ (List.mem_of_getElem? htask) _ rfl
    refine h.act htask rfl ⟨hlast _, ?_⟩
    rw [htake, h.shared]
    exact hid
  | finish htask =>
    have hplaced := h.sound _ (List.mem_of_getElem? htask)
    exact h.advance htask hplaced
  | drain listener max => exact h.receive (.drain listener max)
  | close listener => exact h.receive (.close listener)

/-- A system that was set up and used by threads in any way is what a single thread would have made
of it. -/
theorem of_steps (hsteps : Steps (ofConfig c ls) w) : Linear c ls w := by
  induction hsteps with
  | refl => exact ⟨rfl, fun t ht => absurd ht List.not_mem_nil⟩
  | tail _ hstep ih => exact ih.step hstep

end Linear

end StoreSystem

end Intercept
