import Intercept.Proofs.Store.Chronicle
import Mathlib

/-!
# Delivery of events

A store behaves as its chronicle tells: after any calls in any order its listeners hold what the
chronicle says, the hooks that the next delta notifies are the subscribers of the record, and it
counts as dropped the attempts that met a full listener. Main statement: `run_delivers_due_events`.

The store keeps registrations in two places, some in the queue and some installed, and a hook that
is unhooked while it waits keeps its place there. `Store.subscribers` is what remains of this when
the next document is taken in. `Agrees` relates a store to a chronicle; each call keeps it, and
`notify` is related to `offerAll` event by event (`foldl_send`).
-/

namespace Intercept

namespace Store

/-- The hooks that the next delta notifies: the installed ones, then the waiting ones that are still
active. -/
def subscribers (s : Store) : List PathHook := s.installWaiting.installed

/-! ### One delta -/

/-- Sending events one by one is offering them one by one; what comes of it is counted, the hooks
with closed listeners are collected newest first, and losses are reported. -/
lemma foldl_send (state : Document) (hooks : List PathHook) (n : Notification) :
    hooks.foldl (Notification.send state) n =
      let offers := offerAll n.listeners (hooks.map fun h => (h, eventFor state h))
      { listeners := offers.2
        delivered := n.delivered + offers.1.countP (·.isAccepted)
        dropped := n.dropped + offers.1.countP (·.isLost)
        closed := (refusedHooks offers.1).reverse ++ n.closed
        signals := n.signals ++ (offers.1.filter (·.isLost)).map fun a =>
          .notice (.eventDropped a.hook.path a.hook.module) } := by
  induction hooks generalizing n with
  | nil => simp [offerAll, refusedHooks]
  | cons h hooks ih =>
    rw [List.foldl_cons, ih, List.map_cons, offerAll]
    cases ho : n.listeners.outcome h.listener with
    | accepted =>
      simp [Notification.send, Listeners.deliver, ho, Attempt.isAccepted, Attempt.isLost,
        Attempt.isRefused, refusedHooks]
      omega
    | full =>
      simp [Notification.send, Listeners.deliver, ho, Attempt.isAccepted, Attempt.isLost,
        Attempt.isRefused, refusedHooks]
      omega
    | closed =>
      simp [Notification.send, Listeners.deliver, ho, Attempt.isAccepted, Attempt.isLost,
        Attempt.isRefused, refusedHooks]

/-- The events that a store sends for a delta are those that are due to its hooks. -/
lemma map_eventFor_visits (hooks : List PathHook) (delta state : Document) :
    (visits hooks delta).map (fun h => (h, eventFor state h)) = due hooks delta state := by
  unfold visits due
  rw [List.map_flatMap]
  congr 1
  funext path
  refine List.map_congr_left fun h hh => ?_
  have hpath : h.path = path := by simpa using (List.mem_filter.1 hh).2
  simp only [eventFor, hpath]

/-- The attempts carry the events that were offered, in their order. -/
lemma map_offerAll (ls : Listeners) (events : List (PathHook × Event)) :
    (offerAll ls events).1.map (fun a => (a.hook, a.event)) = events := by
  induction events generalizing ls with
  | nil => rfl
  | cons x events ih =>
    obtain ⟨h, e⟩ := x
    rw [offerAll, List.map_cons, ih]

/-- An event that is due is for a hook that subscribes to its path, and the delta names that path.
-/
lemma mem_due {hooks : List PathHook} {delta state : Document} {h : PathHook} {e : Event}
    (hd : (h, e) ∈ due hooks delta state) :
    h ∈ hooks ∧ e.path = h.path ∧ h.path ∈ delta.walk := by
  obtain ⟨path, hwalk, hmap⟩ := List.mem_flatMap.1 hd
  obtain ⟨g, hg, heq⟩ := List.mem_map.1 hmap
  obtain ⟨hmem, hpath⟩ := List.mem_filter.1 hg
  obtain ⟨rfl, rfl⟩ := Prod.mk.inj heq
  obtain rfl : g.path = path := of_decide_eq_true hpath
  exact ⟨hmem, rfl, hwalk⟩

/-- A hook is found to have a closed listener if the delta names its path. -/
lemma mem_refusedHooks_due {hooks : List PathHook} (hnodup : (hooks.map PathHook.id).Nodup)
    {h : PathHook} (hh : h ∈ hooks) (ls : Listeners) (delta state : Document) :
    h.id ∈ refusedHooks (offerAll ls (due hooks delta state)).1 ↔
      h.path ∈ delta.walk ∧ ls.outcome h.listener = .closed := by
  rw [mem_refusedHooks_offerAll]
  constructor
  · rintro ⟨⟨g, e⟩, hdue, hid, hclosed⟩
    obtain ⟨hg, -, hwalk⟩ := mem_due hdue
    obtain rfl : g = h := List.inj_on_of_nodup_map hnodup hg hh hid
    exact ⟨hwalk, hclosed⟩
  · rintro ⟨hwalk, hclosed⟩
    have hdue : (h, { path := h.path, payload := _ }) ∈ due hooks delta state :=
      List.mem_flatMap.2 ⟨h.path, hwalk, List.mem_map.2
        ⟨h, List.mem_filter.2 ⟨hh, decide_eq_true rfl⟩, rfl⟩⟩
    exact ⟨_, hdue, rfl, hclosed⟩

/-- The number of hooks that are removed is the number of those with a closed listener, however
often each of them was visited. -/
lemma length_sub_length_filter {hooks : List PathHook} {closed : List Nat}
    (hnodup : (hooks.map PathHook.id).Nodup) (hsub : ∀ n ∈ closed, n ∈ hooks.map PathHook.id) :
    hooks.length - (hooks.filter fun h => !closed.contains h.id).length =
      closed.dedup.length := by
  have hsplit : hooks.length =
      (hooks.filter fun h => closed.contains h.id).length +
        (hooks.filter fun h => !closed.contains h.id).length := by
    simpa [List.countP_eq_length_filter] using
      List.length_eq_countP_add_countP (fun h : PathHook => closed.contains h.id) (l := hooks)
  have hids : ((hooks.filter fun h => closed.contains h.id).map PathHook.id).Perm
      closed.dedup := by
    refine (List.perm_ext_iff_of_nodup ?_ closed.nodup_dedup).2 fun n => ?_
    · exact (List.filter_sublist.map PathHook.id).nodup hnodup
    · rw [List.mem_dedup]
      constructor
      · intro hn
        obtain ⟨h, hh, rfl⟩ := List.mem_map.1 hn
        simpa using (List.mem_filter.1 hh).2
      · intro hn
        obtain ⟨h, hh, rfl⟩ := List.mem_map.1 (hsub n hn)
        exact List.mem_map.2 ⟨h, List.mem_filter.2 ⟨hh, by simpa using hn⟩, rfl⟩
  have hlength := hids.length_eq
  rw [List.length_map] at hlength
  omega

/-- Laying a delta over a state makes the attempts that are due to the subscribers: the listeners
are left as the attempts leave them, the hooks with closed listeners are gone, the lost events are
counted, and all of this is reported. -/
lemma applyDelta_eq (s : Store) (ls : Listeners) (op : String) (delta : Document)
    (hnodup : (s.subscribers.map PathHook.id).Nodup) :
    let state := s.state.merge delta
    let offers := offerAll ls (due s.subscribers delta state)
    s.applyDelta ls op delta =
      ({ s with
          state
          queue := []
          installed := s.subscribers.filter fun h => !(refusedHooks offers.1).contains h.id
          dropped := s.dropped + offers.1.countP (·.isLost) },
        offers.2, reports op offers.1) := by
  intro state offers
  have hsend := foldl_send (s.state.merge delta) (visits s.subscribers delta) { listeners := ls }
  rw [map_eventFor_visits] at hsend
  have hmem : ∀ a ∈ offers.1,
      a.hook ∈ s.subscribers ∧ a.event.path = a.hook.path ∧ a.hook.path ∈ delta.walk := by
    intro a ha
    have hdue : (a.hook, a.event) ∈ due s.subscribers delta state := by
      rw [← map_offerAll ls (due s.subscribers delta state)]
      exact List.mem_map.2 ⟨a, ha, rfl⟩
    exact mem_due hdue
  have hclosed : ∀ n ∈ refusedHooks offers.1, n ∈ s.subscribers.map PathHook.id := by
    intro n hn
    obtain ⟨a, ha, rfl⟩ := List.mem_map.1 hn
    exact List.mem_map.2 ⟨a.hook, (hmem a (List.mem_filter.1 ha).1).1, rfl⟩
  have hremoved := length_sub_length_filter hnodup hclosed
  have hlost : (offers.1.filter (·.isLost)).map
        (fun a => Signal.notice (.eventDropped a.hook.path a.hook.module)) =
      (offers.1.filter (·.isLost)).map
        fun a => Signal.notice (.eventDropped a.event.path a.hook.module) := by
    refine List.map_congr_left fun a ha => ?_
    rw [(hmem a (List.mem_filter.1 ha).1).2.1]
  have hkept : (s.subscribers.filter fun h =>
        !((refusedHooks offers.1).reverse ++ []).contains h.id) =
      s.subscribers.filter fun h => !(refusedHooks offers.1).contains h.id := by
    simp
  have hnotify : notify s.installWaiting.installed delta (s.installWaiting.state.merge delta) ls =
      { listeners := offers.2
        delivered := offers.1.countP (·.isAccepted)
        dropped := offers.1.countP (·.isLost)
        closed := (refusedHooks offers.1).reverse ++ []
        signals := (offers.1.filter (·.isLost)).map fun a =>
          .notice (.eventDropped a.event.path a.hook.module) } := by
    rw [← hlost]
    refine hsend.trans ?_
    simp [offers, state]
  unfold applyDelta
  simp only [hnotify]
  rw [show s.installWaiting.installed = s.subscribers from rfl, hkept, hremoved, reports,
    List.countP_eq_length_filter]
  rfl

/-! ### Registering and removing hooks -/

/-- An accepted registration subscribes behind all others. -/
lemma subscribers_concat (s : Store) (h : PathHook) (n : Nat) :
    subscribers { s with queue := s.queue ++ [{ hook := h }], nextId := n } =
      s.subscribers ++ [h] := by
  simp [subscribers, installWaiting]

/-- A hook that is removed no longer subscribes, wherever it was. -/
lemma subscribers_unhook (s : Store) (id : Nat) :
    (s.unhook id).subscribers = s.subscribers.filter fun h => h.id ≠ id := by
  have hqueue (queue : List Waiting) :
      ((queue.map fun w => if w.hook.id = id then { w with isActive := false } else w).filter
          (·.isActive)).map (·.hook) =
        ((queue.filter (·.isActive)).map (·.hook)).filter fun h => h.id ≠ id := by
    induction queue with
    | nil => rfl
    | cons w queue ih =>
      rw [List.map_cons]
      by_cases hid : w.hook.id = id
      · cases hw : w.isActive <;> simpa [hid, hw] using ih
      · cases hw : w.isActive <;> simpa [hid, hw] using ih
  rw [subscribers, installWaiting, unhook, hqueue, ← List.filter_append]
  rfl

end Store

/-! ### Agreement -/

/-- A store agrees with a chronicle: they know the same state and the same listeners, the same hooks
subscribe in the same order, as many registrations wait, and as many events have been lost. -/
structure Agrees (c : StateConfig) (w : StoreState) (b : Chronicle) : Prop where
  config : w.store.config = c
  listeners : w.listeners = b.listeners
  known : w.store.loaded? = b.state
  subscribers : w.store.subscribers = b.record.subscribers
  waiting : w.store.queue.length = b.record.pending
  nextId : w.store.nextId = b.nextId
  dropped : w.store.dropped = b.record.attempts.countP (·.isLost)

namespace Agrees

variable {c : StateConfig} {w : StoreState} {b : Chronicle}

/-- The number of waiting registrations after one more entry. -/
lemma pending_concat (r : Record) (e : ChronicleEntry) :
    Record.pending (r ++ [e]) =
      match e with
      | .registered _ => Record.pending r + 1
      | .taken _ => 0
      | _ => Record.pending r := by
  rw [Record.pending, List.foldl_append]
  cases e <;> rfl

/-- A registration is accepted by the store exactly if the chronicle has room. -/
lemma hasRoom_iff (h : Agrees c w b) :
    w.store.queue.length < w.store.queueRoom ↔ b.hasRoom c = true := by
  rw [Chronicle.hasRoom, decide_eq_true_iff, ← h.waiting, Store.queueRoom, h.config]

/-- Registering a hook keeps the agreement. -/
lemma hook (h : Agrees c w b) (path module listener : String) (wantPayload : Bool) :
    Agrees c (w.step (.hook path module listener wantPayload))
      (b.step c (.hook path module listener wantPayload)) := by
  rw [StoreState.step, Chronicle.step]
  rcases w.store.hook_cases path module listener wantPayload with ⟨hroom, heq⟩ | ⟨hfull, heq⟩
  · rw [heq, if_pos (h.hasRoom_iff.1 hroom), ← h.nextId]
    constructor
    · exact h.config
    · exact h.listeners
    · exact h.known
    · rw [Store.subscribers_concat, h.subscribers, Record.subscribers_concat]
      simp [ChronicleEntry.register, Register.strikes, Register.standing]
    · rw [pending_concat, ← h.waiting, List.length_append]
      rfl
    · change _ = (Record.registrations _).length
      rw [Record.registrations_concat, List.length_append]
      exact congrArg (· + 1) h.nextId
    · rw [Record.attempts_concat, h.dropped]
      simp [ChronicleEntry.attempts]
  · have hroom : ¬ b.hasRoom c = true := fun hr => absurd (h.hasRoom_iff.2 hr) (by omega)
    rw [heq, if_neg hroom]
    exact ⟨h.config, h.listeners, h.known, h.subscribers, h.waiting, h.nextId, h.dropped⟩

/-- Removing a hook keeps the agreement. -/
lemma unhook (h : Agrees c w b) (id : Nat) :
    Agrees c (w.step (.unhook id)) (b.step c (.unhook id)) := by
  rw [StoreState.step, Chronicle.step]
  constructor
  · exact h.config
  · exact h.listeners
  · exact h.known
  · rw [Store.subscribers_unhook, h.subscribers, Record.subscribers_concat]
    simp [ChronicleEntry.register, Register.strikes, Register.standing, eq_comm]
  · rw [pending_concat, ← h.waiting]
    exact List.length_map _
  · change _ = (Record.registrations _).length
    rw [Record.registrations_concat_of_ne _ (.unhooked id) (by simp)]
    exact h.nextId
  · change w.store.dropped = _
    rw [h.dropped, Record.attempts_concat]
    simp [ChronicleEntry.attempts]

/-- The subscribers after a document was taken in. -/
lemma subscribers_taken (r : Record) (attempts : List Attempt) :
    Record.subscribers (r ++ [.taken attempts]) =
      r.subscribers.filter fun h => !(refusedHooks attempts).contains h.id := by
  rw [Record.subscribers_concat, ChronicleEntry.register, Register.standing_map_struck,
    List.append_nil]
  simp only [Register.strikes_map_struck]

/-- Taking in a packet keeps the agreement. -/
lemma ingest (h : Agrees c w b) (hnodup : (b.record.subscribers.map PathHook.id).Nodup)
    (op : String) (payload : ByteArray) :
    Agrees c (w.step (.ingest op payload)) (b.step c (.ingest op payload)) := by
  rw [Chronicle.step]
  rcases b.takeIn_cases (c := c) op payload with
    ⟨d, hs, hb⟩ | ⟨delta, state, hd, hstate, hb⟩ | ⟨hs, hd, hb⟩
  · have hw := Store.ingest_of_snapshotIn? (s := w.store) w.listeners (by rw [h.config]; exact hs)
    rw [StoreState.step, hw, hb]
    constructor
    · exact h.config
    · exact h.listeners
    · rfl
    · rw [subscribers_taken, ← h.subscribers]
      simp [Store.subscribers, Store.applySnapshot, Store.installWaiting, refusedHooks]
    · rw [pending_concat]
      rfl
    · change _ = (Record.registrations _).length
      rw [Record.registrations_concat_of_ne _ (.taken _) (by simp)]
      exact h.nextId
    · rw [Record.attempts_concat, ChronicleEntry.attempts, List.append_nil]
      exact h.dropped
  · have hloaded : w.store.isLoaded = true := by
      rw [Store.isLoaded_eq_isSome, h.known, hstate]
      rfl
    have hw := Store.ingest_of_deltaIn? (s := w.store) w.listeners (by rw [h.config]; exact hd)
      hloaded
    have hw' := w.store.applyDelta_eq w.listeners op delta (by rw [h.subscribers]; exact hnodup)
    have hmirror : w.store.state = state := Store.state_of_loaded? (h.known.trans hstate)
    rw [StoreState.step, hw, hb, hw', hmirror, h.listeners, h.subscribers]
    constructor
    · exact h.config
    · rfl
    · simp [Store.loaded?, hloaded]
    · rw [subscribers_taken]
      simp [Store.subscribers, Store.installWaiting, Chronicle.offers]
    · rw [pending_concat]
      rfl
    · change _ = (Record.registrations _).length
      rw [Record.registrations_concat_of_ne _ (.taken _) (by simp)]
      exact h.nextId
    · rw [Record.attempts_concat, ChronicleEntry.attempts, List.countP_append, ← h.dropped]
      rfl
  · have hloaded : w.store.config.deltaIn? op payload = none ∨ w.store.isLoaded = false := by
      rw [h.config, Store.isLoaded_eq_isSome, h.known]
      exact hd.imp id fun hb => by rw [hb]; rfl
    obtain ⟨hstore, hls⟩ := Store.ingest_of_none w.listeners (by rw [h.config]; exact hs) hloaded
    have hw : w.step (.ingest op payload) =
        { w with signals := w.signals ++ (w.store.ingest w.listeners op payload).2.2 } := by
      rw [StoreState.step]
      exact congrArg₂ (fun store listeners => StoreState.mk store listeners _) hstore hls
    rw [hw, hb]
    exact ⟨h.config, h.listeners, h.known, h.subscribers, h.waiting, h.nextId, h.dropped⟩

/-- What leaves a listener changes the listeners and nothing else. -/
lemma left (h : Agrees c w b) (ls : Listeners) (name : String) (events : List Event) :
    Agrees c { w with listeners := ls }
      { b with listeners := ls, record := b.record ++ [.left name events] } := by
  constructor
  · exact h.config
  · rfl
  · exact h.known
  · rw [h.subscribers, Record.subscribers_concat]
    simp [ChronicleEntry.register, Register.strikes, Register.standing]
  · rw [pending_concat]
    exact h.waiting
  · change _ = (Record.registrations _).length
    rw [Record.registrations_concat_of_ne _ (.left name events) (by simp)]
    exact h.nextId
  · rw [h.dropped, Record.attempts_concat]
    simp [ChronicleEntry.attempts]

/-- Every call keeps the agreement. -/
theorem step (h : Agrees c w b) (hnodup : (b.record.subscribers.map PathHook.id).Nodup)
    (s : StoreStep) : Agrees c (w.step s) (b.step c s) := by
  cases s with
  | hook path module listener wantPayload => exact h.hook path module listener wantPayload
  | unhook id => exact h.unhook id
  | ingest op payload => exact h.ingest hnodup op payload
  | drain listener max =>
    rw [StoreState.step, Chronicle.step, h.listeners]
    exact h.left _ listener _
  | close listener =>
    rw [StoreState.step, Chronicle.step, h.listeners]
    exact h.left _ listener _

/-- After any calls on a fresh store it agrees with its chronicle. -/
theorem run (c : StateConfig) (ls : Listeners) (steps : List StoreStep) :
    Agrees c ((StoreState.ofConfig c ls).run steps) (Chronicle.ofRun c ls steps) := by
  induction steps using List.reverseRecOn with
  | nil => exact ⟨rfl, rfl, rfl, rfl, rfl, rfl, rfl⟩
  | append_singleton steps s ih =>
    rw [StoreState.run_concat, Chronicle.ofRun_concat]
    exact ih.step (Chronicle.nodup_subscribers steps) s

end Agrees

namespace StoreState

/-- The events of a store are those that its history makes due. After any calls, in any order:

* listeners and state are those of the chronicle, and as many events are counted as dropped as there
  were attempts that met a full listener;
* a registration is answered by its number in the order of registration if there is room for it, and
  refused otherwise;
* the next delta is sent to the hooks that subscribe by the record, along its walk and in the order
  of registration, with the values of the merged state. The listeners are left as the attempts leave
  them one by one, and the attempts are reported. The hooks on its paths whose listener is closed
  are removed, and no others, be their listeners full or not;
* no event overtakes another one of the same listener. -/
theorem run_delivers_due_events (c : StateConfig) (ls : Listeners) (steps : List StoreStep) :
    let w := (ofConfig c ls).run steps
    let b := Chronicle.ofRun c ls steps
    (w.listeners = b.listeners ∧ w.store.loaded? = b.state ∧
      w.store.dropped = b.record.attempts.countP (·.isLost)) ∧
    (∀ path module listener wantPayload,
      (w.store.hook path module listener wantPayload).2.1 =
        if b.hasRoom c then some b.record.registrations.length else none) ∧
    (∀ op payload delta state, c.deltaIn? op payload = some delta → b.state = some state →
      let merged := state.merge delta
      let events := due b.record.subscribers delta merged
      let attempts := (offerAll b.listeners events).1
      let next := w.step (.ingest op payload)
      (Store.visits w.store.subscribers delta).map (fun h => (h, Store.eventFor merged h)) =
        events ∧
      next.store.loaded? = some merged ∧
      next.listeners = (offerAll b.listeners events).2 ∧
      next.store.installed = b.record.subscribers.filter (fun h =>
        ¬ (h.path ∈ delta.walk ∧ b.listeners.outcome h.listener = .closed)) ∧
      next.store.queue = [] ∧
      next.store.dropped = w.store.dropped + attempts.countP (·.isLost) ∧
      next.signals = w.signals ++ reports op attempts) ∧
    (∀ name, ls.waitingAt name ++ b.record.acceptedAt name =
      b.record.leftFrom name ++ w.listeners.waitingAt name) := by
  intro w b
  have h : Agrees c w b := Agrees.run c ls steps
  refine ⟨⟨h.listeners, h.known, h.dropped⟩, ?_, ?_, ?_⟩
  · intro path module listener wantPayload
    rcases w.store.hook_cases path module listener wantPayload with ⟨hroom, heq⟩ | ⟨hfull, heq⟩
    · rw [heq, if_pos (h.hasRoom_iff.1 hroom), h.nextId]
      rfl
    · rw [heq, if_neg fun hr => absurd (h.hasRoom_iff.2 hr) (by omega)]
  · intro op payload delta state hdelta hstate merged events attempts next
    have hloaded : w.store.isLoaded = true := by
      rw [Store.isLoaded_eq_isSome, h.known, hstate]
      rfl
    have hmirror : w.store.state = state := Store.state_of_loaded? (h.known.trans hstate)
    have hnodup : (w.store.subscribers.map PathHook.id).Nodup := by
      rw [h.subscribers]
      exact Chronicle.nodup_subscribers steps
    have hingest := Store.ingest_of_deltaIn? (s := w.store) w.listeners
      (by rw [h.config]; exact hdelta) hloaded
    rw [w.store.applyDelta_eq w.listeners op delta hnodup, hmirror, h.listeners, h.subscribers]
      at hingest
    have hstore : next.store = (w.store.ingest w.listeners op payload).1 := rfl
    have hlisteners : next.listeners = (w.store.ingest w.listeners op payload).2.1 := rfl
    have hsignals : next.signals = w.signals ++ (w.store.ingest w.listeners op payload).2.2 := rfl
    rw [hstore, hlisteners, hsignals, h.listeners, hingest, h.subscribers]
    refine ⟨Store.map_eventFor_visits _ delta merged, ?_, rfl, ?_, rfl, rfl, rfl⟩
    · simp [Store.loaded?, hloaded, merged]
    · refine List.filter_congr fun g hg => ?_
      have hrefused := Store.mem_refusedHooks_due (Chronicle.nodup_subscribers steps) hg b.listeners
        delta merged
      rw [decide_not, List.contains_eq_mem, decide_eq_decide.2 hrefused]
  · intro name
    rw [h.listeners]
    exact Chronicle.waitingAt_append_acceptedAt steps name

/-- Two hooks share a listener with room for one event, and the receiver of a third one is gone: the
first event is put in, the second hook is removed, and the third one stays though its event is lost.
-/
theorem run_delivers_to_shared_listener :
    let c : StateConfig := { snapshotOp := "S", snapshotKey := "u", deltaKey := "d" }
    let ls : Listeners :=
      [("room", { capacity := 1 }), ("gone", { capacity := 1, isClosed := true })]
    let steps : List StoreStep :=
      [.hook "k" "m" "room" false, .hook "k" "m" "gone" false, .hook "k" "m" "room" false,
        .ingest "S" "\x7b\"u\":1\x7d".toUTF8]
    let w := (ofConfig c ls).run steps
    let next := w.step (.ingest "a" "\x7b\"d\":\x7b\"k\":2\x7d\x7d".toUTF8)
    next.store.installed.map PathHook.id = [0, 2] ∧
      next.signals = w.signals ++
        [.notice (.eventDropped "k" "m"), .count .eventsDropped 1,
          .notice (.deltaMerged "a" 1 1 1)] := by
  intro c ls steps w next
  obtain ⟨-, -, hdelta, -⟩ := run_delivers_due_events c ls steps
  obtain ⟨-, -, -, hinstalled, -, -, hsignals⟩ :=
    hdelta "a" "\x7b\"d\":\x7b\"k\":2\x7d\x7d".toUTF8 _ _ (by cbv) (by cbv)
  constructor
  · refine (congrArg (List.map PathHook.id) hinstalled).trans ?_
    cbv
  · refine hsignals.trans (congrArg (w.signals ++ ·) ?_)
    cbv

end StoreState

end Intercept
