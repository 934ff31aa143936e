import Intercept.Proofs.Document.Overlay
import Intercept.Proofs.Store.Lifetime

/-!
# What a delta changes, and who is told

Whom a delta notifies is read off its own fields, while what it changes is decided by a merge. A
hook is told once for every field of the delta whose names spell its path (`count_visits`), so
between plain names it is told at most once. Main statements:

* `run_announces_changes`: if a hook's path reads differently after a delta, then the hook is told
  once, or a field above the path was replaced as a whole, and then it is not told;
* `run_announces_iff`: whether a hook is told at most once, and only of what the delta has at its
  path, for any names of fields;
* `run_keeps_fields_iff`: no field at the top of the state goes exactly if the delta is an object.
-/

namespace Intercept

namespace Listeners

variable {ls : Listeners} {name : String} {l : Listener}

/-- An event for another listener leaves the listener of a name as it is. -/
lemma find?_deliver_of_ne (ls : Listeners) {other : String} (hne : name ≠ other) (e : Event) :
    (ls.deliver other e).find? name = ls.find? name := by
  unfold deliver
  split
  · exact find?_update_of_ne ls hne (·.offer e)
  · rfl

/-- An open listener with room takes an event. -/
lemma find?_deliver_of_room (hl : ls.find? name = some l) (hopen : l.isClosed = false)
    (hroom : l.waiting.length < l.capacity) (e : Event) :
    (ls.deliver name e).find? name = some { l with waiting := l.waiting ++ [e] } := by
  have hout : l.outcome = .accepted := by rw [Listener.outcome, hopen, if_pos hroom]; rfl
  have hacc : ls.outcome name = .accepted := by rw [outcome, hl]; exact hout
  rw [deliver, hacc]
  refine (find?_update_self ls name (·.offer e)).trans ?_
  rw [hl, Option.map_some, Listener.offer, hout]

/-- A listener is open and has room for a number of events. -/
def HasRoom (ls : Listeners) (name : String) (n : Nat) : Prop :=
  ∃ l, ls.find? name = some l ∧ l.isClosed = false ∧ l.waiting.length + n ≤ l.capacity

/-- All events for a listener that has room for them are put into it, in their order. -/
lemma waitingAt_offerAll_of_room {events : List (PathHook × Event)}
    (h : ls.HasRoom name (events.countP fun x => x.1.listener = name)) :
    (offerAll ls events).2.waitingAt name =
      ls.waitingAt name ++ (events.filter fun x => x.1.listener = name).map (·.2) := by
  induction events generalizing ls with
  | nil => simp [offerAll]
  | cons x events ih =>
    obtain ⟨g, e⟩ := x
    obtain ⟨l, hl, hopen, hroom⟩ := h
    rw [offerAll]
    by_cases hname : g.listener = name
    · subst hname
      rw [List.countP_cons_of_pos (by simp)] at hroom
      have hfound := find?_deliver_of_room hl hopen (by omega) e
      have hnext : (ls.deliver g.listener e).HasRoom g.listener
          (events.countP fun x => x.1.listener = g.listener) := by
        refine ⟨_, hfound, hopen, ?_⟩
        change (l.waiting ++ [e]).length + _ ≤ l.capacity
        rw [List.length_append, List.length_singleton]
        omega
      have hwaiting : (ls.deliver g.listener e).waitingAt g.listener =
          ls.waitingAt g.listener ++ [e] := by
        rw [waitingAt, waitingAt, hfound, hl]
        rfl
      rw [ih hnext, hwaiting]
      simp
    · rw [List.countP_cons_of_neg (by simpa using hname)] at hroom
      have hfound := ls.find?_deliver_of_ne (Ne.symm hname) e
      rw [ih ⟨l, hfound.trans hl, hopen, hroom⟩, waitingAt_deliver_of_ne ls (Ne.symm hname) e]
      simp [hname]

end Listeners

namespace Store

/-! ### How often a hook is told -/

section Visits

variable {hooks : List PathHook} {h : PathHook}

/-- A hook is told of a delta as often as its path is walked. -/
lemma count_visits_eq_count_walk (hnodup : (hooks.map PathHook.id).Nodup) (hh : h ∈ hooks)
    (delta : Document) : (visits hooks delta).count h = delta.walk.count h.path := by
  have hone : hooks.count h = 1 := List.count_eq_one_of_mem (List.Nodup.of_map _ hnodup) hh
  unfold visits
  induction delta.walk with
  | nil => rfl
  | cons path walk ih =>
    rw [List.flatMap_cons, List.count_append, ih, List.count_cons, Nat.add_comm]
    congr 1
    by_cases hpath : h.path = path
    · rw [List.count_filter (by simpa using hpath), hone, if_pos (by simpa using hpath.symm)]
    · rw [if_neg (by simpa using Ne.symm hpath), List.count_eq_zero]
      exact fun hmem => hpath (of_decide_eq_true (List.mem_filter.1 hmem).2)

/-- A hook is told once for every field of the delta whose names spell its path. -/
theorem count_visits (hnodup : (hooks.map PathHook.id).Nodup) (hh : h ∈ hooks)
    (delta : Document) :
    (visits hooks delta).count h =
      delta.chains.countP fun ks => Document.spell ks = h.path := by
  rw [count_visits_eq_count_walk hnodup hh, Document.count_walk]

/-- Between plain names a hook is told once if its path is walked. -/
lemma count_visits_of_plain (hnodup : (hooks.map PathHook.id).Nodup) (hh : h ∈ hooks)
    {delta : Document} (hplain : delta.HasPlainNames) :
    (visits hooks delta).count h = if h.path ∈ delta.walk then 1 else 0 := by
  rw [count_visits_eq_count_walk hnodup hh]
  exact (Document.nodup_walk_of_plain hplain).count

end Visits

/-- A hook that wants the value and whose path the delta resolves is sent a value. -/
lemma isSome_payload_eventFor {h : PathHook} {delta : Document} (state : Document)
    (hwants : h.wantPayload = true) (hsome : (delta.resolve? h.path).isSome = true) :
    (eventFor (state.merge delta) h).payload.isSome = true := by
  rw [eventFor, if_pos hwants]
  exact Document.isSome_resolve?_merge state hsome

/-- A hook is told of a delta at most once, and only if the delta has something at its path, and is
then given a value if it wants one. -/
def AnnouncesOnce (s : Store) (delta : Document) (h : PathHook) : Prop :=
  (visits s.subscribers delta).count h ≤ 1 ∧
    (h ∈ visits s.subscribers delta → (delta.resolve? h.path).isSome = true ∧
      (h.wantPayload = true → (eventFor (s.state.merge delta) h).payload.isSome = true))

end Store

namespace StoreState

section Delta

variable {w : StoreState} {op : String} {payload : ByteArray} {delta mirror : Document}

/-- The state after a delta. -/
lemma loaded?_step_of_deltaIn? (hmirror : w.store.loaded? = some mirror)
    (hdelta : w.store.config.deltaIn? op payload = some delta) :
    (w.step (.ingest op payload)).store.loaded? = some (mirror.merge delta) := by
  rw [loaded?_step, StateConfig.learn, StateConfig.takeIn,
    StateConfig.snapshotIn?_eq_none_of_deltaIn? hdelta, hdelta, hmirror]
  rfl

/-- What a listener with room for the events of a delta receives. -/
lemma waitingAt_step_of_deltaIn? (hnodup : (w.store.subscribers.map PathHook.id).Nodup)
    (hmirror : w.store.loaded? = some mirror)
    (hdelta : w.store.config.deltaIn? op payload = some delta) {name : String} :
    let sent := (Store.visits w.store.subscribers delta).filter fun g => g.listener = name
    w.listeners.HasRoom name sent.length →
      (w.step (.ingest op payload)).listeners.waitingAt name =
        w.listeners.waitingAt name ++ sent.map (Store.eventFor (mirror.merge delta)) := by
  intro sent hroom
  have hloaded : w.store.isLoaded = true := by rw [Store.isLoaded_eq_isSome, hmirror]; rfl
  have hlisteners : (w.step (.ingest op payload)).listeners =
      (offerAll w.listeners (due w.store.subscribers delta (mirror.merge delta))).2 := by
    rw [step, Store.ingest_of_deltaIn? w.listeners hdelta hloaded,
      w.store.applyDelta_eq w.listeners op delta hnodup, Store.state_of_loaded? hmirror]
  rw [hlisteners, ← Store.map_eventFor_visits, Listeners.waitingAt_offerAll_of_room]
  · rw [List.filter_map, List.map_map]
    rfl
  · rw [List.countP_map]
    exact List.countP_eq_length_filter ▸ hroom

end Delta

/-! ### Changes are announced -/

/-- Calls on a fresh store, in any order, and then a packet with a delta for a loaded state, where
delta and state are objects. The names in the delta are plain, and a hook subscribes to a path that
is not empty, with an open listener that has room for all events of the packet that go there. These
events are put into it. If the path does not read as before, then

* the path is a field of the delta, and exactly one of the events is for the hook; or
* the path is no field of the delta, none of the events is for the hook, and a field above the path
  is one that the delta replaces as a whole. -/
theorem run_announces_changes (c : StateConfig) (ls : Listeners) (steps : List StoreStep)
    {op : String} {payload : ByteArray} {delta mirror : Document} {h : PathHook}
    (hdelta : c.deltaIn? op payload = some delta) (hobject : delta.isObject = true)
    (hplain : delta.HasPlainNames) (hpath : h.path ≠ "") :
    let w := (ofConfig c ls).run steps
    let next := w.step (.ingest op payload)
    let sent := (Store.visits w.store.subscribers delta).filter fun g => g.listener = h.listener
    w.store.loaded? = some mirror → mirror.isObject = true → h ∈ w.store.subscribers →
    w.listeners.HasRoom h.listener sent.length →
    next.store.get? h.path ≠ w.store.get? h.path →
      next.listeners.waitingAt h.listener =
        w.listeners.waitingAt h.listener ++ sent.map (Store.eventFor (mirror.merge delta)) ∧
      ((h.path ∈ delta.walk ∧ sent.count h = 1) ∨
        (h.path ∉ delta.walk ∧ sent.count h = 0 ∧
          ∃ above rest, pathSegments h.path = above ++ rest ∧ above ≠ [] ∧ rest ≠ [] ∧
            Document.ReplacesAt mirror delta above)) := by
  intro w next sent hmirror hmobject hh hroom hchange
  have hconfig : w.store.config = c := config_run (ofConfig c ls) steps
  have hnodup := nodup_subscribers_run c ls steps
  rw [← hconfig] at hdelta
  refine ⟨waitingAt_step_of_deltaIn? hnodup hmirror hdelta hroom, ?_⟩
  have hcount : sent.count h = if h.path ∈ delta.walk then 1 else 0 := by
    rw [List.count_filter (by simp), Store.count_visits_of_plain hnodup hh hplain]
  rw [hcount]
  by_cases hwalk : h.path ∈ delta.walk
  · exact Or.inl ⟨hwalk, if_pos hwalk⟩
  · refine Or.inr ⟨hwalk, if_neg hwalk, ?_⟩
    by_contra hno
    have hchains : pathSegments h.path ∉ delta.chains :=
      fun hmem => hwalk ((Document.mem_walk_iff_of_plain hplain).2 hmem)
    have hsame : (mirror.merge delta).resolve? h.path = mirror.resolve? h.path := by
      rw [Document.resolve?_of_ne_empty _ hpath, Document.resolve?_of_ne_empty _ hpath]
      refine Document.follow?_merge_of_not_mem_chains hmobject hobject (pathSegments_ne_nil _)
        hchains ?_
      intro above rest hsplit habove hrest hreplaces
      exact hno ⟨above, rest, hsplit, habove, hrest, hreplaces⟩
    apply hchange
    rw [Store.get?, Store.get?, loaded?_step_of_deltaIn? hmirror hdelta, hmirror, Option.map_some,
      Option.map_some, Store.lookup, Store.lookup, hsame]

/-- A delta changes a number to which a hook subscribes: the listener gets one event with the new
value. -/
theorem run_announces_changed_number :
    let c : StateConfig := { snapshotOp := "S", snapshotKey := "u", deltaKey := "d" }
    let ls : Listeners := [("l", { capacity := 1 })]
    let steps : List StoreStep :=
      [.ingest "S" "\x7b\"u\":\x7b\"a\":\x7b\"b\":1\x7d\x7d\x7d".toUTF8, .hook "a.b" "m" "l" true]
    let next := ((ofConfig c ls).run steps).step
      (.ingest "q" "\x7b\"d\":\x7b\"a\":\x7b\"b\":2\x7d\x7d\x7d".toUTF8)
    next.listeners.waitingAt "l" = [⟨"a.b", some (.number (.natural 2))⟩] := by
  intro c ls steps next
  let h : PathHook := ⟨0, "a.b", "m", "l", true⟩
  let numbered (n : UInt64) : Document := .ofFields [("a", .ofFields [("b", .number (.natural n))])]
  have hdelta : c.deltaIn? "q" "\x7b\"d\":\x7b\"a\":\x7b\"b\":2\x7d\x7d\x7d".toUTF8 =
      some (numbered 2) := by
    simp only [c, numbered]
    cbv
  have hmirror : ((ofConfig c ls).run steps).store.loaded? = some (numbered 1) := by
    simp only [c, ls, steps, numbered]
    cbv
  have hsubs : ((ofConfig c ls).run steps).store.subscribers = [h] := by
    simp only [c, ls, steps, h]
    cbv
  have hsent : (Store.visits [h] (numbered 2)).filter (fun g => g.listener = h.listener) = [h] := by
    simp only [h, numbered]
    cbv
  have hnext : next.store.loaded? = some ((numbered 1).merge (numbered 2)) :=
    loaded?_step_of_deltaIn? hmirror (by rw [config_run]; exact hdelta)
  have hbefore : ((ofConfig c ls).run steps).store.get? h.path =
      some (.ok (.number (.natural 1))) := by
    rw [Store.get?, hmirror]
    simp only [h, numbered]
    cbv
  have hafter : next.store.get? h.path = some (.ok (.number (.natural 2))) := by
    rw [Store.get?, hnext]
    simp only [h, numbered]
    cbv
  obtain ⟨hwaiting, -⟩ := run_announces_changes c ls steps (h := h) hdelta rfl (by decide +kernel)
    (by decide) hmirror rfl (by simp [hsubs])
    (by rw [hsubs, hsent]; exact ⟨{ capacity := 1 }, rfl, rfl, Nat.le_refl 1⟩)
    (by rw [hbefore, hafter]; simp)
  refine hwaiting.trans ?_
  rw [hsubs, hsent]
  simp only [c, ls, steps, h, numbered]
  cbv

/-- An object of the state is replaced by a number. A hook on a field of that object has room for
all events, reads something else afterwards, and is told nothing. -/
theorem run_keeps_quiet_below_replaced_object :
    let c : StateConfig := { snapshotOp := "S", snapshotKey := "u", deltaKey := "d" }
    let ls : Listeners := [("l", { capacity := 1 })]
    let steps : List StoreStep :=
      [.ingest "S" "\x7b\"u\":\x7b\"a\":\x7b\"b\":1\x7d\x7d\x7d".toUTF8, .hook "a.b" "m" "l" true]
    let payload : ByteArray := "\x7b\"d\":\x7b\"a\":5\x7d\x7d".toUTF8
    let h : PathHook := ⟨0, "a.b", "m", "l", true⟩
    let mirror : Document := .ofFields [("a", .ofFields [("b", .number (.natural 1))])]
    let delta : Document := .ofFields [("a", .number (.natural 5))]
    let w := (ofConfig c ls).run steps
    let next := w.step (.ingest "q" payload)
    let sent := (Store.visits w.store.subscribers delta).filter fun g => g.listener = h.listener
    w.store.loaded? = some mirror ∧ mirror.isObject = true ∧
      c.deltaIn? "q" payload = some delta ∧ delta.isObject = true ∧ delta.HasPlainNames ∧
      h ∈ w.store.subscribers ∧ w.listeners.HasRoom h.listener sent.length ∧
      w.store.get? h.path = some (.ok (.number (.natural 1))) ∧
      next.store.get? h.path = some (.error (.notFound "a.b")) ∧
      next.listeners.waitingAt h.listener = [] := by
  intro c ls steps payload h mirror delta w next sent
  have hmirror : w.store.loaded? = some mirror := by
    simp only [w, c, ls, steps, mirror]
    cbv
  have hdelta : c.deltaIn? "q" payload = some delta := by
    simp only [c, payload, delta]
    cbv
  have hnext : next.store.loaded? = some (mirror.merge delta) :=
    loaded?_step_of_deltaIn? hmirror (by rw [config_run]; exact hdelta)
  have hsubs : w.store.subscribers = [h] := by
    simp only [w, c, ls, steps, h]
    cbv
  have hsent : sent = [] := by
    simp only [sent, hsubs, h, delta]
    cbv
  have hroom : w.listeners.HasRoom h.listener sent.length := by
    rw [hsent]
    exact ⟨{ capacity := 1 }, rfl, rfl, Nat.zero_le 1⟩
  have hwaiting : next.listeners.waitingAt h.listener =
      w.listeners.waitingAt h.listener ++ sent.map (Store.eventFor (mirror.merge delta)) :=
    waitingAt_step_of_deltaIn? (nodup_subscribers_run c ls steps) hmirror
      (by rw [config_run]; exact hdelta) hroom
  refine ⟨hmirror, rfl, hdelta, rfl, by decide +kernel, by simp [hsubs], hroom, ?_, ?_, ?_⟩
  · rw [Store.get?, hmirror]
    simp only [h, mirror]
    cbv
  · rw [Store.get?, hnext]
    simp only [h, mirror, delta]
    cbv
  · rw [hwaiting, hsent]
    rfl

/-! ### Announcements under any names -/

/-- Calls on a fresh store, in any order, and any delta. A subscriber is told as often as fields of
the delta are spelled like its path. It is told at most once, only of what the delta has at its
path, and with a value if it wants one, exactly if no two fields are spelled so and, if one is, the
path leads to a value in the delta. Between plain names this is always so. -/
theorem run_announces_iff (c : StateConfig) (ls : Listeners) (steps : List StoreStep)
    (delta : Document) :
    let s := ((ofConfig c ls).run steps).store
    ∀ h ∈ s.subscribers,
      (Store.visits s.subscribers delta).count h =
        delta.chains.countP (fun ks => Document.spell ks = h.path) ∧
      (s.AnnouncesOnce delta h ↔
        delta.chains.countP (fun ks => Document.spell ks = h.path) ≤ 1 ∧
          ∀ ks ∈ delta.chains, Document.spell ks = h.path →
            (delta.resolve? h.path).isSome = true) ∧
      (delta.HasPlainNames → s.AnnouncesOnce delta h) := by
  intro s h hh
  have hnodup := nodup_subscribers_run c ls steps
  have hcount := Store.count_visits hnodup hh delta
  have htold : h ∈ Store.visits s.subscribers delta ↔
      ∃ ks ∈ delta.chains, Document.spell ks = h.path := by
    rw [← List.count_pos_iff, hcount, List.countP_pos_iff]
    simp only [decide_eq_true_eq]
  have hiff : s.AnnouncesOnce delta h ↔
      delta.chains.countP (fun ks => Document.spell ks = h.path) ≤ 1 ∧
        ∀ ks ∈ delta.chains, Document.spell ks = h.path →
          (delta.resolve? h.path).isSome = true := by
    rw [Store.AnnouncesOnce, hcount, htold]
    refine and_congr_right fun _ => ⟨fun hall ks hks hspell => (hall ⟨ks, hks, hspell⟩).1, ?_⟩
    rintro hall ⟨ks, hks, hspell⟩
    have hsome := hall ks hks hspell
    exact ⟨hsome, fun hwants => Store.isSome_payload_eventFor s.state hwants hsome⟩
  refine ⟨hcount, hiff, fun hplain => hiff.2 ⟨?_, fun ks hks hspell => ?_⟩⟩
  · rw [← hcount, Store.count_visits_of_plain hnodup hh hplain]
    split <;> decide
  · refine Document.isSome_resolve?_of_mem_walk hplain ?_
    rw [Document.walk_eq_map_spell]
    exact List.mem_map.2 ⟨ks, hks, hspell⟩

/-- A delta with two fields, one inside the other: the hook on the inner one is told once. -/
theorem run_announces_inner_field :
    let c : StateConfig := { snapshotOp := "S", snapshotKey := "u", deltaKey := "d" }
    let s := ((ofConfig c []).run [.hook "a.b" "m" "l" true]).store
    s.AnnouncesOnce (.ofFields [("a", .ofFields [("b", .null)])]) ⟨0, "a.b", "m", "l", true⟩ := by
  intro c s
  have hsubs : s.subscribers = [⟨0, "a.b", "m", "l", true⟩] := by
    simp only [s, c]
    cbv
  obtain ⟨-, -, hplain⟩ := run_announces_iff c [] [.hook "a.b" "m" "l" true]
    (.ofFields [("a", .ofFields [("b", .null)])]) ⟨0, "a.b", "m", "l", true⟩
    (hsubs ▸ List.mem_singleton_self _)
  exact hplain (by decide +kernel)

/-- A delta has a field `gold`, and fields `gold` and `x` inside a field with the empty name. The
hook on `gold` is told twice, and the one on `x` although the delta has nothing at `x`. -/
theorem run_announces_below_empty_name :
    let c : StateConfig := { snapshotOp := "S", snapshotKey := "u", deltaKey := "d" }
    let steps : List StoreStep :=
      [.hook "gold" "m" "l" true, .hook "x" "m" "l" true,
        .ingest "S" "\x7b\"u\":\x7b\x7d\x7d".toUTF8]
    let payload : ByteArray :=
      "\x7b\"d\":\x7b\"\":\x7b\"gold\":1,\"x\":1\x7d,\"gold\":2\x7d\x7d".toUTF8
    let delta : Document := .ofFields
      [("", .ofFields [("gold", .number (.natural 1)), ("x", .number (.natural 1))]),
        ("gold", .number (.natural 2))]
    let gold : PathHook := ⟨0, "gold", "m", "l", true⟩
    let x : PathHook := ⟨1, "x", "m", "l", true⟩
    let s := ((ofConfig c []).run steps).store
    c.deltaIn? "q" payload = some delta ∧ s.isLoaded = true ∧
      (Store.visits s.subscribers delta).count gold = 2 ∧
      x ∈ Store.visits s.subscribers delta ∧ delta.resolve? x.path = none ∧
      ¬ s.AnnouncesOnce delta gold ∧ ¬ s.AnnouncesOnce delta x := by
  intro c steps payload delta gold x s
  have hsubs : s.subscribers = [gold, x] := by
    simp only [s, c, steps, gold, x]
    cbv
  have hvisits : Store.visits [gold, x] delta = [gold, x, gold] := by
    simp only [gold, x, delta]
    cbv
  have htwice : (Store.visits s.subscribers delta).count gold = 2 := by
    rw [hsubs, hvisits]
    decide
  have hx : x ∈ Store.visits s.subscribers delta := by
    rw [hsubs, hvisits]
    decide
  have hnone : delta.resolve? x.path = none := by
    simp only [delta, x]
    cbv
  refine ⟨?_, ?_, htwice, hx, hnone, fun h => ?_, fun h => ?_⟩
  · simp only [c, payload, delta]
    cbv
  · simp only [s, c, steps]
    cbv
  · exact absurd (htwice ▸ h.1) (by decide)
  · exact absurd (h.2 hx).1 (by rw [hnone]; decide)

/-! ### The top of the state -/

/-- Calls on a fresh store, in any order, and then a packet of another operation than the snapshot
operation, for a loaded state that is an object. The state is still an object and has all the fields
at the top that it had, exactly if the packet has no delta other than objects. A delta of another
kind takes the place of the whole state. -/
theorem run_keeps_fields_iff (c : StateConfig) (ls : Listeners) (steps : List StoreStep)
    (op : String) (payload : ByteArray) {mirror : Document} (hop : op ≠ c.snapshotOp)
    (hobject : mirror.isObject = true) :
    let w := (ofConfig c ls).run steps
    let next := w.step (.ingest op payload)
    w.store.loaded? = some mirror →
      ((∃ after, next.store.loaded? = some after ∧ after.isObject = true ∧
          ∀ k, (mirror.field? k).isSome = true → (after.field? k).isSome = true) ↔
        ∀ delta, c.deltaIn? op payload = some delta → delta.isObject = true) ∧
      ∀ delta, c.deltaIn? op payload = some delta → delta.isObject = false →
        next.store.loaded? = some delta := by
  intro w next hmirror
  have hconfig : w.store.config = c := config_run (ofConfig c ls) steps
  cases hd : c.deltaIn? op payload with
  | none =>
    have hsame : next.store.loaded? = some mirror := by
      rw [loaded?_step, hconfig, StateConfig.learn, StateConfig.takeIn, StateConfig.snapshotIn?,
        if_neg hop, hd, hmirror]
    exact ⟨⟨fun _ _ h => absurd h (by simp), fun _ => ⟨mirror, hsame, hobject, fun _ hk => hk⟩⟩,
      fun _ h => absurd h (by simp)⟩
  | some delta =>
    have hnext : next.store.loaded? = some (mirror.merge delta) :=
      loaded?_step_of_deltaIn? hmirror (hconfig ▸ hd)
    refine ⟨⟨?_, fun hall => ?_⟩, ?_⟩
    · rintro ⟨after, hafter, hobj, -⟩ _ ⟨⟩
      obtain rfl := Option.some.inj (hnext.symm.trans hafter)
      rwa [Document.isObject_merge] at hobj
    · have hdelta : delta.isObject = true := hall delta rfl
      exact ⟨_, hnext, by rwa [Document.isObject_merge],
        fun k hk => Document.isSome_field?_merge hobject hdelta hk⟩
    · rintro _ ⟨⟩ hno
      rw [hnext, Document.merge_of_not_isObject hno]

/-- A delta that is an object brings a second field: the state keeps the first one. -/
theorem run_keeps_field_beside_new_one :
    let c : StateConfig := { snapshotOp := "S", snapshotKey := "u", deltaKey := "d" }
    let w := (ofConfig c []).run [.ingest "S" "\x7b\"u\":\x7b\"a\":1\x7d\x7d".toUTF8]
    ∃ after, (w.step (.ingest "q" "\x7b\"d\":\x7b\"b\":2\x7d\x7d".toUTF8)).store.loaded? =
      some after ∧ (after.field? "a").isSome = true := by
  intro c w
  have hmirror : w.store.loaded? = some (.ofFields [("a", .number (.natural 1))]) := by
    simp only [w, c]
    cbv
  have hdelta : c.deltaIn? "q" "\x7b\"d\":\x7b\"b\":2\x7d\x7d".toUTF8 =
      some (.ofFields [("b", .number (.natural 2))]) := by
    simp only [c]
    cbv
  obtain ⟨hiff, -⟩ := run_keeps_fields_iff c [] [.ingest "S" "\x7b\"u\":\x7b\"a\":1\x7d\x7d".toUTF8]
    "q" "\x7b\"d\":\x7b\"b\":2\x7d\x7d".toUTF8 (by decide) rfl hmirror
  obtain ⟨after, hafter, -, hkept⟩ := hiff.2 (by rw [hdelta]; rintro _ ⟨⟩; rfl)
  exact ⟨after, hafter, hkept "a" (by cbv)⟩

/-- A delta that is null takes away the whole state. -/
theorem run_loses_fields_to_null :
    let c : StateConfig := { snapshotOp := "S", snapshotKey := "u", deltaKey := "d" }
    let mirror : Document := .ofFields [("a", .number (.natural 1))]
    let payload : ByteArray := "\x7b\"d\":null\x7d".toUTF8
    let w := (ofConfig c []).run [.ingest "S" "\x7b\"u\":\x7b\"a\":1\x7d\x7d".toUTF8]
    "q" ≠ c.snapshotOp ∧ w.store.loaded? = some mirror ∧ mirror.isObject = true ∧
      (mirror.field? "a").isSome = true ∧
      (w.step (.ingest "q" payload)).store.loaded? = some .null ∧
      Document.null.isObject = false ∧ Document.null.field? "a" = none := by
  intro c mirror payload w
  refine ⟨by decide, ?_, rfl, by simp only [mirror]; cbv, ?_, rfl, rfl⟩
  · simp only [w, c, mirror]
    cbv
  · simp only [w, c, payload]
    cbv

end StoreState

end Intercept
