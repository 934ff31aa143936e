import Intercept.Proofs.Store.Delivery
import Intercept.Proofs.Store.Replay

/-!
# How long a hook subscribes

From its registration on a hook subscribes until it is unhooked, or its receiver is gone and there is
nobody left to tell (`subscribes_run`). Once it has been unhooked it never subscribes again
(`unsubscribed_run`). Both are said of single calls first.

The numbers of registrations only grow (`nextId_le_step`), so that no later hook is taken for an
earlier one, and a store that is loaded stays loaded (`isLoaded_step`).
-/

namespace Intercept

namespace Listeners

/-- Offering events closes no listener and opens none. -/
lemma outcome_offerAll_eq_closed_iff (ls : Listeners) (events : List (PathHook × Event))
    (name : String) :
    (offerAll ls events).2.outcome name = .closed ↔ ls.outcome name = .closed := by
  induction events generalizing ls with
  | nil => rfl
  | cons x events ih =>
    obtain ⟨h, e⟩ := x
    rw [offerAll, ih, outcome_deliver_eq_closed_iff]

/-- A closed listener is still closed after a change that opens none. -/
lemma outcome_update_of_closed {ls : Listeners} {name : String} (h : ls.outcome name = .closed)
    (changed : String) {f : Listener → Listener}
    (hf : ∀ l : Listener, l.isClosed = true → (f l).isClosed = true) :
    (ls.update changed f).outcome name = .closed := by
  rw [outcome_eq_closed_iff] at h ⊢
  intro l hl
  by_cases hname : name = changed
  · subst hname
    rw [find?_update_self] at hl
    obtain ⟨l', hl', rfl⟩ := Option.map_eq_some_iff.1 hl
    exact hf l' (h l' hl')
  · rw [find?_update_of_ne ls hname] at hl
    exact h l hl

end Listeners

namespace StoreState

variable {w : StoreState}

/-! ### One call -/

/-- The attempts to send events that a delta calls for, as the state and the subscribers are now. -/
def attempts (w : StoreState) (delta : Document) : List Attempt :=
  (offerAll w.listeners (due w.store.subscribers delta (w.store.state.merge delta))).1

/-- What a packet does to the subscribers and the listeners: nothing, or a delta is laid over the
state and its attempts are made. -/
lemma step_ingest_cases (hnodup : (w.store.subscribers.map PathHook.id).Nodup) (op : String)
    (payload : ByteArray) :
    ((w.step (.ingest op payload)).store.subscribers = w.store.subscribers ∧
      (w.step (.ingest op payload)).listeners = w.listeners) ∨
    ∃ delta, (w.step (.ingest op payload)).store.subscribers =
        (w.store.subscribers.filter fun h => !(refusedHooks (w.attempts delta)).contains h.id) ∧
      (w.step (.ingest op payload)).listeners =
        (offerAll w.listeners (due w.store.subscribers delta (w.store.state.merge delta))).2 := by
  rcases w.store.ingest_cases op payload with ⟨d, h⟩ | ⟨delta, h, hloaded⟩ | ⟨hs, hd⟩
  · refine Or.inl ?_
    rw [step, Store.ingest_of_snapshotIn? w.listeners h]
    exact ⟨List.append_nil _, rfl⟩
  · refine Or.inr ⟨delta, ?_⟩
    rw [step, Store.ingest_of_deltaIn? w.listeners h hloaded,
      w.store.applyDelta_eq w.listeners op delta hnodup]
    exact ⟨List.append_nil _, rfl⟩
  · obtain ⟨hstore, hlisteners⟩ := Store.ingest_of_none w.listeners hs hd
    exact Or.inl ⟨congrArg Store.subscribers hstore, hlisteners⟩

/-- Numbers of hooks are not given back. -/
lemma nextId_le_step (w : StoreState) (s : StoreStep) :
    w.store.nextId ≤ (w.step s).store.nextId := by
  cases s with
  | hook path module listener wantPayload =>
    rw [step]
    rcases w.store.hook_cases path module listener wantPayload with ⟨-, h⟩ | ⟨-, h⟩
    · rw [h]
      exact Nat.le_succ _
    · exact Nat.le_of_eq (congrArg (·.1.nextId) h).symm
  | ingest op payload => exact Nat.le_of_eq (w.store.nextId_ingest w.listeners op payload).symm
  | unhook id => exact Nat.le_refl _
  | drain listener max => exact Nat.le_refl _
  | close listener => exact Nat.le_refl _

/-- A store that is loaded stays loaded. -/
lemma isLoaded_step (hloaded : w.store.isLoaded = true) (s : StoreStep) :
    (w.step s).store.isLoaded = true := by
  rw [Store.isLoaded_eq_isSome] at hloaded ⊢
  rw [loaded?_step]
  obtain ⟨state, hstate⟩ := Option.isSome_iff_exists.1 hloaded
  cases hs : w.store.config.snapshotOf? s with
  | some d =>
    rw [StateConfig.learn_of_snapshot hs]
    rfl
  | none =>
    rw [StateConfig.learn_of_no_snapshot hs, hstate]
    rfl

/-- No call opens a listener. -/
lemma outcome_step_of_closed (hnodup : (w.store.subscribers.map PathHook.id).Nodup) {name : String}
    (h : w.listeners.outcome name = .closed) (s : StoreStep) :
    (w.step s).listeners.outcome name = .closed := by
  cases s with
  | ingest op payload =>
    rcases step_ingest_cases hnodup op payload with ⟨-, heq⟩ | ⟨delta, -, heq⟩
    · rwa [heq]
    · rw [heq]
      exact (Listeners.outcome_offerAll_eq_closed_iff _ _ _).2 h
  | drain listener max =>
    exact Listeners.outcome_update_of_closed (f := fun l => (l.take max).2) h listener
      fun _ hl => hl
  | close listener => exact Listeners.outcome_update_of_closed h listener fun _ _ => rfl
  | hook path module listener wantPayload => exact h
  | unhook id => exact h

/-- A hook that subscribes still does after a call, unless it was unhooked or its listener was found
to be closed. -/
lemma mem_subscribers_step (hnodup : (w.store.subscribers.map PathHook.id).Nodup) {h : PathHook}
    (hh : h ∈ w.store.subscribers) {s : StoreStep} (hs : s ≠ .unhook h.id) :
    h ∈ (w.step s).store.subscribers ∨ w.listeners.outcome h.listener = .closed := by
  cases s with
  | hook path module listener wantPayload =>
    refine Or.inl ?_
    rw [step]
    rcases w.store.hook_cases path module listener wantPayload with ⟨-, heq⟩ | ⟨-, heq⟩
    · rw [heq, Store.subscribers_concat]
      exact List.mem_append_left _ hh
    · rw [heq]
      exact hh
  | unhook id =>
    have hne : h.id ≠ id := fun heq => hs (congrArg StoreStep.unhook heq.symm)
    refine Or.inl ?_
    rw [step, Store.subscribers_unhook]
    exact List.mem_filter.2 ⟨hh, decide_eq_true hne⟩
  | ingest op payload =>
    rcases step_ingest_cases hnodup op payload with ⟨heq, -⟩ | ⟨delta, heq, -⟩
    · exact Or.inl (heq ▸ hh)
    · by_cases hrefused : h.id ∈ refusedHooks (w.attempts delta)
      · exact Or.inr ((Store.mem_refusedHooks_due hnodup hh _ _ _).1 hrefused).2
      · rw [heq]
        exact Or.inl (List.mem_filter.2 ⟨hh, by simpa using hrefused⟩)
  | drain listener max => exact Or.inl hh
  | close listener => exact Or.inl hh

/-- A hook that subscribes after a call did so before, or was registered by it. -/
lemma mem_subscribers_of_step (hnodup : (w.store.subscribers.map PathHook.id).Nodup) {h : PathHook}
    {s : StoreStep} (hh : h ∈ (w.step s).store.subscribers) :
    h ∈ w.store.subscribers ∨ h.id = w.store.nextId := by
  cases s with
  | hook path module listener wantPayload =>
    rw [step] at hh
    rcases w.store.hook_cases path module listener wantPayload with ⟨-, heq⟩ | ⟨-, heq⟩
    · rw [heq, Store.subscribers_concat] at hh
      exact (List.mem_append.1 hh).imp id fun hnew =>
        congrArg PathHook.id (List.mem_singleton.1 hnew)
    · rw [heq] at hh
      exact Or.inl hh
  | unhook id =>
    rw [step, Store.subscribers_unhook] at hh
    exact Or.inl (List.mem_filter.1 hh).1
  | ingest op payload =>
    refine Or.inl ?_
    rcases step_ingest_cases hnodup op payload with ⟨heq, -⟩ | ⟨delta, heq, -⟩
    · exact heq ▸ hh
    · rw [heq] at hh
      exact (List.mem_filter.1 hh).1
  | drain listener max => exact Or.inl hh
  | close listener => exact Or.inl hh

/-! ### Runs -/

section Run

variable (c : StateConfig) (ls : Listeners)

/-- No two subscribers have one number. -/
lemma nodup_subscribers_run (steps : List StoreStep) :
    (((ofConfig c ls).run steps).store.subscribers.map PathHook.id).Nodup := by
  rw [(Agrees.run c ls steps).subscribers]
  exact Chronicle.nodup_subscribers steps

/-- A hook that subscribes does so until it is unhooked, or its listener is closed. -/
theorem subscribes_run {before : List StoreStep} {h : PathHook}
    (hh : h ∈ ((ofConfig c ls).run before).store.subscribers) {more : List StoreStep}
    (hkept : .unhook h.id ∉ more) :
    let w := (ofConfig c ls).run (before ++ more)
    h ∈ w.store.subscribers ∨ w.listeners.outcome h.listener = .closed := by
  induction more using List.reverseRecOn with
  | nil =>
    rw [List.append_nil]
    exact Or.inl hh
  | append_singleton more s ih =>
    rw [List.mem_append, not_or, List.mem_singleton] at hkept
    obtain ⟨hmore, hs⟩ := hkept
    have hnodup := nodup_subscribers_run c ls (before ++ more)
    rw [← List.append_assoc, run_concat]
    rcases ih hmore with hmem | hclosed
    · rcases mem_subscribers_step hnodup hmem (Ne.symm hs) with hnext | hclosed
      · exact Or.inl hnext
      · exact Or.inr (outcome_step_of_closed hnodup hclosed s)
    · exact Or.inr (outcome_step_of_closed hnodup hclosed s)

/-- A hook that has been unhooked never subscribes again. -/
theorem unsubscribed_run {before : List StoreStep} {id : Nat}
    (hid : id < ((ofConfig c ls).run before).store.nextId) (more : List StoreStep) :
    let w := (ofConfig c ls).run (before ++ .unhook id :: more)
    (∀ h ∈ w.store.subscribers, h.id ≠ id) ∧ id < w.store.nextId := by
  induction more using List.reverseRecOn with
  | nil =>
    rw [run_concat]
    refine ⟨fun h hh => ?_, hid⟩
    rw [step, Store.subscribers_unhook] at hh
    exact of_decide_eq_true (List.mem_filter.1 hh).2
  | append_singleton more s ih =>
    obtain ⟨hgone, hnext⟩ := ih
    rw [← List.cons_append, ← List.append_assoc, run_concat]
    refine ⟨fun h hh => ?_, Nat.lt_of_lt_of_le hnext (nextId_le_step _ s)⟩
    rcases mem_subscribers_of_step (nodup_subscribers_run c ls _) hh with hold | hnew
    · exact hgone h hold
    · exact fun heq => absurd (hnew.symm.trans heq) (Nat.ne_of_gt hnext)

end Run

end StoreState

end Intercept
