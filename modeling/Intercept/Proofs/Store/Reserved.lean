import Intercept.Proofs.Store.Delivery

/-!
# Reserved listeners

Stores that share no listener do not notice each other. A set of listeners is reserved for a store if
all its hooks, waiting or installed, send to listeners of the set. What such a store makes of a packet
depends on the reserved listeners alone, and changes no others (`Reserves.ingest`).
-/

namespace Intercept

/-- The listeners that `own` selects are the same in two processes. -/
def Listeners.Agree (own : String → Bool) (ls ls' : Listeners) : Prop :=
  ∀ name, own name = true → ls.find? name = ls'.find? name

namespace Listeners

variable {own : String → Bool} {ls ls' : Listeners}

/-- Listeners agree with themselves. -/
lemma Agree.refl (own : String → Bool) (ls : Listeners) : Agree own ls ls := fun _ _ => rfl

/-- The same change of a listener, on both sides. -/
lemma Agree.update (h : Agree own ls ls') (name : String) (f : Listener → Listener) :
    Agree own (ls.update name f) (ls'.update name f) := by
  intro other hother
  by_cases hname : other = name
  · subst hname
    rw [find?_update_self, find?_update_self, h other hother]
  · rw [find?_update_of_ne ls hname, find?_update_of_ne ls' hname]
    exact h other hother

/-- Listeners that agree do the same with an event. -/
lemma Agree.outcome (h : Agree own ls ls') {name : String} (hname : own name = true) :
    ls.outcome name = ls'.outcome name := by
  rw [Listeners.outcome, Listeners.outcome, h name hname]

end Listeners

namespace Store

/-- All hooks of a store send to reserved listeners. -/
structure Reserves (own : String → Bool) (s : Store) : Prop where
  queue : ∀ w ∈ s.queue, own w.hook.listener = true
  installed : ∀ h ∈ s.installed, own h.listener = true

namespace Reserves

variable {own : String → Bool} {s : Store}

/-- A new store has no hooks. -/
lemma blank (c : StateConfig) : Reserves own { config := c } :=
  ⟨fun _ h => by contradiction, fun _ h => by contradiction⟩

/-- Registering a hook on a reserved listener. -/
lemma hook (hs : Reserves own s) (path module : String) {listener : String}
    (hown : own listener = true) (wantPayload : Bool) :
    Reserves own (s.hook path module listener wantPayload).1 := by
  unfold Store.hook
  split
  · refine ⟨fun w hw => ?_, hs.installed⟩
    rcases List.mem_append.1 hw with hold | hnew
    · exact hs.queue w hold
    · rw [List.mem_singleton.1 hnew]
      exact hown
  · exact hs

/-- Removing a hook. -/
lemma unhook (hs : Reserves own s) (id : Nat) : Reserves own (s.unhook id) := by
  refine ⟨fun w hw => ?_, fun h hh => hs.installed h (List.mem_of_mem_filter hh)⟩
  obtain ⟨w', hw', rfl⟩ := List.mem_map.1 hw
  split
  · exact hs.queue w' hw'
  · exact hs.queue w' hw'

/-- Removing several hooks. -/
lemma foldl_unhook (ids : List Nat) (hs : Reserves own s) :
    Reserves own (ids.foldl (fun st id => st.unhook id) s) := by
  induction ids generalizing s with
  | nil => exact hs
  | cons id ids ih => exact ih (hs.unhook id)

/-- Installing the waiting hooks. -/
lemma installWaiting (hs : Reserves own s) : Reserves own s.installWaiting := by
  refine ⟨fun _ h => by contradiction, fun h hh => ?_⟩
  rcases List.mem_append.1 hh with hold | hnew
  · exact hs.installed h hold
  · obtain ⟨w, hw, rfl⟩ := List.mem_map.1 hnew
    exact hs.queue w (List.mem_of_mem_filter hw)

end Reserves

/-- Two walks of a delta are at the same point, but for listeners that are not reserved. -/
structure Notification.Alike (own : String → Bool) (n n' : Notification) : Prop where
  listeners : n.listeners.Agree own n'.listeners
  delivered : n.delivered = n'.delivered
  dropped : n.dropped = n'.dropped
  closed : n.closed = n'.closed

/-- An event for a reserved listener keeps two walks together. -/
lemma Notification.Alike.send {own : String → Bool} {n n' : Notification} (h : Alike own n n')
    (state : Document) {hook : PathHook} (hown : own hook.listener = true) :
    Alike own (n.send state hook) (n'.send state hook) := by
  have hsame := h.listeners.outcome hown
  unfold Notification.send
  rw [hsame]
  cases n'.listeners.outcome hook.listener with
  | accepted =>
    have hoffer := h.listeners.update hook.listener (·.offer (eventFor state hook))
    exact ⟨hoffer, congrArg (· + 1) h.delivered, h.dropped, h.closed⟩
  | full => exact ⟨h.listeners, h.delivered, congrArg (· + 1) h.dropped, h.closed⟩
  | closed => exact ⟨h.listeners, h.delivered, h.dropped, congrArg (hook.id :: ·) h.closed⟩

/-- The events for reserved listeners keep two walks together. -/
lemma Notification.Alike.foldl_send {own : String → Bool} {hooks : List PathHook}
    (hown : ∀ h ∈ hooks, own h.listener = true) {n n' : Notification} (h : Alike own n n')
    (state : Document) :
    Alike own (hooks.foldl (Notification.send state) n)
      (hooks.foldl (Notification.send state) n') := by
  induction hooks generalizing n n' with
  | nil => exact h
  | cons hook hooks ih =>
    exact ih (fun g hg => hown g (List.mem_cons_of_mem hook hg))
      (h.send state (hown hook List.mem_cons_self))

/-- Events for reserved listeners do not reach the others. -/
lemma find?_foldl_send {own : String → Bool} {hooks : List PathHook}
    (hown : ∀ h ∈ hooks, own h.listener = true) (state : Document) (n : Notification)
    {name : String} (hname : own name = false) :
    (hooks.foldl (Notification.send state) n).listeners.find? name = n.listeners.find? name := by
  induction hooks generalizing n with
  | nil => rfl
  | cons hook hooks ih =>
    have hne : name ≠ hook.listener := by
      rintro rfl
      rw [hown hook List.mem_cons_self] at hname
      contradiction
    have hsend : (n.send state hook).listeners.find? name = n.listeners.find? name := by
      unfold Notification.send
      cases n.listeners.outcome hook.listener with
      | accepted =>
        have hoffer := n.listeners.find?_update_of_ne hne (·.offer (eventFor state hook))
        exact hoffer
      | full => rfl
      | closed => rfl
    exact (ih (fun g hg => hown g (List.mem_cons_of_mem hook hg)) _).trans hsend

/-- The hooks that are visited are installed ones. -/
lemma mem_visits {installed : List PathHook} {delta : Document} {h : PathHook}
    (hmem : h ∈ visits installed delta) : h ∈ installed := by
  obtain ⟨path, -, hpath⟩ := List.mem_flatMap.1 hmem
  exact List.mem_of_mem_filter hpath

/-- What a store makes of a packet depends on the listeners that are reserved for it, and changes no
others. -/
theorem Reserves.ingest {own : String → Bool} {s : Store} (hs : Reserves own s)
    {ls ls' : Listeners} (h : ls.Agree own ls') (op : String) (payload : ByteArray) :
    (s.ingest ls op payload).1 = (s.ingest ls' op payload).1 ∧
      Reserves own (s.ingest ls op payload).1 ∧
      (s.ingest ls op payload).2.1.Agree own (s.ingest ls' op payload).2.1 ∧
      ∀ name, own name = false →
        (s.ingest ls op payload).2.1.find? name = ls.find? name := by
  rcases s.ingest_cases op payload with ⟨d, hd⟩ | ⟨delta, hd, hl⟩ | ⟨hsnapshot, hd⟩
  · rw [ingest_of_snapshotIn? ls hd, ingest_of_snapshotIn? ls' hd]
    exact ⟨rfl, ⟨hs.installWaiting.queue, hs.installWaiting.installed⟩, h, fun _ _ => rfl⟩
  · rw [ingest_of_deltaIn? ls hd hl, ingest_of_deltaIn? ls' hd hl]
    have hinstalled := hs.installWaiting.installed
    have hvisits : ∀ g ∈ visits s.installWaiting.installed delta, own g.listener = true :=
      fun g hg => hinstalled g (mem_visits hg)
    have hstart : Notification.Alike own { listeners := ls } { listeners := ls' } :=
      ⟨h, rfl, rfl, rfl⟩
    have halike := hstart.foldl_send hvisits (s.installWaiting.state.merge delta)
    refine ⟨?_, ⟨hs.installWaiting.queue, ?_⟩, halike.listeners, ?_⟩
    · simp only [applyDelta, notify, halike.closed, halike.dropped]
    · exact fun g hg => hinstalled g (List.mem_of_mem_filter hg)
    · exact fun name hname => find?_foldl_send hvisits _ _ hname
  · obtain ⟨hstore, hlisteners⟩ := ingest_of_none ls hsnapshot hd
    obtain ⟨hstore', hlisteners'⟩ := ingest_of_none ls' hsnapshot hd
    rw [hstore, hstore', hlisteners, hlisteners']
    exact ⟨rfl, hs, h, fun _ _ => rfl⟩

end Store

end Intercept
