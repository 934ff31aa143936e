import Intercept.Proofs.Store.Threads

/-!
# Threads use a store one after the other

However the steps of many threads interleave, there is one order of all they did that explains
everything: the state is the replay of this order, every read answers from a prefix of it, and calls
that did not overlap stand in it as they were made. Main statement: `steps_act_in_order`.

`Linear` has said so for the state and for what the calls answer. What is added here is that every
entry of the order belongs to one call (`Owned`), that time and order agree (`Later`), and whom a
delta notifies: the hooks registered before it, be it before its look or between the look and the
merge.
-/

namespace Intercept

namespace StoreState

variable {w : StoreState}

/-! ### Whom a delta notifies -/

/-- A section that lays a delta over the state makes the attempts that are due, and reports them. -/
lemma mergeDelta_eq (hnodup : (w.store.subscribers.map PathHook.id).Nodup) (op : String)
    (delta : Document) :
    (w.mergeDelta op delta).listeners =
        (offerAll w.listeners (due w.store.subscribers delta (w.store.state.merge delta))).2 ∧
      (w.mergeDelta op delta).signals = w.signals ++ reports op (w.attempts delta) := by
  rw [mergeDelta, w.store.applyDelta_eq w.listeners op delta hnodup]
  exact ⟨rfl, rfl⟩

/-- The attempts are for the events that are due. -/
lemma map_attempts (w : StoreState) (delta : Document) :
    (w.attempts delta).map (fun a => (a.hook, a.event)) =
      due w.store.subscribers delta (w.store.state.merge delta) :=
  Store.map_offerAll w.listeners _

/-- An attempt is for a hook that subscribes. -/
lemma hook_mem_of_mem_attempts {delta : Document} {a : Attempt} (ha : a ∈ w.attempts delta) :
    a.hook ∈ w.store.subscribers := by
  have hdue : (a.hook, a.event) ∈ due w.store.subscribers delta (w.store.state.merge delta) := by
    rw [← map_attempts]
    exact List.mem_map.2 ⟨a, ha, rfl⟩
  exact (Store.mem_due hdue).1

/-- Of the events that are due, a subscriber gets one for every visit of its path. -/
lemma filter_due_of_mem {hooks : List PathHook} (hnodup : (hooks.map PathHook.id).Nodup)
    {h : PathHook} (hh : h ∈ hooks) (delta state : Document) :
    (due hooks delta state).filter (fun x => x.1.id = h.id) =
      (delta.walk.filter fun path => path = h.path).map fun _ => (h, Store.eventFor state h) := by
  unfold due
  induction delta.walk with
  | nil => rfl
  | cons path walk ih =>
    rw [List.flatMap_cons, List.filter_append, ih]
    have hvisit : ((hooks.filter fun g => g.path = path).filter fun g => g.id = h.id) =
        if path = h.path then [h] else [] := by
      rw [List.filter_comm, Register.filter_number_eq_singleton hnodup hh]
      by_cases hpath : path = h.path
      · simp [hpath]
      · simp [hpath, Ne.symm hpath]
    rw [List.filter_map]
    change List.map _ ((hooks.filter fun g => g.path = path).filter fun g => g.id = h.id) ++ _ = _
    rw [hvisit]
    by_cases hpath : path = h.path
    · subst hpath
      simp [Store.eventFor]
    · simp [hpath]

/-- A hook that subscribes is sent one event for every visit of its path. -/
lemma filter_attempts_of_mem (hnodup : (w.store.subscribers.map PathHook.id).Nodup) {h : PathHook}
    (hh : h ∈ w.store.subscribers) (delta : Document) :
    ((w.attempts delta).filter fun a => a.hook.id = h.id).map (fun a => (a.hook, a.event)) =
      (delta.walk.filter fun path => path = h.path).map fun _ =>
        (h, Store.eventFor (w.store.state.merge delta) h) := by
  rw [← filter_due_of_mem hnodup hh, ← map_attempts, List.filter_map]
  rfl

end StoreState

namespace StoreSystem

variable {c : StateConfig} {ls : Listeners} {w w' w'' : StoreSystem}

/-! ### Every entry of the order belongs to one call -/

/-- A call that is over has its place. -/
lemma Linear.placed (h : Linear c ls w) {t : StoreTask} (ht : t ∈ w.tasks) {place : Nat}
    {answer : CallAnswer} (hresult : t.result? = some (place, answer)) :
    Placed c ls w.order place answer t.call := by
  have hsound := h.sound t ht
  unfold Sound at hsound
  unfold StoreTask.result? at hresult
  cases hphase : t.phase with
  | called =>
    rw [hphase] at hresult
    contradiction
  | merging delta =>
    rw [hphase] at hresult
    contradiction
  | finished p a r =>
    rw [hphase] at hresult hsound
    obtain ⟨rfl, rfl⟩ := Prod.mk.inj (Option.some.inj hresult)
    exact hsound

/-- A call is over, and has this place in the order. -/
def Owns (w : StoreSystem) (place : Nat) (call : StoreCall) (k : Nat) : Prop :=
  ∃ t answer, w.tasks[k]? = some t ∧ t.call = call ∧ t.result? = some (place, answer)

/-- What stands in the order and may be done by a call was done by just one. -/
def Owned (w : StoreSystem) : Prop :=
  ∀ place s call, w.order[place]? = some s → call.acts? = some s → ∃! k, w.Owns place call k

/-- What a call has done stands in its place. -/
lemma Linear.order_of_owns (h : Linear c ls w) {place k : Nat} {call : StoreCall} {s : StoreStep}
    (howns : w.Owns place call k) (hs : call.acts? = some s) : w.order[place]? = some s := by
  obtain ⟨t, answer, ht, rfl, hresult⟩ := howns
  have hplaced := h.placed (List.mem_of_getElem? ht) hresult
  cases hcall : t.call with
  | ingest op payload =>
    rw [hcall] at hs hplaced
    exact hs ▸ hplaced
  | hook path module listener wantPayload =>
    rw [hcall] at hs hplaced
    exact hs ▸ hplaced.1
  | unhook id =>
    rw [hcall] at hs hplaced
    exact hs ▸ hplaced.1
  | get path =>
    rw [hcall] at hs
    contradiction
  | barrier =>
    rw [hcall] at hs
    contradiction

namespace Owned

/-- A call comes further without touching the store. -/
lemma advance (h : Owned w) {k : Nat} {t : StoreTask} (htask : w.tasks[k]? = some t)
    {phase : CallPhase}
    (hresult : t.call.acts?.isSome → { t with phase : StoreTask }.result? = t.result?) :
    Owned (w.advance k phase) := by
  intro place s call hplace hcall
  have hsame (j : Nat) : (w.advance k phase).Owns place call j ↔ w.Owns place call j := by
    constructor
    · rintro ⟨u, answer, hu, rfl, hanswer⟩
      rcases cases_advance htask hu with ⟨rfl, rfl⟩ | ⟨-, hold⟩
      · have hsome : t.call.acts?.isSome := Option.isSome_iff_exists.2 ⟨s, hcall⟩
        exact ⟨t, answer, htask, rfl, hresult hsome ▸ hanswer⟩
      · exact ⟨u, answer, hold, rfl, hanswer⟩
    · rintro ⟨u, answer, hu, rfl, hanswer⟩
      have hnew := w.getElem?_advance k phase j
      rw [hu, Option.map_some] at hnew
      by_cases hk : k = j
      · subst hk
        obtain rfl : t = u := Option.some.inj (htask.symm.trans hu)
        have hsome : t.call.acts?.isSome := Option.isSome_iff_exists.2 ⟨s, hcall⟩
        rw [if_pos rfl] at hnew
        exact ⟨_, answer, hnew, rfl, (hresult hsome).trans hanswer⟩
      · rw [if_neg hk] at hnew
        exact ⟨u, answer, hnew, rfl, hanswer⟩
  simp only [hsame]
  exact h place s call hplace hcall

/-- A call does something to the store. -/
lemma act (h : Owned w) (hlinear : Linear c ls w) {k : Nat} {t : StoreTask}
    (htask : w.tasks[k]? = some t) (hnone : t.result? = none) {s : StoreStep}
    (hs : t.call.acts? = some s) (shared : StoreState) (answer : CallAnswer) :
    Owned (w.act k s shared answer) := by
  intro place s' call hplace hcall
  have hadvanced (j : Nat) (howns : (w.act k s shared answer).Owns place call j) :
      (k = j ∧ place = w.order.length) ∨ w.Owns place call j := by
    obtain ⟨u, b, hu, rfl, hb⟩ := howns
    rcases cases_advance htask hu with ⟨rfl, rfl⟩ | ⟨-, hold⟩
    · exact Or.inl ⟨rfl, (Prod.mk.inj (Option.some.inj hb)).1.symm⟩
    · exact Or.inr ⟨u, b, hold, rfl, hb⟩
  rcases Nat.lt_or_ge place w.order.length with hlt | hge
  · have hold : w.order[place]? = some s' := (List.getElem?_append_left hlt).symm.trans hplace
    obtain ⟨j, ⟨u, b, hu, hucall, hb⟩, honly⟩ := h place s' call hold hcall
    have hne : k ≠ j := by
      rintro rfl
      obtain rfl : t = u := Option.some.inj (htask.symm.trans hu)
      rw [hnone] at hb
      contradiction
    refine ⟨j, ⟨u, b, ?_, hucall, hb⟩, fun i hi => ?_⟩
    · refine (w.getElem?_advance k _ j).trans ?_
      rw [hu, Option.map_some, if_neg hne]
    · rcases hadvanced i hi with ⟨-, hlast⟩ | howns
      · exact absurd hlast (Nat.ne_of_lt hlt)
      · exact honly i howns
  · have hlast : place = w.order.length := by
      have hlt := (List.getElem?_eq_some_iff.1 hplace).1
      change place < (w.order ++ [s]).length at hlt
      rw [List.length_append, List.length_singleton] at hlt
      omega
    subst hlast
    have hentry : s = s' :=
      Option.some.inj ((List.getElem?_concat_length (l := w.order)).symm.trans hplace)
    subst hentry
    refine ⟨k, ⟨{ t with phase := .finished w.order.length answer false }, answer, ?_,
      StoreCall.acts?_inj hs hcall, rfl⟩, fun i hi => ?_⟩
    · refine (w.getElem?_advance k _ k).trans ?_
      rw [htask, Option.map_some, if_pos rfl]
    · rcases hadvanced i hi with ⟨hk, -⟩ | howns
      · exact hk.symm
      · have hnowhere := hlinear.order_of_owns howns hcall
        rw [List.getElem?_eq_none (Nat.le_refl _)] at hnowhere
        contradiction

/-- A receiver does something that no call does. -/
lemma receive (h : Owned w) {s : StoreStep}
    (hs : ∀ call : StoreCall, call.acts? ≠ some s) (shared : StoreState) :
    Owned { w with shared, order := w.order ++ [s] } := by
  intro place s' call hplace hcall
  rcases Nat.lt_or_ge place w.order.length with hlt | hge
  · exact h place s' call ((List.getElem?_append_left hlt).symm.trans hplace) hcall
  · have hmem : s' ∈ [s] := by
      rw [List.getElem?_append_right hge] at hplace
      exact List.mem_of_getElem? hplace
    exact absurd (List.mem_singleton.1 hmem ▸ hcall) (hs call)

/-- A call that begins has not done anything. -/
lemma call (h : Owned w) {t : StoreTask} (hnone : t.result? = none) :
    Owned { w with tasks := w.tasks ++ [t] } := by
  intro place s call hplace hcall
  have hsame (j : Nat) :
      ({ w with tasks := w.tasks ++ [t] } : StoreSystem).Owns place call j ↔
        w.Owns place call j := by
    constructor
    · rintro ⟨u, answer, hu, hucall, hanswer⟩
      rcases Nat.lt_or_ge j w.tasks.length with hlt | hge
      · exact ⟨u, answer, (List.getElem?_append_left hlt).symm.trans hu, hucall, hanswer⟩
      · have hmem : u ∈ [t] := by
          rw [List.getElem?_append_right hge] at hu
          exact List.mem_of_getElem? hu
        rw [List.mem_singleton.1 hmem, hnone] at hanswer
        contradiction
    · rintro ⟨u, answer, hu, hucall, hanswer⟩
      have hlt := (List.getElem?_eq_some_iff.1 hu).1
      exact ⟨u, answer, (List.getElem?_append_left hlt).trans hu, hucall, hanswer⟩
  simp only [hsame]
  exact h place s call hplace hcall

/-- Every step keeps the entries of the order in the hands of one call each. -/
theorem step (h : Owned w) (hlinear : Linear c ls w) (hstep : Step w w') : Owned w' := by
  cases hstep with
  | call thread call hidle hhandle => exact h.call rfl
  | snapshot htask hop => exact h.act hlinear htask rfl rfl _ _
  | dismiss htask hop hnone => exact h.act hlinear htask rfl rfl _ _
  | look htask hop hsome => exact h.advance htask fun _ => rfl
  | merge htask => exact h.act hlinear htask rfl rfl _ _
  | get htask hloaded => exact h.advance htask fun hsome => absurd hsome Bool.false_ne_true
  | barrier htask => exact h.advance htask fun hsome => absurd hsome Bool.false_ne_true
  | hook htask => exact h.act hlinear htask rfl rfl _ _
  | unhook htask => exact h.act hlinear htask rfl rfl _ _
  | finish htask => exact h.advance htask fun _ => rfl
  | drain listener max =>
    exact h.receive (fun call => by cases call <;> simp [StoreCall.acts?]) _
  | close listener =>
    exact h.receive (fun call => by cases call <;> simp [StoreCall.acts?]) _

/-- In a system that was set up and used by threads in any way, every entry of the order belongs to
one call. -/
theorem of_steps (hsteps : Steps (ofConfig c ls) w) : Owned w := by
  induction hsteps with
  | refl =>
    intro place s call hplace
    contradiction
  | tail hbefore hstep ih => exact ih.step (Linear.of_steps hbefore) hstep

end Owned

/-! ### Time and order -/

/-- What may have become of a system later on: more has been done, and calls that were not over have
their places behind all that had been done. -/
structure Later (w w' : StoreSystem) : Prop where
  order : w.order <+: w'.order
  results : ∀ (k : Nat) (t : StoreTask) (place : Nat) (answer : CallAnswer),
    w'.tasks[k]? = some t → t.result? = some (place, answer) →
      w.order.length ≤ place ∨
        ∃ u : StoreTask, w.tasks[k]? = some u ∧ u.result? = some (place, answer)

namespace Later

/-- A call comes further. -/
lemma advance {k : Nat} {t : StoreTask} (htask : w.tasks[k]? = some t) {phase : CallPhase}
    (hresult : ∀ place answer, { t with phase : StoreTask }.result? = some (place, answer) →
      w.order.length ≤ place ∨ t.result? = some (place, answer))
    (shared : StoreState) (more : List StoreStep) :
    Later w { w.advance k phase with shared, order := w.order ++ more } := by
  refine ⟨List.prefix_append _ _, fun j u place answer hu hanswer => ?_⟩
  rcases cases_advance htask hu with ⟨rfl, rfl⟩ | ⟨-, hold⟩
  · exact (hresult place answer hanswer).imp id fun h => ⟨t, htask, h⟩
  · exact Or.inr ⟨u, hold, hanswer⟩

/-- A call comes further and leaves the order as it is. -/
lemma advance_only {k : Nat} {t : StoreTask} (htask : w.tasks[k]? = some t) {phase : CallPhase}
    (hresult : ∀ place answer, { t with phase : StoreTask }.result? = some (place, answer) →
      w.order.length ≤ place ∨ t.result? = some (place, answer)) :
    Later w (w.advance k phase) := by
  have h := advance htask hresult w.shared []
  rwa [List.append_nil] at h

/-- A call is over now, at the end of the order. -/
lemma result_of_over {t : StoreTask} {answer a : CallAnswer} {r : Bool} {place : Nat}
    (h : { t with phase := .finished w.order.length a r : StoreTask }.result? = some (place, answer)) :
    w.order.length ≤ place :=
  Nat.le_of_eq (Prod.mk.inj (Option.some.inj h)).1

/-- One step. -/
lemma of_step (hstep : Step w w') : Later w w' := by
  cases hstep with
  | call thread call hidle hhandle =>
    refine ⟨List.prefix_refl _, fun k t place answer ht hanswer => ?_⟩
    rcases Nat.lt_or_ge k w.tasks.length with hlt | hge
    · exact Or.inr ⟨t, (List.getElem?_append_left hlt).symm.trans ht, hanswer⟩
    · rw [List.getElem?_append_right hge] at ht
      rw [List.mem_singleton.1 (List.mem_of_getElem? ht)] at hanswer
      contradiction
  | snapshot htask hop => exact advance htask (fun _ _ h => Or.inl (result_of_over h)) _ _
  | dismiss htask hop hnone => exact advance htask (fun _ _ h => Or.inl (result_of_over h)) _ _
  | look htask hop hsome =>
    exact advance_only htask fun _ _ h => absurd h (Option.some_ne_none _).symm
  | merge htask => exact advance htask (fun _ _ h => Or.inl (result_of_over h)) _ _
  | get htask hloaded => exact advance_only htask fun _ _ h => Or.inl (result_of_over h)
  | barrier htask => exact advance_only htask fun _ _ h => Or.inl (result_of_over h)
  | hook htask => exact advance htask (fun _ _ h => Or.inl (result_of_over h)) _ _
  | unhook htask => exact advance htask (fun _ _ h => Or.inl (result_of_over h)) _ _
  | finish htask => exact advance_only htask fun _ _ h => Or.inr h
  | drain listener max =>
    exact ⟨List.prefix_append _ _, fun _ t _ _ ht hanswer => Or.inr ⟨t, ht, hanswer⟩⟩
  | close listener =>
    exact ⟨List.prefix_append _ _, fun _ t _ _ ht hanswer => Or.inr ⟨t, ht, hanswer⟩⟩

/-- What comes later still. -/
lemma trans (h : Later w w') (h' : Later w' w'') : Later w w'' := by
  refine ⟨h.order.trans h'.order, fun k t place answer ht hanswer => ?_⟩
  rcases h'.results k t place answer ht hanswer with hplace | ⟨u, hu, hanswer'⟩
  · exact Or.inl (Nat.le_trans h.order.length_le hplace)
  · exact h.results k u place answer hu hanswer'

/-- Any steps. -/
lemma of_steps (hsteps : Steps w w') : Later w w' := by
  induction hsteps with
  | refl => exact ⟨List.prefix_refl _, fun _ t _ _ ht hanswer => Or.inr ⟨t, ht, hanswer⟩⟩
  | tail _ hstep ih => exact ih.trans (of_step hstep)

/-- What stood in the order stands there later. -/
lemma getElem?_order (h : Later w w') {place : Nat} {s : StoreStep}
    (hs : w.order[place]? = some s) : w'.order[place]? = some s := by
  obtain ⟨more, hmore⟩ := h.order
  rw [← hmore, List.getElem?_append_left (List.getElem?_eq_some_iff.1 hs).1]
  exact hs

/-- A call that began later has its place behind all that had been done. -/
lemma length_le_of_begun (h : Later w w') {k : Nat} {t : StoreTask} (hk : w.tasks.length ≤ k)
    (ht : w'.tasks[k]? = some t) {place : Nat} {answer : CallAnswer}
    (hanswer : t.result? = some (place, answer)) : w.order.length ≤ place := by
  rcases h.results k t place answer ht hanswer with hplace | ⟨u, hu, -⟩
  · exact hplace
  · rw [List.getElem?_eq_none hk] at hu
    contradiction

end Later

/-! ### Hooks that are registered, and hooks that are removed -/

/-- A hook that was registered and not removed subscribes, or its receiver is gone. -/
lemma Linear.subscribes (h : Linear c ls w) {t : StoreTask} (ht : t ∈ w.tasks)
    {path module listener : String} {wantPayload : Bool} {place id : Nat}
    (hcall : t.call = .hook path module listener wantPayload)
    (hresult : t.result? = some (place, .registered (some id)))
    (hkept : .unhook id ∉ w.order) :
    ⟨id, path, module, listener, wantPayload⟩ ∈ w.shared.store.subscribers ∨
      w.shared.listeners.outcome listener = .closed := by
  have hplaced := h.placed ht hresult
  rw [hcall] at hplaced
  obtain ⟨hstep, hanswer⟩ := hplaced
  have hid := CallAnswer.registered.inj hanswer
  obtain ⟨hlt, hget⟩ := List.getElem?_eq_some_iff.1 hstep
  have hsplit : w.order = (w.order.take place ++ [.hook path module listener wantPayload]) ++
      w.order.drop (place + 1) := by
    rw [← hget, List.take_append_getElem, List.take_append_drop]
  have hregistered : ⟨id, path, module, listener, wantPayload⟩ ∈
      ((StoreState.ofConfig c ls).run (w.order.take place ++
        [.hook path module listener wantPayload])).store.subscribers := by
    rw [StoreState.run_concat, StoreState.step]
    rcases ((StoreState.ofConfig c ls).run (w.order.take place)).store.hook_cases path module
      listener wantPayload with ⟨-, heq⟩ | ⟨-, heq⟩
    · rw [heq] at hid ⊢
      obtain rfl := Option.some.inj hid
      rw [Store.subscribers_concat]
      exact List.mem_append_right _ List.mem_cons_self
    · rw [heq] at hid
      contradiction
  have hmore : .unhook id ∉ w.order.drop (place + 1) := fun hmem =>
    hkept (List.mem_of_mem_drop hmem)
  have hsubscribes := StoreState.subscribes_run c ls hregistered hmore
  rw [← hsplit, ← h.shared] at hsubscribes
  exact hsubscribes

/-- A hook that was removed subscribes no more. -/
lemma Linear.unsubscribed (h : Linear c ls w) {place id : Nat} {answer : CallAnswer}
    (hplaced : Placed c ls w.order place answer (.unhook id)) :
    ∀ g ∈ w.shared.store.subscribers, g.id ≠ id := by
  obtain ⟨hstep, hid⟩ := hplaced
  obtain ⟨hlt, hget⟩ := List.getElem?_eq_some_iff.1 hstep
  have hsplit : w.order = w.order.take place ++ .unhook id :: w.order.drop (place + 1) := by
    rw [← hget, List.getElem_cons_drop, List.take_append_drop]
  have hgone := (StoreState.unsubscribed_run c ls hid (w.order.drop (place + 1))).1
  rw [← hsplit, ← h.shared] at hgone
  exact hgone

/-! ### The main statement -/

/-- Threads that share a store act on it in one order. However the steps of their calls interleave:

* the store is what a single thread makes of it with the calls in this order, and its state is the
  replay of the order;
* every entry that a call can make in the order was made by just one call;
* a delta that is about to be laid over the state finds the state loaded;
* a call that is over has its place in the order. A read answers from what was known of the state
  there, that is from a prefix of the order;
* a call that begins when a packet has been taken in has its place behind the packet;
* a section that lays a delta over the state makes the attempts that are due and reports them. A
  hook that was registered before and has not been removed is sent one event for every visit of its
  path, unless its receiver is gone;
* a hook that has been removed is sent no events any more. -/
theorem steps_act_in_order (c : StateConfig) (ls : Listeners) {w : StoreSystem}
    (hsteps : Steps (ofConfig c ls) w) :
    (w.shared = (StoreState.ofConfig c ls).run w.order ∧
      w.shared.store.loaded? = c.replay w.order) ∧
    (∀ place s call, w.order[place]? = some s → call.acts? = some s →
      ∃! k, w.Owns place call k) ∧
    (∀ t ∈ w.tasks, ∀ delta, t.phase = .merging delta → w.shared.store.isLoaded = true) ∧
    (∀ t ∈ w.tasks, ∀ place answer, t.result? = some (place, answer) →
      Placed c ls w.order place answer t.call) ∧
    (∀ w', Steps w w' → ∀ t ∈ w.tasks, ∀ op payload place answer,
      t.call = .ingest op payload → t.result? = some (place, answer) →
      ∀ k u place' answer', w.tasks.length ≤ k → w'.tasks[k]? = some u →
        u.result? = some (place', answer') →
          place < place' ∧ (w'.order.take place')[place]? = some (.ingest op payload)) ∧
    (∀ op delta,
      let merged := w.shared.store.state.merge delta
      let next := w.shared.mergeDelta op delta
      next.listeners =
        (offerAll w.shared.listeners (due w.shared.store.subscribers delta merged)).2 ∧
      next.signals = w.shared.signals ++ reports op (w.shared.attempts delta) ∧
      ∀ t ∈ w.tasks, ∀ path module listener wantPayload place id,
        t.call = .hook path module listener wantPayload →
        t.result? = some (place, .registered (some id)) →
        (∀ u ∈ w.tasks, u.call = .unhook id → u.result? = none) →
          ((w.shared.attempts delta).filter fun a => a.hook.id = id).map
              (fun a => (a.hook, a.event)) =
            ((delta.walk.filter fun visited => visited = path).map fun _ =>
              (⟨id, path, module, listener, wantPayload⟩,
                { path, payload := if wantPayload then merged.resolve? path else none })) ∨
          w.shared.listeners.outcome listener = .closed) ∧
    (∀ w', Steps w w' → ∀ t ∈ w.tasks, ∀ id place answer,
      t.call = .unhook id → t.result? = some (place, answer) →
      ∀ delta, ∀ a ∈ w'.shared.attempts delta, a.hook.id ≠ id) := by
  have h : Linear c ls w := Linear.of_steps hsteps
  have howned : Owned w := Owned.of_steps hsteps
  have hnodup : (w.shared.store.subscribers.map PathHook.id).Nodup := by
    rw [h.shared]
    exact StoreState.nodup_subscribers_run c ls w.order
  refine ⟨⟨h.shared, ?_⟩, howned, ?_, fun t ht _ _ hresult => h.placed ht hresult, ?_, ?_, ?_⟩
  · rw [h.shared]
    exact StoreState.loaded?_run_ofConfig c ls w.order
  · intro t ht delta hphase
    have hsound := h.sound t ht
    rw [Sound, hphase] at hsound
    obtain ⟨op, payload, -, -, hloaded⟩ := hsound
    rwa [h.shared]
  · intro w' hlater t ht op payload place answer hcall hresult k u place' answer' hk hu hresult'
    have hplaced := h.placed ht hresult
    rw [hcall] at hplaced
    have hbehind : w.order.length ≤ place' :=
      (Later.of_steps hlater).length_le_of_begun hk hu hresult'
    have hlt : place < place' :=
      Nat.lt_of_lt_of_le (List.getElem?_eq_some_iff.1 hplaced).1 hbehind
    refine ⟨hlt, ?_⟩
    rw [List.getElem?_take, if_pos hlt]
    exact (Later.of_steps hlater).getElem?_order hplaced
  · intro op delta merged next
    obtain ⟨hlisteners, hsignals⟩ := StoreState.mergeDelta_eq hnodup op delta
    refine ⟨hlisteners, hsignals, ?_⟩
    intro t ht path module listener wantPayload place id hcall hresult hunhook
    have hkept : .unhook id ∉ w.order := by
      intro hmem
      obtain ⟨p, hp⟩ := List.mem_iff_getElem?.1 hmem
      obtain ⟨k, ⟨u, answer, hu, hucall, huresult⟩, -⟩ := howned p _ (.unhook id) hp rfl
      rw [hunhook u (List.mem_of_getElem? hu) hucall] at huresult
      contradiction
    rcases h.subscribes ht hcall hresult hkept with hsubscribes | hclosed
    · exact Or.inl (StoreState.filter_attempts_of_mem hnodup hsubscribes delta)
    · exact Or.inr hclosed
  · intro w' hlater t ht id place answer hcall hresult delta a ha
    have hplaced := h.placed ht hresult
    rw [hcall] at hplaced
    have h' : Linear c ls w' := Linear.of_steps (hsteps.trans hlater)
    obtain ⟨more, hmore⟩ := (Later.of_steps hlater).order
    have hplaced' : Placed c ls w'.order place answer (.unhook id) :=
      hmore ▸ hplaced.append more
    exact h'.unsubscribed hplaced' _ (StoreState.hook_mem_of_mem_attempts ha)

/-- One thread takes in a snapshot and looks at a packet with a delta. Before it lays the delta over
the state, another thread registers a hook on the field that the delta names: the state is still
loaded, and the delta is due to the hook once. -/
theorem steps_notify_hook_registered_after_look :
    let c : StateConfig := { snapshotOp := "S", snapshotKey := "u", deltaKey := "d" }
    let ls : Listeners := [("l", { capacity := 1 })]
    ∃ w, Steps (ofConfig c ls) w ∧
      ∃ delta, (∃ t ∈ w.tasks, t.phase = .merging delta) ∧ w.shared.store.isLoaded = true ∧
        ((w.shared.attempts delta).filter fun a => a.hook.id = 0).map
          (fun a => a.event.path) = ["k"] := by
  intro c ls
  have hstart : Steps (ofConfig c ls) (ofConfig c ls) := Relation.ReflTransGen.refl
  have hcalled := hstart.tail (.call 0 (.ingest "S" "\x7b\"u\":1\x7d".toUTF8)
    (fun t ht => absurd ht List.not_mem_nil) (fun _ h => StoreCall.noConfusion h))
  have hloaded := hcalled.tail (.snapshot (k := 0) rfl rfl)
  have hreturned := hloaded.tail (.finish (k := 0) rfl)
  have hnext := hreturned.tail (.call 0 (.ingest "a" "\x7b\"d\":\x7b\"k\":2\x7d\x7d".toUTF8)
    (by decide) (by simp))
  have hop : "a" ≠ c.snapshotOp := by decide
  have hlooked := hnext.tail (.look (k := 1) rfl (by rwa [(Linear.of_steps hnext).config]) (by cbv))
  have hother := hlooked.tail (.call 1 (.hook "k" "m" "l" true) (by decide) (by simp))
  have hregistered := hother.tail (.hook (k := 2) rfl)
  obtain ⟨-, -, hmerging, -, -, hsection, -⟩ := steps_act_in_order c ls hregistered
  refine ⟨_, hregistered, _, ⟨_, List.mem_of_getElem? (i := 1) rfl, rfl⟩,
    hmerging _ (List.mem_of_getElem? (i := 1) rfl) _ rfl, ?_⟩
  generalize hdelta : Document.object _ _ = delta
  have hhook := (hsection "a" delta).2.2 _ (List.mem_of_getElem? (i := 2) rfl) "k" "m" "l" true _ 0
    rfl (by cbv)
  have hdue := hhook fun u hu hcall => by
    have hmem : u.call ∈ [StoreCall.ingest "S" "\x7b\"u\":1\x7d".toUTF8,
        .ingest "a" "\x7b\"d\":\x7b\"k\":2\x7d\x7d".toUTF8, .hook "k" "m" "l" true] :=
      List.mem_map_of_mem hu
    rw [hcall] at hmem
    simp at hmem
  rcases hdue with hsent | hclosed
  · have hpaths := congrArg (List.map fun x : PathHook × Event => x.2.path) hsent
    rw [List.map_map] at hpaths
    refine hpaths.trans ?_
    subst hdelta
    cbv
  · have hopen := hclosed.symm.trans (by cbv : _ = Offer.accepted)
    contradiction

end StoreSystem

end Intercept
