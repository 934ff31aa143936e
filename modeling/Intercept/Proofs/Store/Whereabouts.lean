import Intercept.Proofs.Store.Lifetime
import Intercept.Proofs.Store.Shelved

/-!
# Where the hooks of a store are

A registered hook waits in the queue, is installed, or is gone for good (`Place`). Numbers are given
once, so a hook that is not in the store cannot come back (`mem_held_of_run`), and no hook is in two
places because the hooks in a store have different numbers (`nodup_held_run`).

The hooks that wait and those that are installed are looked at together (`Store.held`): one call
adds at most the hook that it registers (`mem_held_of_step`). What is said of the lists of single
paths is said of the store that keeps its hooks by path, on which the same calls were performed
(`ShelvedState`).

Main statement: `run_keeps_hooks_in_place`.
-/

namespace Intercept

namespace Store

/-- The hooks in a store: those that wait, and those that are installed. -/
def held (s : Store) : List PathHook := s.queue.map (·.hook) ++ s.installed

/-- Subscribers are in the store. -/
lemma mem_held_of_mem_subscribers {s : Store} {h : PathHook} (hh : h ∈ s.subscribers) :
    h ∈ s.held := by
  rcases List.mem_append.1 hh with hin | hactive
  · exact List.mem_append_right _ hin
  · obtain ⟨w, hw, rfl⟩ := List.mem_map.1 hactive
    exact List.mem_append_left _ (List.mem_map_of_mem (List.mem_of_mem_filter hw))

/-- The waiting hooks are the same when one of them is not wanted any more. -/
lemma map_hook_unhook (s : Store) (id : Nat) :
    (s.unhook id).queue.map (·.hook) = s.queue.map (·.hook) := by
  change (s.queue.map _).map _ = _
  rw [List.map_map]
  refine List.map_congr_left fun w _ => ?_
  rw [Function.comp_apply]
  split <;> rfl

/-- A registration is refused exactly if there is no room in the queue. -/
lemma hook_eq_none_iff (s : Store) (path module listener : String) (wantPayload : Bool) :
    (s.hook path module listener wantPayload).2.1 = none ↔ s.queueRoom ≤ s.queue.length := by
  rcases s.hook_cases path module listener wantPayload with ⟨hroom, h⟩ | ⟨hfull, h⟩
  · rw [h]
    exact iff_of_false (Option.some_ne_none _) (Nat.not_le_of_lt hroom)
  · rw [h]
    exact iff_of_true rfl hfull

end Store

/-- The hooks in the store, in terms of the store that keeps them by path. -/
lemma ShelvedStore.Matches.held {s : ShelvedStore} {t : Store} (h : s.Matches t) :
    t.held = s.queue ++ t.installed := by
  rw [Store.held, h.queue, List.map_map]
  exact congrArg (· ++ _) (List.map_id _)

namespace StoreState

variable {w : StoreState} {h : PathHook}

/-! ### One call -/

/-- A packet leaves a store as it is, or it empties the queue and leaves nothing but subscribers. -/
lemma store_step_ingest (w : StoreState) (op : String) (payload : ByteArray) :
    (w.step (.ingest op payload)).store = w.store ∨
      (w.step (.ingest op payload)).store.queue = [] ∧
        (w.step (.ingest op payload)).store.installed.Sublist w.store.subscribers := by
  rcases w.store.ingest_cases op payload with ⟨d, h⟩ | ⟨delta, h, hloaded⟩ | ⟨hs, hd⟩
  · rw [step, Store.ingest_of_snapshotIn? w.listeners h]
    exact Or.inr ⟨rfl, List.Sublist.refl _⟩
  · rw [step, Store.ingest_of_deltaIn? w.listeners h hloaded]
    exact Or.inr ⟨rfl, List.filter_sublist⟩
  · exact Or.inl (Store.ingest_of_none w.listeners hs hd).1

/-- A hook that is in the store after a call was there before, or was registered by it. -/
lemma mem_held_of_step {s : StoreStep} (hh : h ∈ (w.step s).store.held) :
    h ∈ w.store.held ∨ h.id = w.store.nextId := by
  cases s with
  | hook path module listener wantPayload =>
    rw [step] at hh
    rcases w.store.hook_cases path module listener wantPayload with ⟨-, heq⟩ | ⟨-, heq⟩
    · rw [heq, Store.held, List.map_append, List.append_assoc, List.mem_append] at hh
      rcases hh with hqueue | hh
      · exact Or.inl (List.mem_append_left _ hqueue)
      · rcases List.mem_append.1 hh with hnew | hin
        · exact Or.inr (congrArg PathHook.id (List.mem_singleton.1 hnew))
        · exact Or.inl (List.mem_append_right _ hin)
    · rw [heq] at hh
      exact Or.inl hh
  | unhook id =>
    rw [step, Store.held, Store.map_hook_unhook] at hh
    exact Or.inl (List.mem_append.2 ((List.mem_append.1 hh).imp_right List.mem_of_mem_filter))
  | ingest op payload =>
    refine Or.inl ?_
    rcases w.store_step_ingest op payload with heq | ⟨hqueue, hsub⟩
    · rwa [heq] at hh
    · rw [Store.held, hqueue] at hh
      exact Store.mem_held_of_mem_subscribers (hsub.subset hh)
  | drain listener max => exact Or.inl hh
  | close listener => exact Or.inl hh

/-- The queue has no more entries than there is room for. -/
lemma length_queue_step (hle : w.store.queue.length ≤ w.store.queueRoom) (s : StoreStep) :
    (w.step s).store.queue.length ≤ (w.step s).store.queueRoom := by
  have hroom : (w.step s).store.queueRoom = w.store.queueRoom := by
    rw [Store.queueRoom, config_step, Store.queueRoom]
  rw [hroom]
  cases s with
  | hook path module listener wantPayload =>
    rw [step]
    rcases w.store.hook_cases path module listener wantPayload with ⟨hlt, heq⟩ | ⟨-, heq⟩
    · rw [heq, List.length_append]
      exact hlt
    · rw [heq]
      exact hle
  | unhook id => exact Nat.le_trans (Nat.le_of_eq (List.length_map _)) hle
  | ingest op payload =>
    rcases w.store_step_ingest op payload with heq | ⟨hqueue, -⟩
    · rwa [heq]
    · rw [hqueue]
      exact Nat.zero_le _
  | drain listener max => exact hle
  | close listener => exact hle

/-! ### Runs -/

/-- Numbers of hooks are never given back. -/
lemma nextId_le_run (w : StoreState) (steps : List StoreStep) :
    w.store.nextId ≤ (w.run steps).store.nextId := by
  induction steps generalizing w with
  | nil => exact Nat.le_refl _
  | cons s steps ih => exact Nat.le_trans (nextId_le_step w s) (ih (w.step s))

/-- A hook with a number that has been given is in the store after some calls only if it was there
before them. -/
lemma mem_held_of_run (hlt : h.id < w.store.nextId) {steps : List StoreStep}
    (hh : h ∈ (w.run steps).store.held) : h ∈ w.store.held := by
  induction steps generalizing w with
  | nil => exact hh
  | cons s steps ih =>
    rcases mem_held_of_step (ih (Nat.lt_of_lt_of_le hlt (nextId_le_step w s)) hh) with hold | hnew
    · exact hold
    · exact absurd hnew (Nat.ne_of_lt hlt)

/-- The places where a registered hook can be. -/
inductive Place where
  /-- In the queue, to be installed. -/
  | waiting
  | installed
  /-- Not in the store, and never again. -/
  | gone
deriving DecidableEq, Repr

/-- A hook is at a place: it waits in the queue, there once and nowhere else, or it is installed,
once and nowhere else, or it is nowhere, now and whatever calls follow. -/
def IsAt (w : StoreState) (h : PathHook) : Place → Prop
  | .waiting => (w.store.queue.map (·.hook)).count h = 1 ∧ h ∉ w.store.installed
  | .installed => w.store.installed.count h = 1 ∧ h ∉ w.store.queue.map (·.hook)
  | .gone => ∀ more, h ∉ (w.run more).store.held

/-- A hook that was registered by one of some calls on a new store, and accepted. -/
def Registered (c : StateConfig) (ls : Listeners) (steps : List StoreStep) (h : PathHook) : Prop :=
  ∃ before after,
    steps = before ++ .hook h.path h.module h.listener h.wantPayload :: after ∧
    (((ofConfig c ls).run before).store.hook h.path h.module h.listener h.wantPayload).2.1 =
      some h.id

/-- Without further calls, a hook with a number that has been given is gone if it is not there. -/
lemma isAt_gone_iff (hlt : h.id < w.store.nextId) : w.IsAt h .gone ↔ h ∉ w.store.held :=
  ⟨fun hgone => hgone [], fun hout _ hh => hout (mem_held_of_run hlt hh)⟩

/-- A registered hook is at one place, and at no other. -/
lemma existsUnique_isAt (hnodup : (w.store.held.map PathHook.id).Nodup)
    (hlt : h.id < w.store.nextId) : ∃! p, w.IsAt h p := by
  have hheld : w.store.held.Nodup := .of_map _ hnodup
  obtain ⟨hwait, hin, hdisjoint⟩ := List.nodup_append'.1 hheld
  by_cases hqueue : h ∈ w.store.queue.map (·.hook)
  · have hout : h ∉ w.store.installed := hdisjoint hqueue
    refine ⟨.waiting, ⟨List.count_eq_one_of_mem hwait hqueue, hout⟩, fun p hp => ?_⟩
    cases p with
    | waiting => rfl
    | installed => exact absurd hqueue hp.2
    | gone => exact absurd (List.mem_append_left _ hqueue) (hp [])
  · by_cases hinstalled : h ∈ w.store.installed
    · refine ⟨.installed, ⟨List.count_eq_one_of_mem hin hinstalled, hqueue⟩, fun p hp => ?_⟩
      cases p with
      | waiting => exact absurd hinstalled hp.2
      | installed => rfl
      | gone => exact absurd (List.mem_append_right _ hinstalled) (hp [])
    · refine ⟨.gone, (isAt_gone_iff hlt).2 fun hh => ?_, fun p hp => ?_⟩
      · exact (List.mem_append.1 hh).elim hqueue hinstalled
      · cases p with
        | waiting => exact absurd (List.count_pos_iff.1 (hp.1 ▸ Nat.one_pos)) hqueue
        | installed => exact absurd (List.count_pos_iff.1 (hp.1 ▸ Nat.one_pos)) hinstalled
        | gone => rfl

/-- Another hook that is unhooked makes no difference. -/
lemma isAt_unhook_iff (hlt : h.id < w.store.nextId) {id : Nat} (hne : h.id ≠ id) (p : Place) :
    (w.step (.unhook id)).IsAt h p ↔ w.IsAt h p := by
  have hqueue : (w.step (.unhook id)).store.queue.map (·.hook) = w.store.queue.map (·.hook) :=
    w.store.map_hook_unhook id
  have hinstalled : (w.step (.unhook id)).store.installed =
      w.store.installed.filter fun g => g.id ≠ id := rfl
  have hmem : h ∈ (w.step (.unhook id)).store.installed ↔ h ∈ w.store.installed := by
    rw [hinstalled, List.mem_filter, and_iff_left (decide_eq_true hne)]
  cases p with
  | waiting => rw [IsAt, IsAt, hqueue, hmem]
  | installed =>
    have hcount : (w.store.installed.filter fun g => g.id ≠ id).count h =
        w.store.installed.count h := List.count_filter (decide_eq_true hne)
    rw [IsAt, IsAt, hqueue, hinstalled, hcount]
  | gone =>
    rw [isAt_gone_iff hlt, isAt_gone_iff (Nat.lt_of_lt_of_le hlt (nextId_le_step w _)), Store.held,
      hqueue, List.mem_append, hmem, Store.held, List.mem_append]

section Run

variable {c : StateConfig} {ls : Listeners} {steps : List StoreStep}

/-- The number of a registered hook has been given. -/
lemma Registered.id_lt (hh : Registered c ls steps h) :
    h.id < ((ofConfig c ls).run steps).store.nextId := by
  obtain ⟨before, after, rfl, hanswer⟩ := hh
  rw [run_append, run_cons]
  refine Nat.lt_of_lt_of_le ?_ (nextId_le_run _ after)
  rw [step]
  rcases ((ofConfig c ls).run before).store.hook_cases h.path h.module h.listener h.wantPayload with
    ⟨-, heq⟩ | ⟨-, heq⟩
  · rw [heq] at hanswer ⊢
    exact Option.some.inj hanswer ▸ Nat.lt_succ_self _
  · rw [heq] at hanswer
    contradiction

/-- There is always as much room as at first. -/
lemma queueRoom_run (c : StateConfig) (ls : Listeners) (steps : List StoreStep) :
    ((ofConfig c ls).run steps).store.queueRoom = max c.hookQueueCapacity.toNat 1 := by
  rw [Store.queueRoom, config_run]
  rfl

/-- The queue never has more entries than there is room for. -/
lemma length_queue_run (c : StateConfig) (ls : Listeners) (steps : List StoreStep) :
    let w := (ofConfig c ls).run steps
    w.store.queue.length ≤ w.store.queueRoom := by
  induction steps using List.reverseRecOn with
  | nil => exact Nat.zero_le _
  | append_singleton steps s ih =>
    rw [run_concat]
    exact length_queue_step ih s

/-- No two hooks in the store have one number. -/
lemma nodup_held_run (c : StateConfig) (ls : Listeners) (steps : List StoreStep) :
    (((ofConfig c ls).run steps).store.held.map PathHook.id).Nodup := by
  have h := (ShelvedState.run_matches c ls steps).store
  rw [h.held]
  exact h.once

/-- The number of a hook in the store has been given. -/
lemma id_lt_of_mem_held_run (hh : h ∈ ((ofConfig c ls).run steps).store.held) :
    h.id < ((ofConfig c ls).run steps).store.nextId := by
  have hmatches := (ShelvedState.run_matches c ls steps).store
  rw [hmatches.held] at hh
  rw [hmatches.nextId]
  exact hmatches.id_lt (hmatches.handled h hh)

/-- A hook that a packet ends the subscription of had a closed listener. It is out of the store
then, and stays out. -/
lemma gone_of_ingest {op : String} {payload : ByteArray}
    (hh : h ∈ ((ofConfig c ls).run steps).store.subscribers)
    (hout : h ∉ (((ofConfig c ls).run steps).step (.ingest op payload)).store.subscribers) :
    ((ofConfig c ls).run steps).listeners.outcome h.listener = .closed ∧
      ∀ more, h ∉ (((ofConfig c ls).run steps).run (.ingest op payload :: more)).store.held := by
  have hnodup := nodup_subscribers_run c ls steps
  constructor
  · exact (mem_subscribers_step hnodup hh (s := .ingest op payload) nofun).resolve_left hout
  · intro more hin
    have hlt : h.id < ((ofConfig c ls).run steps).store.nextId :=
      id_lt_of_mem_held_run (Store.mem_held_of_mem_subscribers hh)
    have hnow := mem_held_of_run (Nat.lt_of_lt_of_le hlt (nextId_le_step _ _)) hin
    rcases store_step_ingest ((ofConfig c ls).run steps) op payload with heq | ⟨hqueue, -⟩
    · exact hout (heq.symm ▸ hh)
    · rw [Store.held, hqueue] at hnow
      exact hout (List.mem_append_left _ hnow)

/-- Calls on a new store, in any order, and the same calls on a store that keeps its hooks by path.

Every registered hook is at one place, and the hooks in the store have different numbers. What is on
the shelf for a path are the installed hooks of the path, and there are some; all installed hooks
are active, are on the shelf under their paths and are counted; the shelf is empty exactly if none
is installed. The queue has as many entries as there is room for, at most; a hook is refused exactly
if it has that many, and the store is then left as it is. A hook that was unhooked is not installed
again, nor one that a packet has removed, whose listener was closed. To unhook a hook changes
neither the state nor the place of any other one; those that wait and those on one path keep their
order. -/
theorem run_keeps_hooks_in_place (c : StateConfig) (ls : Listeners) (steps : List StoreStep) :
    let w := (ofConfig c ls).run steps
    let v := (ShelvedState.ofConfig c ls).run steps
    ((∀ h, Registered c ls steps h → ∃! p, w.IsAt h p) ∧
      (w.store.held.map PathHook.id).Nodup) ∧
    ((∀ path hooks, v.store.shelf.lists[path]? = some hooks →
        hooks ≠ [] ∧ hooks = w.store.hooksAt path ∧ ∀ h ∈ hooks, h.path = path) ∧
      (∀ h ∈ w.store.installed, v.store.isActive h.id = true ∧
        ∃ hooks, v.store.shelf.lists[h.path]? = some hooks ∧ h ∈ hooks) ∧
      v.store.shelf.size = w.store.hookCount ∧
      (v.store.shelf.isEmpty = true ↔ w.store.hookCount = 0)) ∧
    (w.store.queue.length ≤ max c.hookQueueCapacity.toNat 1 ∧
      ∀ path module listener wantPayload,
        ((w.store.hook path module listener wantPayload).2.1 = none ↔
          w.store.queue.length = max c.hookQueueCapacity.toNat 1) ∧
        ((w.store.hook path module listener wantPayload).2.1 = none →
          (w.store.hook path module listener wantPayload).1 = w.store)) ∧
    ((∀ h more, Registered c ls steps h →
        h ∉ (w.run (.unhook h.id :: more)).store.installed) ∧
      ∀ op payload, ∀ h ∈ w.store.subscribers,
        h ∉ (w.step (.ingest op payload)).store.subscribers →
        w.listeners.outcome h.listener = .closed ∧
          ∀ more, h ∉ (w.run (.ingest op payload :: more)).store.installed) ∧
    ∀ id,
      let u := w.step (.unhook id)
      u.store.state = w.store.state ∧ u.store.isLoaded = w.store.isLoaded ∧
      (∀ h p, Registered c ls steps h → h.id ≠ id → (u.IsAt h p ↔ w.IsAt h p)) ∧
      u.store.queue.map (·.hook) = w.store.queue.map (·.hook) ∧
      u.store.subscribers = w.store.subscribers.filter (fun h => h.id ≠ id) ∧
      ∀ path, u.store.hooksAt path = (w.store.hooksAt path).filter (fun h => h.id ≠ id) ∧
        (v.step (.unhook id)).store.shelf.hooksAt path = u.store.hooksAt path := by
  intro w v
  have hmatches : v.store.Matches w.store := (ShelvedState.run_matches c ls steps).store
  have hheld := nodup_held_run c ls steps
  have hroom : w.store.queueRoom = max c.hookQueueCapacity.toNat 1 := queueRoom_run c ls steps
  have hle : w.store.queue.length ≤ w.store.queueRoom := length_queue_run c ls steps
  refine ⟨⟨fun h hh => existsUnique_isAt hheld hh.id_lt, hheld⟩, ⟨?_, ?_, ?_, ?_⟩,
    ⟨hroom ▸ hle, ?_⟩, ⟨?_, ?_⟩, ?_⟩
  · intro path hooks hlist
    obtain ⟨hne, rfl⟩ := hmatches.shelf.getElem?_eq_some hlist
    exact ⟨hne, rfl, fun h hh => of_decide_eq_true (List.mem_filter.1 hh).2⟩
  · intro h hh
    have hin : h ∈ w.store.installed.filter fun g => g.path = h.path :=
      List.mem_filter.2 ⟨hh, decide_eq_true rfl⟩
    refine ⟨?_, _, (hmatches.shelf h.path).trans (if_neg (List.ne_nil_of_mem hin)), hin⟩
    exact (hmatches.active h (hmatches.handled h (List.mem_append_right _ hh))).2
      (List.mem_append_left _ hh)
  · exact hmatches.shelf.size
  · rw [hmatches.shelf.isEmpty_iff, Store.hookCount, List.length_eq_zero_iff]
  · intro path module listener wantPayload
    rw [Store.hook_eq_none_iff, ← hroom]
    refine ⟨⟨fun hfull => Nat.le_antisymm hle hfull, fun heq => Nat.le_of_eq heq.symm⟩,
      fun hfull => ?_⟩
    exact congrArg Prod.fst (if_neg (Nat.not_lt_of_le hfull))
  · intro h more hh hin
    rw [← run_append] at hin
    exact (unsubscribed_run c ls hh.id_lt more).1 h (List.mem_append_left _ hin) rfl
  · intro op payload h hh hout
    obtain ⟨hclosed, hgone⟩ := gone_of_ingest hh hout
    exact ⟨hclosed, fun more hin => hgone more (List.mem_append_right _ hin)⟩
  · intro id u
    have hu : (v.step (.unhook id)).store.Matches u.store := hmatches.unhook id
    exact ⟨rfl, rfl, fun h p hh hne => isAt_unhook_iff hh.id_lt hne p,
      w.store.map_hook_unhook id, w.store.subscribers_unhook id,
      fun path => ⟨List.filter_comm .., hu.shelf.hooksAt path⟩⟩

end Run

/-- A queue with room for one hook. The first two hooks are installed, and the receiver of the
second one is dropped; the third one was unhooked while it waits, and there is no room for a fourth
one. The second hook does not survive the next delta, nor the third one the next packet, and the
first one does not mind if the second one is unhooked. -/
theorem run_keeps_three_hooks_in_place :
    let c : StateConfig :=
      { snapshotOp := "S", snapshotKey := "u", deltaKey := "d", hookQueueCapacity := 1 }
    let ls : Listeners := [("l", { capacity := 1 }), ("k", { capacity := 1 })]
    let first : PathHook := ⟨0, "p", "m", "l", true⟩
    let second : PathHook := ⟨1, "p", "m", "k", false⟩
    let third : PathHook := ⟨2, "q", "m", "l", true⟩
    let snapshot : StoreStep := .ingest "S" "\x7b\"u\":1\x7d".toUTF8
    let delta : ByteArray := "\x7b\"d\":\x7b\"p\":2\x7d\x7d".toUTF8
    let steps : List StoreStep :=
      [.hook "p" "m" "l" true, snapshot, .hook "p" "m" "k" false, snapshot, .hook "q" "m" "l" true,
        .unhook 2, .close "k"]
    let w := (ofConfig c ls).run steps
    let v := (ShelvedState.ofConfig c ls).run steps
    ((∃! p, w.IsAt first p) ∧ ∃! p, w.IsAt third p) ∧
      (v.store.isActive first.id = true ∧ ∃ hooks, v.store.shelf.lists[first.path]? = some hooks ∧
        first ∈ hooks ∧ hooks = w.store.hooksAt first.path) ∧
      (w.store.hook "r" "m" "l" true).1 = w.store ∧
      third ∉ (w.run [.unhook third.id, snapshot]).store.installed ∧
      (w.listeners.outcome second.listener = .closed ∧
        second ∉ (w.run [.ingest "a" delta, snapshot]).store.installed) ∧
      ((w.step (.unhook second.id)).IsAt first .installed ↔ w.IsAt first .installed) := by
  intro c ls first second third snapshot delta steps w v
  obtain ⟨⟨hplace, -⟩, ⟨hlists, hshelved, -⟩, ⟨-, hroom⟩, ⟨hunhooked, hclosed⟩, hframe⟩ :=
    run_keeps_hooks_in_place c ls steps
  have hfirst : Registered c ls steps first := ⟨[], steps.tail, rfl, rfl⟩
  have hthird : Registered c ls steps third := by
    refine ⟨steps.take 4, steps.drop 5, rfl, ?_⟩
    simp only [c, ls, third, steps, snapshot]
    cbv
  have hqueue : w.store.queue = [⟨third, false⟩] := by
    simp only [w, c, ls, third, steps, snapshot]
    cbv
  have hinstalled : w.store.installed = [first, second] := by
    simp only [w, c, ls, first, second, steps, snapshot]
    cbv
  have hsecond : second ∈ w.store.subscribers :=
    List.mem_append_left _ (hinstalled ▸ List.mem_cons_of_mem _ List.mem_cons_self)
  have hnext : (w.step (.ingest "a" delta)).store.subscribers = [first] := by
    simp only [w, c, ls, first, steps, snapshot, delta]
    cbv
  obtain ⟨hactive, hooks, hlist, hmem⟩ := hshelved first (hinstalled ▸ List.mem_cons_self)
  obtain ⟨-, hsame, -⟩ := hlists first.path hooks hlist
  obtain ⟨hfull, hunchanged⟩ := hroom "r" "m" "l" true
  obtain ⟨houtcome, hgone⟩ := hclosed "a" delta second hsecond (by rw [hnext]; decide)
  obtain ⟨-, -, hothers, -⟩ := hframe second.id
  simp only [w, v]
  exact ⟨⟨hplace first hfirst, hplace third hthird⟩, ⟨hactive, hooks, hlist, hmem, hsame⟩,
    hunchanged (hfull.2 (by rw [hqueue]; rfl)), hunhooked third [snapshot] hthird,
    ⟨houtcome, hgone [snapshot]⟩, hothers first .installed hfirst (by decide)⟩

end StoreState

end Intercept
