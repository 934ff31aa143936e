import Intercept.Proofs.Store.Renumbered
import Intercept.Proofs.Store.Shelf

/-!
# Stores that keep their hooks by path

A store has its installed hooks in one list. `ShelvedStore` is a store that keeps them on a shelf,
under their paths. It also has what the holders of handles refer to: a hook is known by its number,
and the flag that says whether it is still wanted is shared by everyone who knows the hook. Hooks
that are unhooked and hooks whose listener turned out to be closed are removed in the same way:
the flag is cleared, and the hook is taken from the shelf (`ShelvedStore.release`).

Main statement: `ShelvedState.run_matches`. Whatever is done with the two stores, they cannot be
told apart, and they hold the same hooks in the same order (`Matches`).
-/

namespace Intercept

/-- Removing a hook that is not there does nothing. -/
lemma Store.unhook_of_forall_ne {s : Store} {id : Nat} (hqueue : ∀ w ∈ s.queue, w.hook.id ≠ id)
    (hinstalled : ∀ h ∈ s.installed, h.id ≠ id) : s.unhook id = s := by
  have hkept : (s.installed.filter fun h => h.id ≠ id) = s.installed :=
    List.filter_eq_self.2 fun h hh => decide_eq_true (hinstalled h hh)
  have hwait : (s.queue.map fun w => if w.hook.id = id then { w with isActive := false } else w) =
      s.queue :=
    (List.map_congr_left fun w hw => if_neg (hqueue w hw)).trans (List.map_id' s.queue)
  rw [unhook, hkept, hwait]

/-- A store that keeps its installed hooks by path. -/
structure ShelvedStore where
  config : StateConfig
  state : Document := .null
  isLoaded : Bool := false
  /-- The hooks that were registered, each at the place of its number. -/
  handles : List PathHook := []
  /-- Whether the hook of a number is still wanted. -/
  isActive : Nat → Bool := fun _ => true
  /-- Hooks to be installed, oldest first. -/
  queue : List PathHook := []
  shelf : Shelf := {}
  dropped : Nat := 0

namespace ShelvedStore

/-- Register a path hook. Answers its number, or none if the queue is full. -/
def hook (s : ShelvedStore) (path module listener : String) (wantPayload : Bool) :
    ShelvedStore × Option Nat × List Signal :=
  if s.queue.length < max s.config.hookQueueCapacity.toNat 1 then
    let h : PathHook := { id := s.handles.length, path, module, listener, wantPayload }
    ({ s with
        handles := s.handles ++ [h]
        isActive := Function.update s.isActive h.id true
        queue := s.queue ++ [h] },
      some h.id, [])
  else (s, none, [.notice (.pathHookRefused path module)])

/-- A hook is not wanted any more. Answers whether it was installed. -/
def release (s : ShelvedStore) (h : PathHook) : ShelvedStore × Bool :=
  ({ s with
      isActive := Function.update s.isActive h.id false
      shelf := (s.shelf.take h).1 },
    (s.shelf.take h).2)

/-- Remove the hook of a handle. -/
def unhook (s : ShelvedStore) (id : Nat) : ShelvedStore :=
  match s.handles[id]? with
  | some h => (s.release h).1
  | none => s

/-- Install the waiting hooks that are still wanted, and empty the queue. -/
def installWaiting (s : ShelvedStore) : ShelvedStore :=
  { s with
    queue := []
    shelf := s.queue.foldl (fun shelf h => if s.isActive h.id then shelf.put h else shelf) s.shelf }

/-- Release hooks one after the other. Answers how many of them were installed. -/
def releaseAll (s : ShelvedStore) : List PathHook → ShelvedStore × Nat
  | [] => (s, 0)
  | h :: hs =>
    let (s, wasInstalled) := s.release h
    let (s, n) := s.releaseAll hs
    (s, n + wasInstalled.toNat)

/-- Lay a delta over the state, notify the hooks, and release those with closed listeners. -/
def applyDelta (s : ShelvedStore) (ls : Listeners) (op : String) (delta : Document) :
    ShelvedStore × Listeners × List Signal :=
  let s := s.installWaiting
  let s := { s with state := s.state.merge delta }
  let n := (s.shelf.visits delta).foldl (Store.Notification.send s.state) { listeners := ls }
  let (s, removed) := s.releaseAll (n.closed.reverse.filterMap fun id => s.handles[id]?)
  let counted : List Signal := if n.dropped = 0 then [] else [.count .eventsDropped n.dropped]
  let merged := Notice.deltaMerged op n.delivered n.dropped removed
  ({ s with dropped := s.dropped + n.dropped }, n.listeners,
    n.signals ++ counted ++ [.notice merged])

/-- Take in a packet. -/
def ingest (s : ShelvedStore) (ls : Listeners) (op : String) (payload : ByteArray) :
    ShelvedStore × Listeners × List Signal :=
  if op = s.config.snapshotOp then
    match Store.extract payload s.config.snapshotKey with
    | .malformed => (s, ls, [.notice (.snapshotMalformed op)])
    | .absent => (s, ls, [.notice (.snapshotMissing op s.config.snapshotKey)])
    | .found document => ({ s.installWaiting with state := document, isLoaded := true }, ls, [])
  else if s.isLoaded then
    if Store.isBlankPayload payload then (s, ls, [])
    else
      match Store.extract payload s.config.deltaKey with
      | .found delta => s.applyDelta ls op delta
      | _ => (s, ls, [])
  else (s, ls, [])

/-! ### Two stores with the same hooks -/

/-- A store that keeps its hooks by path, and one that has them in a list: they know the same, the
same hooks wait and are installed in the same order, and every hook that waits or is installed is
there once, under the number of its handle. A hook is wanted as long as it subscribes. -/
structure Matches (s : ShelvedStore) (t : Store) : Prop where
  config : t.config = s.config
  state : t.state = s.state
  isLoaded : t.isLoaded = s.isLoaded
  dropped : t.dropped = s.dropped
  nextId : t.nextId = s.handles.length
  queue : t.queue = s.queue.map fun h => { hook := h, isActive := s.isActive h.id }
  shelf : s.shelf.Keeps t.installed
  active : ∀ h ∈ s.handles, s.isActive h.id = true ↔ h ∈ t.subscribers
  numbered : s.handles.map PathHook.id = List.range s.handles.length
  handled : ∀ h ∈ s.queue ++ t.installed, h ∈ s.handles
  once : ((s.queue ++ t.installed).map PathHook.id).Nodup

namespace Matches

variable {s : ShelvedStore} {t : Store}

/-- Nothing has been registered. -/
lemma blank (c : StateConfig) : Matches { config := c } { config := c } where
  config := rfl
  state := rfl
  isLoaded := rfl
  dropped := rfl
  nextId := rfl
  queue := rfl
  shelf := Shelf.keeps_empty
  active _ h := by contradiction
  numbered := rfl
  handled _ h := by contradiction
  once := List.nodup_nil

/-- Every hook is found at the place of its number. -/
lemma getElem?_handles_eq_some_iff (h : Matches s t) {id : Nat} {g : PathHook} :
    s.handles[id]? = some g ↔ g ∈ s.handles ∧ g.id = id := by
  have hplace {i : Nat} {x : PathHook} (hx : s.handles[i]? = some x) : x.id = i := by
    have hid : (s.handles.map PathHook.id)[i]? = some x.id := by rw [List.getElem?_map, hx]; rfl
    rw [h.numbered, List.getElem?_range (List.getElem?_eq_some_iff.1 hx).1] at hid
    exact (Option.some.inj hid).symm
  constructor
  · exact fun hg => ⟨List.mem_of_getElem? hg, hplace hg⟩
  · rintro ⟨hmem, rfl⟩
    obtain ⟨i, hi⟩ := List.mem_iff_getElem?.1 hmem
    rwa [hplace hi]

/-- Different hooks have different numbers. -/
lemma eq_of_id (h : Matches s t) {x g : PathHook} (hx : x ∈ s.handles) (hg : g ∈ s.handles)
    (hid : x.id = g.id) : x = g := by
  have hfound := h.getElem?_handles_eq_some_iff.2 ⟨hx, hid⟩
  rw [h.getElem?_handles_eq_some_iff.2 ⟨hg, rfl⟩] at hfound
  exact (Option.some.inj hfound).symm

/-- The next number has not been given yet. -/
lemma id_lt (h : Matches s t) {x : PathHook} (hx : x ∈ s.handles) : x.id < s.handles.length :=
  (List.getElem?_eq_some_iff.1 (h.getElem?_handles_eq_some_iff.2 ⟨hx, rfl⟩)).1

/-- A hook with the next number joins both queues. -/
lemma concat (h : Matches s t) {g : PathHook} (hg : g.id = s.handles.length) :
    Matches
      { s with
        handles := s.handles ++ [g]
        isActive := Function.update s.isActive g.id true
        queue := s.queue ++ [g] }
      { t with queue := t.queue ++ [{ hook := g }], nextId := t.nextId + 1 } := by
  have hold {x : PathHook} (hx : x ∈ s.handles) :
      x.id ≠ g.id ∧ Function.update s.isActive g.id true x.id = s.isActive x.id :=
    have hne : x.id ≠ g.id := hg ▸ Nat.ne_of_lt (h.id_lt hx)
    ⟨hne, Function.update_of_ne hne ..⟩
  have hperm : ((s.queue ++ [g]) ++ t.installed).Perm (g :: (s.queue ++ t.installed)) := by
    rw [List.append_assoc]
    exact List.perm_middle
  refine {
    config := h.config
    state := h.state
    isLoaded := h.isLoaded
    dropped := h.dropped
    nextId := ?_
    queue := ?_
    shelf := h.shelf
    active := fun x hx => ?_
    numbered := ?_
    handled := fun x hx => ?_
    once := ?_ }
  · change t.nextId + 1 = (s.handles ++ [g]).length
    rw [h.nextId, List.length_append, List.length_singleton]
  · change t.queue ++ [_] = (s.queue ++ [g]).map _
    rw [h.queue, List.map_append]
    refine congrArg₂ (· ++ ·) (List.map_congr_left fun x hx => ?_) ?_
    · exact congrArg (Waiting.mk x) (hold (h.handled x (List.mem_append_left _ hx))).2.symm
    · exact congrArg (fun b => [Waiting.mk g b]) (Function.update_self g.id true s.isActive).symm
  · change Function.update s.isActive g.id true x.id = true ↔ _
    rw [Store.subscribers_concat]
    rcases List.mem_append.1 hx with hx | hx
    · obtain ⟨hne, hsame⟩ := hold hx
      have hother : x ∉ [g] := fun hmem => hne (congrArg PathHook.id (List.mem_singleton.1 hmem))
      rw [hsame, h.active x hx, List.mem_append, or_iff_left hother]
    · rw [List.mem_singleton.1 hx, Function.update_self]
      exact iff_of_true rfl (List.mem_append_right _ List.mem_cons_self)
  · change (s.handles ++ [g]).map PathHook.id = List.range (s.handles ++ [g]).length
    rw [List.map_append, h.numbered, List.length_append, List.length_singleton, List.range_succ,
      List.map_singleton, hg]
  · rcases List.mem_cons.1 (hperm.mem_iff.1 hx) with rfl | hx
    · exact List.mem_append_right _ List.mem_cons_self
    · exact List.mem_append_left _ (h.handled x hx)
  · refine (hperm.map PathHook.id).nodup_iff.2 (List.nodup_cons.2 ⟨fun hmem => ?_, h.once⟩)
    obtain ⟨x, hx, hid⟩ := List.mem_map.1 hmem
    exact (hold (h.handled x hx)).1 hid

/-- Registering a hook is answered in the same way by both. -/
lemma hook (h : Matches s t) (path module listener : String) (wantPayload : Bool) :
    Matches (s.hook path module listener wantPayload).1
        (t.hook path module listener wantPayload).1 ∧
      (s.hook path module listener wantPayload).2 =
        (t.hook path module listener wantPayload).2 := by
  have hroom : t.queue.length < t.queueRoom ↔
      s.queue.length < max s.config.hookQueueCapacity.toNat 1 := by
    rw [h.queue, List.length_map, Store.queueRoom, h.config]
  unfold ShelvedStore.hook Store.hook
  by_cases hfree : s.queue.length < max s.config.hookQueueCapacity.toNat 1
  · rw [if_pos hfree, if_pos (hroom.2 hfree), ← h.nextId]
    exact ⟨h.concat h.nextId, rfl⟩
  · rw [if_neg hfree, if_neg fun hfree' => hfree (hroom.1 hfree')]
    exact ⟨h, rfl⟩

/-- The hook of a handle is released, and removed from the other store by its number. -/
lemma release (h : Matches s t) {g : PathHook} (hg : g ∈ s.handles) :
    Matches (s.release g).1 (t.unhook g.id) ∧
      (s.release g).2 = decide (g ∈ t.installed) := by
  have hsame : ∀ x ∈ t.installed, x.id = g.id → x = g := fun x hx =>
    h.eq_of_id (h.handled x (List.mem_append_right _ hx)) hg
  have hsub {x : PathHook} (hx : x ∈ s.queue ++ (t.unhook g.id).installed) :
      x ∈ s.queue ++ t.installed :=
    (List.mem_append.1 hx).elim (List.mem_append_left _) fun hin =>
      List.mem_append_right _ (List.mem_of_mem_filter hin)
  refine ⟨{
    config := h.config
    state := h.state
    isLoaded := h.isLoaded
    dropped := h.dropped
    nextId := h.nextId
    queue := ?_
    shelf := h.shelf.take hsame
    active := fun x hx => ?_
    numbered := h.numbered
    handled := fun x hx => h.handled x (hsub hx)
    once := ?_ }, h.shelf.take_snd hsame⟩
  · change t.queue.map _ = s.queue.map _
    rw [h.queue, List.map_map]
    refine List.map_congr_left fun x _ => ?_
    by_cases hid : x.id = g.id
    · simp [ShelvedStore.release, hid]
    · simp [ShelvedStore.release, hid]
  · change Function.update s.isActive g.id false x.id = true ↔ _
    rw [Store.subscribers_unhook, List.mem_filter]
    by_cases hid : x.id = g.id
    · simp [hid]
    · simpa [hid] using h.active x hx
  · refine h.once.sublist (List.Sublist.map _ ?_)
    exact (List.Sublist.refl _).append List.filter_sublist

/-- A hook is removed from both stores by its number. A number that was never given does nothing. -/
lemma unhook (h : Matches s t) (id : Nat) : Matches (s.unhook id) (t.unhook id) := by
  rw [ShelvedStore.unhook]
  cases hid : s.handles[id]? with
  | some g =>
    obtain ⟨hg, rfl⟩ := h.getElem?_handles_eq_some_iff.1 hid
    exact (h.release hg).1
  | none =>
    have hne {x : PathHook} (hx : x ∈ s.queue ++ t.installed) : x.id ≠ id :=
      Nat.ne_of_lt
        (Nat.lt_of_lt_of_le (h.id_lt (h.handled x hx)) (List.getElem?_eq_none_iff.1 hid))
    have hsame : t.unhook id = t := by
      refine Store.unhook_of_forall_ne (fun w hw => ?_) fun x hx =>
        hne (List.mem_append_right _ hx)
      rw [h.queue] at hw
      obtain ⟨x, hx, rfl⟩ := List.mem_map.1 hw
      exact hne (List.mem_append_left _ hx)
    exact hsame.symm ▸ h

/-- The waiting hooks are installed, those that are still wanted. -/
lemma installWaiting (h : Matches s t) : Matches s.installWaiting t.installWaiting := by
  have hwanted : t.installWaiting.installed =
      t.installed ++ s.queue.filter fun g => s.isActive g.id := by
    change t.installed ++ (t.queue.filter _).map _ = _
    rw [h.queue, List.filter_map, List.map_map]
    exact congrArg _ (List.map_id _)
  have hmem {x : PathHook} (hx : x ∈ t.installWaiting.installed) :
      x ∈ s.queue ++ t.installed := by
    rw [hwanted, List.mem_append] at hx
    exact List.mem_append.2 (hx.symm.imp List.mem_of_mem_filter id)
  refine {
    config := h.config
    state := h.state
    isLoaded := h.isLoaded
    dropped := h.dropped
    nextId := h.nextId
    queue := rfl
    shelf := hwanted ▸ h.shelf.foldl_put _ _
    active := fun x hx => ?_
    numbered := h.numbered
    handled := fun x hx => h.handled x (hmem hx)
    once := ?_ }
  · have hsame : t.installWaiting.subscribers = t.subscribers := List.append_nil _
    exact hsame ▸ h.active x hx
  · change (t.installWaiting.installed.map PathHook.id).Nodup
    rw [hwanted, (List.perm_append_comm.map _).nodup_iff]
    exact h.once.sublist ((List.filter_sublist.append (List.Sublist.refl _)).map _)

/-- Of the installed hooks, the one that is removed is missing, if it was among them. -/
lemma length_unhook (h : Matches s t) {g : PathHook} (hg : g ∈ s.handles) :
    (decide (g ∈ t.installed)).toNat + (t.unhook g.id).installed.length = t.installed.length := by
  have hsame : (t.unhook g.id).installed = t.installed.erase g := by
    rw [(List.Nodup.of_map _ h.once).of_append_right.erase_eq_filter]
    refine List.filter_congr fun x hx => ?_
    rw [bne, beq_eq_decide, ← decide_not]
    refine decide_eq_decide.2 (not_congr ⟨?_, congrArg PathHook.id⟩)
    exact h.eq_of_id (h.handled x (List.mem_append_right _ hx)) hg
  rw [hsame]
  by_cases hin : g ∈ t.installed
  · rw [decide_eq_true hin, Bool.toNat_true, Nat.add_comm, List.length_erase_add_one hin]
  · rw [decide_eq_false hin, Bool.toNat_false, Nat.zero_add, List.erase_of_not_mem hin]

/-- Hooks are released one after the other, and removed from the other store by their numbers. Those
that were installed are counted. -/
lemma releaseAll (h : Matches s t) {hs : List PathHook}
    (hhs : ∀ g ∈ hs, g ∈ s.handles) :
    let t' := (hs.map PathHook.id).foldl Store.unhook t
    Matches (s.releaseAll hs).1 t' ∧
      (s.releaseAll hs).2 + t'.installed.length = t.installed.length := by
  induction hs generalizing s t with
  | nil => exact ⟨h, Nat.zero_add _⟩
  | cons g hs ih =>
    have hg : g ∈ s.handles := hhs g List.mem_cons_self
    obtain ⟨hreleased, hcount⟩ := h.release hg
    obtain ⟨hmatches, hrest⟩ := ih hreleased fun x hx => hhs x (List.mem_cons_of_mem _ hx)
    refine ⟨hmatches, ?_⟩
    have hsum : (s.releaseAll (g :: hs)).2 =
        ((s.release g).1.releaseAll hs).2 + (decide (g ∈ t.installed)).toNat :=
      congrArg (fun b => _ + Bool.toNat b) hcount
    rw [hsum, Nat.add_right_comm, List.map_cons, List.foldl_cons, hrest, Nat.add_comm]
    exact h.length_unhook hg

/-- The handles of installed hooks are found by their numbers. -/
lemma filterMap_handles (h : Matches s t) {ids : List Nat}
    (hids : ∀ id ∈ ids, ∃ g ∈ t.installed, g.id = id) :
    (∀ g ∈ ids.filterMap fun id => s.handles[id]?, g ∈ s.handles) ∧
      (ids.filterMap fun id => s.handles[id]?).map PathHook.id = ids := by
  constructor
  · intro g hg
    obtain ⟨id, -, hid⟩ := List.mem_filterMap.1 hg
    exact (h.getElem?_handles_eq_some_iff.1 hid).1
  · induction ids with
    | nil => rfl
    | cons id ids ih =>
      obtain ⟨g, hg, hid⟩ := hids id List.mem_cons_self
      have hfound : s.handles[id]? = some g :=
        h.getElem?_handles_eq_some_iff.2 ⟨h.handled g (List.mem_append_right _ hg), hid⟩
      rw [List.filterMap_cons_some hfound, List.map_cons, hid,
        ih fun id hid => hids id (List.mem_cons_of_mem _ hid)]

/-- Hooks with closed listeners are released one by one, and removed from the other store all at
once. -/
lemma releaseClosed (h : Matches s t) (hqueue : t.queue = []) {closed : List Nat}
    (hclosed : ∀ id ∈ closed, ∃ g ∈ t.installed, g.id = id) :
    let r := s.releaseAll (closed.reverse.filterMap fun id => s.handles[id]?)
    let kept := t.installed.filter fun g => !closed.contains g.id
    Matches r.1 { t with installed := kept } ∧ r.2 = t.installed.length - kept.length := by
  obtain ⟨hhandles, hids⟩ := h.filterMap_handles fun id (hid : id ∈ closed.reverse) =>
    hclosed id (List.mem_reverse.1 hid)
  obtain ⟨hmatches, hcount⟩ := h.releaseAll hhandles
  obtain ⟨queue, hlength, -, hatonce⟩ := Store.foldl_unhook_eq closed.reverse t
  obtain rfl : queue = t.queue := by
    rw [hqueue] at hlength ⊢
    exact List.eq_nil_of_length_eq_zero hlength
  rw [hids, hatonce] at hmatches hcount
  simp only [List.contains_reverse] at hmatches hcount
  exact ⟨hmatches, Nat.eq_sub_of_add_eq hcount⟩

/-- The state is replaced in both stores. -/
lemma withState (h : Matches s t) (state : Document) :
    Matches { s with state } { t with state } := { h with state := rfl }

/-- A delta does the same in both stores. -/
lemma applyDelta (h : Matches s t) (ls : Listeners) (op : String) (delta : Document) :
    Matches (s.applyDelta ls op delta).1 (t.applyDelta ls op delta).1 ∧
      (s.applyDelta ls op delta).2 = (t.applyDelta ls op delta).2 := by
  have hstate : t.installWaiting.state = s.installWaiting.state := h.state
  have hnotify : (s.installWaiting.shelf.visits delta).foldl
      (Store.Notification.send (s.installWaiting.state.merge delta)) { listeners := ls } =
        Store.notify t.installWaiting.installed delta (s.installWaiting.state.merge delta) ls := by
    rw [h.installWaiting.shelf.visits]
    rfl
  obtain ⟨hreleased, hremoved⟩ := (h.installWaiting.withState
    (s.installWaiting.state.merge delta)).releaseClosed rfl fun _ => Store.mem_closed_notify
  unfold ShelvedStore.applyDelta Store.applyDelta
  simp only [hnotify, hstate]
  refine ⟨{ hreleased with dropped := congrArg (· + _) hreleased.dropped }, ?_⟩
  rw [hremoved]

/-- A packet does the same in both stores. -/
lemma ingest (h : Matches s t) (ls : Listeners) (op : String) (payload : ByteArray) :
    Matches (s.ingest ls op payload).1 (t.ingest ls op payload).1 ∧
      (s.ingest ls op payload).2 = (t.ingest ls op payload).2 := by
  unfold ShelvedStore.ingest Store.ingest
  rw [h.config, h.isLoaded]
  split
  · unfold Store.ingestSnapshot
    rw [h.config]
    cases Store.extract payload s.config.snapshotKey with
    | malformed => exact ⟨h, rfl⟩
    | absent => exact ⟨h, rfl⟩
    | found document => exact ⟨{ h.installWaiting.withState document with isLoaded := rfl }, rfl⟩
  · split
    · unfold Store.ingestDelta
      rw [h.config]
      split
      · exact ⟨h, rfl⟩
      · cases Store.extract payload s.config.deltaKey with
        | found delta => exact h.applyDelta ls op delta
        | malformed => exact ⟨h, rfl⟩
        | absent => exact ⟨h, rfl⟩
    · exact ⟨h, rfl⟩

end Matches

end ShelvedStore

/-! ### Runs -/

/-- A store that keeps its hooks by path, the listeners that they send to, and what has been
reported. -/
structure ShelvedState where
  store : ShelvedStore
  listeners : Listeners
  signals : List Signal := []

namespace ShelvedState

/-- A store as it is set up. -/
def ofConfig (config : StateConfig) (listeners : Listeners) : ShelvedState :=
  { store := { config }, listeners }

/-- Perform one call. -/
def step (v : ShelvedState) : StoreStep → ShelvedState
  | .hook path module listener wantPayload =>
    let (store, _, signals) := v.store.hook path module listener wantPayload
    { v with store, signals := v.signals ++ signals }
  | .unhook id => { v with store := v.store.unhook id }
  | .ingest op payload =>
    let (store, listeners, signals) := v.store.ingest v.listeners op payload
    { store, listeners, signals := v.signals ++ signals }
  | .drain listener max =>
    { v with listeners := v.listeners.update listener fun l => (l.take max).2 }
  | .close listener => { v with listeners := v.listeners.update listener (·.close) }

/-- Perform calls one after the other. -/
def run (v : ShelvedState) (steps : List StoreStep) : ShelvedState := steps.foldl step v

/-- The stores hold the same, their listeners too, and the same was reported. -/
structure Matches (v : ShelvedState) (w : StoreState) : Prop where
  store : v.store.Matches w.store
  listeners : v.listeners = w.listeners
  signals : v.signals = w.signals

variable {v : ShelvedState} {w : StoreState}

/-- A call does the same to both. -/
lemma Matches.step (h : Matches v w) (s : StoreStep) : Matches (v.step s) (w.step s) := by
  cases s with
  | hook path module listener wantPayload =>
    obtain ⟨hstore, hanswer⟩ := h.store.hook path module listener wantPayload
    exact ⟨hstore, h.listeners, congrArg₂ (· ++ ·) h.signals (congrArg Prod.snd hanswer)⟩
  | unhook id => exact ⟨h.store.unhook id, h.listeners, h.signals⟩
  | ingest op payload =>
    obtain ⟨hstore, hanswer⟩ := h.store.ingest v.listeners op payload
    rw [ShelvedState.step, StoreState.step, ← h.listeners]
    exact ⟨hstore, congrArg Prod.fst hanswer,
      congrArg₂ (· ++ ·) h.signals (congrArg Prod.snd hanswer)⟩
  | drain listener max =>
    rw [ShelvedState.step, StoreState.step, h.listeners]
    exact ⟨h.store, rfl, h.signals⟩
  | close listener =>
    rw [ShelvedState.step, StoreState.step, h.listeners]
    exact ⟨h.store, rfl, h.signals⟩

/-- Calls in any order do the same to both. -/
lemma Matches.run (h : Matches v w) (steps : List StoreStep) :
    Matches (v.run steps) (w.run steps) := by
  induction steps generalizing v w with
  | nil => exact h
  | cons s steps ih => exact ih (h.step s)

/-- Two stores of one configuration on which the same calls are performed, one with its hooks in a
list and one with its hooks by path, hold the same and have reported the same. -/
theorem run_matches (c : StateConfig) (ls : Listeners) (steps : List StoreStep) :
    Matches ((ofConfig c ls).run steps) ((StoreState.ofConfig c ls).run steps) :=
  Matches.run ⟨.blank c, rfl, rfl⟩ steps

end ShelvedState

end Intercept
