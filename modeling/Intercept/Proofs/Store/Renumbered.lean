import Intercept.Proofs.Store.Reserved
import Mathlib.Data.Nat.Count

/-!
# Stores without some of the hooks

Two stores are compared that have seen the same, but for registrations that were made in the first
one only and taken back. The numbers of registrations are those of the second store if one counts on
the first one and skips what was taken back (`rank`). Such registrations may still wait in the queue
of the first store, where they take up room; otherwise the stores cannot be told apart
(`Store.Reduces`), and they remain so when hooks are registered and removed and when a packet is
taken in (`Reduces.ingest`), for which the same events are sent (`Reduces.offers`). Registrations to
be taken back are a burden to a store (`Store.Burdened`), and once they are taken back, it is as
before to the other one (`Burdened.takeBack`).
-/

namespace Intercept

/-! ### Counting what is kept -/

/-- How many of the numbers below `n` are kept. -/
def rank (keeps : Nat → Bool) (n : Nat) : Nat := n.count fun i => keeps i = true

section Rank

variable {keeps : Nat → Bool} {m n : Nat}

/-- The number after one that is kept. -/
lemma rank_succ (h : keeps n = true) : rank keeps (n + 1) = rank keeps n + 1 := by
  rw [rank, Nat.count_succ, if_pos h, rank]

/-- Numbers that are kept keep their order. -/
lemma rank_lt (hm : keeps m = true) (h : m < n) : rank keeps m < rank keeps n :=
  Nat.count_strict_mono hm h

/-- Numbers that are kept are not mixed up. -/
lemma rank_inj (hm : keeps m = true) (hn : keeps n = true) :
    rank keeps m = rank keeps n ↔ m = n :=
  ⟨Nat.count_injective hm hn, congrArg _⟩

/-- Numbers that are not kept are skipped. -/
lemma rank_of_skips (hle : m ≤ n) (hskips : ∀ i, m ≤ i → i < n → keeps i = false) :
    rank keeps n = rank keeps m := by
  induction n, hle using Nat.le_induction with
  | base => rfl
  | succ n hle ih =>
    have hlast : keeps n = false := hskips n hle (Nat.lt_succ_self n)
    rw [rank, Nat.count_succ, hlast, if_neg Bool.false_ne_true, Nat.add_zero]
    exact ih fun i hm hn => hskips i hm (Nat.lt_succ_of_lt hn)

/-- Whether a number that is kept is among others, by their ranks. -/
lemma contains_map_rank {ids : List Nat} (hids : ∀ id ∈ ids, keeps id = true)
    (hn : keeps n = true) : (ids.map (rank keeps)).contains (rank keeps n) = ids.contains n := by
  rw [Bool.eq_iff_iff, List.contains_iff_mem, List.contains_iff_mem, List.mem_map]
  constructor
  · rintro ⟨id, hid, heq⟩
    rwa [← (rank_inj (hids id hid) hn).1 heq]
  · exact fun hmem => ⟨n, hmem, rfl⟩

end Rank

/-- Of entries with numbers, those are taken out that came later, and no others. -/
lemma filter_not_contains {α : Type} {number : α → Nat} {ids : List Nat} {old later : List α}
    (hold : ∀ x ∈ old, number x ∉ ids) (hlater : ∀ x ∈ later, number x ∈ ids) :
    (old ++ later).filter (fun x => !ids.contains (number x)) = old := by
  have hgone : later.filter (fun x => !ids.contains (number x)) = [] := by
    refine List.filter_eq_nil_iff.2 fun x hx => ?_
    rw [Bool.not_eq_true', Bool.not_eq_false, List.contains_iff_mem]
    exact hlater x hx
  rw [List.filter_append, hgone, List.append_nil]
  refine List.filter_eq_self.2 fun x hx => ?_
  rw [Bool.not_eq_true', ← Bool.not_eq_true, List.contains_iff_mem]
  exact hold x hx

/-- A path hook by its number in the other store. -/
def PathHook.renumber (keeps : Nat → Bool) (h : PathHook) : PathHook :=
  { h with id := rank keeps h.id }

/-- Hooks are chosen by their new numbers as by the old ones. -/
lemma filter_renumber {keeps : Nat → Bool} {hooks : List PathHook} {p p' : PathHook → Bool}
    (hp : ∀ h ∈ hooks, p' (h.renumber keeps) = p h) :
    (hooks.map (PathHook.renumber keeps)).filter p' =
      (hooks.filter p).map (PathHook.renumber keeps) := by
  rw [List.filter_map]
  exact congrArg (List.map _) (List.filter_congr hp)

/-- An attempt by the number of its hook in the other store. -/
def Attempt.renumber (keeps : Nat → Bool) (a : Attempt) : Attempt :=
  { a with hook := a.hook.renumber keeps }

/-- The same events are due under other numbers. -/
lemma due_renumber (keeps : Nat → Bool) (hooks : List PathHook) (delta state : Document) :
    due (hooks.map (PathHook.renumber keeps)) delta state =
      (due hooks delta state).map fun x => (x.1.renumber keeps, x.2) := by
  unfold due
  rw [List.map_flatMap]
  refine List.flatMap_congr fun path _ => ?_
  rw [filter_renumber fun _ _ => rfl, List.map_map, List.map_map]
  rfl

/-- The same becomes of events that are offered under other numbers. -/
lemma offerAll_renumber (keeps : Nat → Bool) (ls : Listeners) (events : List (PathHook × Event)) :
    offerAll ls (events.map fun x => (x.1.renumber keeps, x.2)) =
      ((offerAll ls events).1.map (Attempt.renumber keeps), (offerAll ls events).2) := by
  induction events generalizing ls with
  | nil => rfl
  | cons x events ih =>
    obtain ⟨h, e⟩ := x
    have hlistener : (h.renumber keeps).listener = h.listener := rfl
    simp only [List.map_cons, offerAll, hlistener, ih]
    rfl

/-- The same hooks are found to have a closed listener. -/
lemma refusedHooks_renumber (keeps : Nat → Bool) (attempts : List Attempt) :
    refusedHooks (attempts.map (Attempt.renumber keeps)) =
      (refusedHooks attempts).map (rank keeps) := by
  unfold refusedHooks
  rw [List.filter_map, List.map_map, List.map_map]
  rfl

namespace Store

/-- The waiting hooks that are still active. -/
def active (s : Store) : List PathHook := (s.queue.filter (·.isActive)).map (·.hook)

/-- The second store is the first one without the registrations that are not kept; those that are
kept have reserved listeners. -/
structure Reduces (own : String → Bool) (keeps : Nat → Bool) (s s' : Store) : Prop where
  config : s'.config = s.config
  state : s'.state = s.state
  isLoaded : s'.isLoaded = s.isLoaded
  dropped : s'.dropped = s.dropped
  installed : s'.installed = s.installed.map (PathHook.renumber keeps)
  active : s'.active = s.active.map (PathHook.renumber keeps)
  kept : ∀ h ∈ s.subscribers, keeps h.id = true ∧ h.id < s.nextId ∧ own h.listener = true
  nextId : s'.nextId = rank keeps s.nextId
  room : s'.queue.length ≤ s.queue.length

/-- The subscribers are the installed hooks and the waiting ones that are still active. -/
lemma subscribers_eq (s : Store) : s.subscribers = s.installed ++ s.active := rfl

/-- What is active when a hook is removed. -/
lemma active_unhook (s : Store) (id : Nat) :
    (s.unhook id).active = s.active.filter fun h => h.id ≠ id := by
  unfold active unhook
  simp only
  induction s.queue with
  | nil => rfl
  | cons w queue ih =>
    rw [List.map_cons, List.filter_cons, List.filter_cons]
    by_cases hid : w.hook.id = id
    · cases hactive : w.isActive <;> simpa [hid, hactive] using ih
    · cases hactive : w.isActive <;> simpa [hid, hactive] using ih

/-- What is active when a hook is added to the queue. -/
lemma active_concat (s : Store) (g : PathHook) (n : Nat) :
    ({ s with queue := s.queue ++ [{ hook := g }], nextId := n } : Store).active =
      s.active ++ [g] := by
  rw [active, List.filter_append, List.map_append]
  rfl

namespace Reduces

variable {own : String → Bool} {keeps : Nat → Bool} {s s' : Store}

/-- New stores have no hooks. -/
lemma blank (c : StateConfig) : Reduces own keeps { config := c } { config := c } :=
  ⟨rfl, rfl, rfl, rfl, rfl, rfl, fun _ h => by contradiction, (Nat.count_zero _).symm,
    Nat.le_refl _⟩

/-- What is known of the state is the same. -/
lemma loaded? (h : Reduces own keeps s s') : s'.loaded? = s.loaded? := by
  rw [Store.loaded?, Store.loaded?, h.isLoaded, h.state]

/-- The same number of hooks is installed. -/
lemma hookCount (h : Reduces own keeps s s') : s'.hookCount = s.hookCount := by
  rw [Store.hookCount, Store.hookCount, h.installed, List.length_map]

/-- The same hooks subscribe. -/
lemma subscribers (h : Reduces own keeps s s') :
    s'.subscribers = s.subscribers.map (PathHook.renumber keeps) := by
  rw [subscribers_eq, subscribers_eq, h.installed, h.active, List.map_append]

/-- Where there is room in the first store, there is room in the second one. -/
lemma hasRoom (h : Reduces own keeps s s') (hroom : s.queue.length < s.queueRoom) :
    s'.queue.length < s'.queueRoom := by
  rw [queueRoom, h.config]
  exact Nat.lt_of_le_of_lt h.room hroom

/-- A registration under a number that is kept. -/
lemma concat (h : Reduces own keeps s s') (hkeeps : keeps s.nextId = true) (path module : String)
    {listener : String} (hown : own listener = true) (wantPayload : Bool) :
    Reduces own keeps
      { s with
        queue := s.queue ++ [{ hook := { id := s.nextId, path, module, listener, wantPayload } }]
        nextId := s.nextId + 1 }
      { s' with
        queue := s'.queue ++
          [{ hook := { id := rank keeps s.nextId, path, module, listener, wantPayload } }]
        nextId := rank keeps s.nextId + 1 } where
  config := h.config
  state := h.state
  isLoaded := h.isLoaded
  dropped := h.dropped
  installed := h.installed
  active := by
    rw [active_concat, active_concat, h.active, List.map_append]
    rfl
  kept g hg := by
    rw [subscribers_eq, active_concat, ← List.append_assoc] at hg
    rcases List.mem_append.1 hg with hold | hnew
    · obtain ⟨hid, hlt, hlistener⟩ := h.kept g hold
      exact ⟨hid, Nat.lt_succ_of_lt hlt, hlistener⟩
    · obtain rfl := List.mem_singleton.1 hnew
      exact ⟨hkeeps, Nat.lt_succ_self _, hown⟩
  nextId := (rank_succ hkeeps).symm
  room := by
    rw [List.length_append, List.length_append]
    exact Nat.add_le_add_right h.room _

/-- A hook that is kept is removed from both stores. -/
lemma unhook (h : Reduces own keeps s s') {id : Nat} (hid : keeps id = true) :
    Reduces own keeps (s.unhook id) (s'.unhook (rank keeps id)) := by
  have hsame : ∀ g : PathHook, keeps g.id = true →
      decide ((g.renumber keeps).id ≠ rank keeps id) = decide (g.id ≠ id) :=
    fun g hg => decide_eq_decide.2 (not_congr (rank_inj hg hid))
  refine ⟨h.config, h.state, h.isLoaded, h.dropped, ?_, ?_, fun g hg => ?_, h.nextId, ?_⟩
  · change s'.installed.filter _ = _
    rw [h.installed]
    exact filter_renumber fun g hg => hsame g (h.kept g (List.mem_append_left _ hg)).1
  · rw [active_unhook, active_unhook, h.active]
    exact filter_renumber fun g hg => hsame g (h.kept g (List.mem_append_right _ hg)).1
  · refine h.kept g ?_
    rw [subscribers_eq, active_unhook] at hg
    rcases List.mem_append.1 hg with hin | hin
    · exact List.mem_append_left _ (List.mem_of_mem_filter hin)
    · exact List.mem_append_right _ (List.mem_of_mem_filter hin)
  · change (s'.queue.map _).length ≤ (s.queue.map _).length
    rw [List.length_map, List.length_map]
    exact h.room

end Reduces

/-! ### What is taken back -/

/-- What remains of a store when several hooks are removed. -/
lemma foldl_unhook_eq (ids : List Nat) (s : Store) : ∃ queue : List Waiting,
    queue.length = s.queue.length ∧
    (queue.filter (·.isActive)).map (·.hook) = s.active.filter (fun h => !ids.contains h.id) ∧
    ids.foldl (fun st id => st.unhook id) s =
      { s with queue, installed := s.installed.filter fun h => !ids.contains h.id } := by
  induction ids generalizing s with
  | nil =>
    refine ⟨s.queue, rfl, ?_, ?_⟩
    · exact (List.filter_eq_self.2 fun _ _ => rfl).symm
    · have hsame : (s.installed.filter fun h => !([] : List Nat).contains h.id) = s.installed :=
        List.filter_eq_self.2 fun _ _ => rfl
      rw [hsame]
      rfl
  | cons id ids ih =>
    obtain ⟨queue, hlength, hactive, heq⟩ := ih (s.unhook id)
    have hboth (hooks : List PathHook) :
        (hooks.filter fun h => h.id ≠ id).filter (fun h => !ids.contains h.id) =
          hooks.filter fun h => !(id :: ids).contains h.id := by
      rw [List.filter_filter]
      refine List.filter_congr fun h _ => ?_
      by_cases hid : h.id = id <;> simp [hid]
    refine ⟨queue, hlength.trans (List.length_map _), ?_, ?_⟩
    · rw [hactive, active_unhook, hboth]
    · rw [List.foldl_cons, heq]
      change ({ s with queue, installed := (s.installed.filter _).filter _ } : Store) = _
      rw [hboth]

/-- A store after some registrations that will be taken back, under the numbers `ids`. -/
structure Burdened (s s₁ : Store) (ids : List Nat) : Prop where
  config : s₁.config = s.config
  state : s₁.state = s.state
  isLoaded : s₁.isLoaded = s.isLoaded
  dropped : s₁.dropped = s.dropped
  installed : s₁.installed = s.installed
  active : ∃ extra, s₁.active = s.active ++ extra ∧ ∀ h ∈ extra, h.id ∈ ids
  fresh : ∀ id ∈ ids, s.nextId ≤ id
  nextId : s.nextId ≤ s₁.nextId
  room : s.queue.length ≤ s₁.queue.length

namespace Burdened

variable {s s₁ : Store} {ids : List Nat}

/-- Nothing is registered at first. -/
lemma refl (s : Store) : Burdened s s [] :=
  ⟨rfl, rfl, rfl, rfl, rfl, ⟨[], (List.append_nil _).symm, fun _ h => by contradiction⟩,
    fun _ h => by contradiction, Nat.le_refl _, Nat.le_refl _⟩

/-- One more registration. -/
lemma concat (h : Burdened s s₁ ids) (path module listener : String) (wantPayload : Bool) :
    Burdened s
      { s₁ with
        queue := s₁.queue ++ [{ hook := { id := s₁.nextId, path, module, listener, wantPayload } }]
        nextId := s₁.nextId + 1 } (ids ++ [s₁.nextId]) where
  config := h.config
  state := h.state
  isLoaded := h.isLoaded
  dropped := h.dropped
  installed := h.installed
  active := by
    obtain ⟨extra, hactive, hextra⟩ := h.active
    refine ⟨extra ++ [{ id := s₁.nextId, path, module, listener, wantPayload }], ?_, fun g hg => ?_⟩
    · rw [active_concat, hactive, List.append_assoc]
    · rcases List.mem_append.1 hg with hold | hnew
      · exact List.mem_append_left _ (hextra g hold)
      · rw [List.mem_singleton.1 hnew]
        exact List.mem_append_right _ List.mem_cons_self
  fresh id hid := by
    rcases List.mem_append.1 hid with hold | hnew
    · exact h.fresh id hold
    · rw [List.mem_singleton.1 hnew]
      exact h.nextId
  nextId := Nat.le_succ_of_le h.nextId
  room := by
    rw [List.length_append]
    exact Nat.le_add_right_of_le h.room

/-- One of the registrations is removed. -/
lemma unhook (h : Burdened s s₁ ids) (hbelow : ∀ g ∈ s.subscribers, g.id < s.nextId) {id : Nat}
    (hid : s.nextId ≤ id) : Burdened s (s₁.unhook id) ids where
  config := h.config
  state := h.state
  isLoaded := h.isLoaded
  dropped := h.dropped
  installed := by
    change s₁.installed.filter _ = s.installed
    rw [h.installed]
    refine List.filter_eq_self.2 fun g hg => decide_eq_true fun heq => ?_
    exact absurd (hbelow g (List.mem_append_left _ hg)) (Nat.not_lt_of_le (heq ▸ hid))
  active := by
    obtain ⟨extra, hactive, hextra⟩ := h.active
    refine ⟨extra.filter fun g => g.id ≠ id, ?_, fun g hg => hextra g (List.mem_of_mem_filter hg)⟩
    rw [active_unhook, hactive, List.filter_append]
    refine congrArg (· ++ _) (List.filter_eq_self.2 fun g hg => decide_eq_true fun heq => ?_)
    exact absurd (hbelow g (List.mem_append_right _ hg)) (Nat.not_lt_of_le (heq ▸ hid))
  fresh := h.fresh
  nextId := h.nextId
  room := Nat.le_trans h.room (Nat.le_of_eq (List.length_map _).symm)

/-- When all of it is taken back, the store is as before to one that has never seen it. -/
lemma takeBack (h : Burdened s s₁ ids) {own : String → Bool} {keeps : Nat → Bool} {s' : Store}
    (hs : Reduces own keeps s s') (hrank : rank keeps s₁.nextId = rank keeps s.nextId) :
    Reduces own keeps (ids.foldl (fun st id => st.unhook id) s₁) s' := by
  obtain ⟨queue, hlength, hremains, heq⟩ := foldl_unhook_eq ids s₁
  obtain ⟨extra, hactive, hextra⟩ := h.active
  have hold : ∀ g ∈ s.subscribers, g.id ∉ ids := fun g hg hid =>
    Nat.not_lt_of_le (h.fresh g.id hid) (hs.kept g hg).2.1
  have hinstalled : (s₁.installed.filter fun g => !ids.contains g.id) = s.installed := by
    rw [h.installed]
    refine List.filter_eq_self.2 fun g hg => ?_
    simpa using hold g (List.mem_append_left _ hg)
  have hwaiting : (queue.filter (·.isActive)).map (·.hook) = s.active := by
    rw [hremains, hactive]
    exact filter_not_contains (fun g hg => hold g (List.mem_append_right _ hg)) hextra
  rw [heq, hinstalled]
  exact {
    config := hs.config.trans h.config.symm
    state := hs.state.trans h.state.symm
    isLoaded := hs.isLoaded.trans h.isLoaded.symm
    dropped := hs.dropped.trans h.dropped.symm
    installed := hs.installed
    active := hs.active.trans (congrArg (List.map (PathHook.renumber keeps)) hwaiting.symm)
    kept := fun g hg => by
      have hbefore : g ∈ s.subscribers := by
        rw [subscribers_eq, ← hwaiting]
        exact hg
      obtain ⟨hid, hlt, hlistener⟩ := hs.kept g hbefore
      exact ⟨hid, Nat.lt_of_lt_of_le hlt h.nextId, hlistener⟩
    nextId := hs.nextId.trans hrank.symm
    room := Nat.le_trans hs.room (Nat.le_trans h.room (Nat.le_of_eq hlength.symm)) }

end Burdened

/-! ### Packets -/

/-- The attempts to send events that a packet leads to, and the listeners as they leave them. -/
def offers (s : Store) (ls : Listeners) (op : String) (payload : ByteArray) :
    List Attempt × Listeners :=
  match s.config.deltaIn? op payload, s.loaded? with
  | some delta, some state => offerAll ls (due s.subscribers delta (state.merge delta))
  | _, _ => ([], ls)

/-- A delta makes the attempts that are due, if there is a state to lay it over. -/
lemma offers_of_deltaIn? {s : Store} (ls : Listeners) {op : String} {payload : ByteArray}
    {delta : Document} (hd : s.config.deltaIn? op payload = some delta) (hl : s.isLoaded = true) :
    s.offers ls op payload = offerAll ls (due s.subscribers delta (s.state.merge delta)) := by
  rw [offers, hd, loaded?, if_pos hl]

/-- Other packets make no attempts. -/
lemma offers_of_none {s : Store} (ls : Listeners) {op : String} {payload : ByteArray}
    (hd : s.config.deltaIn? op payload = none ∨ s.isLoaded = false) :
    s.offers ls op payload = ([], ls) := by
  rcases hd with hd | hl
  · rw [offers, hd]
  · rw [offers, loaded?, hl]
    cases s.config.deltaIn? op payload <;> rfl

/-- The attempts tell what a walk of a delta does to the listeners, how many events it loses, and
which hooks it finds closed. -/
lemma notify_eq_offerAll (hooks : List PathHook) (delta state : Document) (ls : Listeners) :
    let attempts := offerAll ls (due hooks delta state)
    (notify hooks delta state ls).listeners = attempts.2 ∧
      (notify hooks delta state ls).dropped = attempts.1.countP (·.isLost) ∧
      (notify hooks delta state ls).closed = (refusedHooks attempts.1).reverse := by
  intro attempts
  have hsend := foldl_send state (visits hooks delta) { listeners := ls }
  rw [map_eventFor_visits] at hsend
  rw [notify, hsend]
  exact ⟨rfl, Nat.zero_add _, List.append_nil _⟩

/-- A packet leaves the listeners as its attempts do, and those that met a full listener are counted
as lost. -/
lemma ingest_offers (s : Store) (ls : Listeners) (op : String) (payload : ByteArray) :
    (s.ingest ls op payload).2.1 = (s.offers ls op payload).2 ∧
      (s.ingest ls op payload).1.dropped =
        s.dropped + (s.offers ls op payload).1.countP (·.isLost) := by
  rcases s.ingest_cases op payload with ⟨d, hd⟩ | ⟨delta, hd, hl⟩ | ⟨hsnapshot, hd⟩
  · have hdelta : s.config.deltaIn? op payload = none := by
      by_contra hdelta
      obtain ⟨delta, hdelta⟩ := Option.ne_none_iff_exists'.1 hdelta
      rw [StateConfig.snapshotIn?_eq_none_of_deltaIn? hdelta] at hd
      contradiction
    rw [ingest_of_snapshotIn? ls hd, offers_of_none ls (.inl hdelta)]
    exact ⟨rfl, rfl⟩
  · obtain ⟨hlisteners, hdropped, -⟩ :=
      notify_eq_offerAll s.subscribers delta (s.state.merge delta) ls
    rw [ingest_of_deltaIn? ls hd hl, offers_of_deltaIn? ls hd hl]
    exact ⟨hlisteners, congrArg (s.dropped + ·) hdropped⟩
  · obtain ⟨hstore, hlisteners⟩ := ingest_of_none ls hsnapshot hd
    rw [hstore, hlisteners, offers_of_none ls hd]
    exact ⟨rfl, rfl⟩

/-- The same attempts are made, under other numbers. -/
lemma Reduces.offers {own : String → Bool} {keeps : Nat → Bool} {s s' : Store}
    (h : Reduces own keeps s s') (ls : Listeners) (op : String) (payload : ByteArray) :
    s'.offers ls op payload =
      ((s.offers ls op payload).1.map (Attempt.renumber keeps), (s.offers ls op payload).2) := by
  unfold Store.offers
  rw [h.config, h.loaded?, h.subscribers]
  cases s.config.deltaIn? op payload with
  | none => rfl
  | some delta =>
    cases s.loaded? with
    | none => rfl
    | some state =>
      simp only [due_renumber]
      exact offerAll_renumber keeps ls _

/-- A walk of a delta does the same under other numbers. -/
lemma notify_renumber (keeps : Nat → Bool) (hooks : List PathHook) (delta state : Document)
    (ls : Listeners) :
    let n := notify hooks delta state ls
    let n' := notify (hooks.map (PathHook.renumber keeps)) delta state ls
    n'.listeners = n.listeners ∧ n'.dropped = n.dropped ∧
      n'.closed = n.closed.map (rank keeps) := by
  intro n n'
  obtain ⟨hlisteners, hdropped, hclosed⟩ := notify_eq_offerAll hooks delta state ls
  obtain ⟨hlisteners', hdropped', hclosed'⟩ :=
    notify_eq_offerAll (hooks.map (PathHook.renumber keeps)) delta state ls
  rw [due_renumber, offerAll_renumber] at hlisteners' hdropped' hclosed'
  refine ⟨hlisteners'.trans hlisteners.symm, ?_, ?_⟩
  · rw [hdropped', hdropped, List.countP_map]
    rfl
  · rw [hclosed', hclosed, refusedHooks_renumber, List.map_reverse]

/-- Only hooks that are installed are found to have a closed listener. -/
lemma mem_closed_notify {hooks : List PathHook} {delta state : Document} {ls : Listeners} {id : Nat}
    (hid : id ∈ (notify hooks delta state ls).closed) : ∃ h ∈ hooks, h.id = id := by
  rw [(notify_eq_offerAll hooks delta state ls).2.2, List.mem_reverse,
    mem_refusedHooks_offerAll] at hid
  obtain ⟨⟨h, e⟩, hdue, hid, -⟩ := hid
  exact ⟨h, (mem_due hdue).1, hid⟩

/-- The waiting hooks are installed, and something becomes of the state. -/
lemma Reduces.installWaiting {own : String → Bool} {keeps : Nat → Bool} {s s' : Store}
    (h : Reduces own keeps s s') (state : Document) (isLoaded : Bool) :
    Reduces own keeps { s.installWaiting with state, isLoaded }
      { s'.installWaiting with state, isLoaded } where
  config := h.config
  state := rfl
  isLoaded := rfl
  dropped := h.dropped
  installed := h.subscribers
  active := rfl
  kept g hg := h.kept g (by simpa [Store.subscribers, Store.installWaiting] using hg)
  nextId := h.nextId
  room := Nat.le_refl _

/-- A packet does the same in both stores, and to the listeners. -/
theorem Reduces.ingest {own : String → Bool} {keeps : Nat → Bool} {s s' : Store}
    (h : Reduces own keeps s s') (ls : Listeners) (op : String) (payload : ByteArray) :
    Reduces own keeps (s.ingest ls op payload).1 (s'.ingest ls op payload).1 ∧
      (s'.ingest ls op payload).2.1 = (s.ingest ls op payload).2.1 ∧
      ∀ name, own name = false → (s.ingest ls op payload).2.1.find? name = ls.find? name := by
  have hsubscribe : ∀ g ∈ s.installWaiting.installed, keeps g.id = true := fun g hg =>
    (h.kept g hg).1
  rcases s.ingest_cases op payload with ⟨d, hd⟩ | ⟨delta, hd, hl⟩ | ⟨hsnapshot, hd⟩
  · rw [ingest_of_snapshotIn? ls hd, ingest_of_snapshotIn? ls (h.config ▸ hd)]
    exact ⟨h.installWaiting d true, rfl, fun _ _ => rfl⟩
  · rw [ingest_of_deltaIn? ls hd hl, ingest_of_deltaIn? ls (h.config ▸ hd) (h.isLoaded.trans hl)]
    have hstate : s'.installWaiting.state = s.installWaiting.state := h.state
    have hinstalled : s'.installWaiting.installed =
        s.installWaiting.installed.map (PathHook.renumber keeps) := h.subscribers
    obtain ⟨hlisteners, hdropped, hclosed⟩ := notify_renumber keeps s.installWaiting.installed delta
      (s.installWaiting.state.merge delta) ls
    have hclosedKept : ∀ id ∈ (notify s.installWaiting.installed delta
        (s.installWaiting.state.merge delta) ls).closed, keeps id = true := by
      intro id hid
      obtain ⟨g, hg, rfl⟩ := mem_closed_notify hid
      exact hsubscribe g hg
    have hsame : ∀ g ∈ s.installWaiting.installed,
        (!(notify (s.installWaiting.installed.map (PathHook.renumber keeps)) delta
            (s.installWaiting.state.merge delta) ls).closed.contains (g.renumber keeps).id) =
          !(notify s.installWaiting.installed delta
            (s.installWaiting.state.merge delta) ls).closed.contains g.id := by
      intro g hg
      change (!List.contains _ (rank keeps g.id)) = _
      rw [hclosed, contains_map_rank hclosedKept (hsubscribe g hg)]
    unfold applyDelta
    simp only [hstate, hinstalled]
    refine ⟨?_, hlisteners, ?_⟩
    · -- Both queues are empty now, so both stores have the same room again.
      refine ⟨h.config, rfl, h.isLoaded, ?_, filter_renumber hsame, rfl, fun g hg => ?_, h.nextId,
        Nat.le_refl _⟩
      · change s'.dropped + _ = s.dropped + _
        rw [h.dropped, hdropped]
      · rw [subscribers_eq] at hg
        rcases List.mem_append.1 hg with hin | hin
        · exact h.kept g (List.mem_of_mem_filter hin)
        · contradiction
    · intro name hname
      refine find?_foldl_send (fun g hg => ?_) _ { listeners := ls } hname
      exact (h.kept g (mem_visits hg)).2.2
  · obtain ⟨hstore, hlisteners⟩ := ingest_of_none ls hsnapshot hd
    obtain ⟨hstore', hlisteners'⟩ := ingest_of_none ls (s := s') (h.config ▸ hsnapshot)
      (by rw [h.config, h.isLoaded]; exact hd)
    rw [hstore, hstore', hlisteners, hlisteners']
    exact ⟨h, rfl, fun _ _ => rfl⟩

end Store

end Intercept
