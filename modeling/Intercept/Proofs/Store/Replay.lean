import Intercept.Proofs.Store.Run
import Mathlib

/-!
# The state of a store is a replay of its packets

Whatever else is done with a store, its state is determined by the packets it was given: the last
snapshot, with the deltas that came after it laid over it in their order. Main statement:
`run_replays_packets`.

The proof goes through `StateConfig.replay`, which keeps what is known of the state and looks at
nothing but packets. `loaded?_run` says that a store knows just that, and `replay_of_last_snapshot`
puts it into closed form.
-/

namespace Intercept

namespace StateConfig

variable (c : StateConfig)

/-- The snapshot that a call brings, if it brings one. -/
def snapshotOf? : StoreStep → Option Document
  | .ingest op payload => c.snapshotIn? op payload
  | _ => none

/-- The delta that a call brings, if it brings one. -/
def deltaOf? : StoreStep → Option Document
  | .ingest op payload => c.deltaIn? op payload
  | _ => none

/-- What is known of the state after one more call. -/
def learn (known : Option Document) : StoreStep → Option Document
  | .ingest op payload => c.takeIn known op payload
  | _ => known

/-- What is known of the state after some calls on a fresh store. -/
def replay (steps : List StoreStep) : Option Document := steps.foldl c.learn none

variable {c}

/-- A call with a snapshot tells the state, whatever was known before. -/
lemma learn_of_snapshot {s : StoreStep} {d : Document} (h : c.snapshotOf? s = some d)
    (known : Option Document) : c.learn known s = some d := by
  cases s with
  | ingest op payload => exact takeIn_of_snapshotIn? h known
  | _ => contradiction

/-- A call without a snapshot has its delta laid over what is known. -/
lemma learn_of_no_snapshot {s : StoreStep} (h : c.snapshotOf? s = none) (known : Option Document) :
    c.learn known s = known.map fun d => d.mergeAll (c.deltaOf? s).toList := by
  cases s with
  | ingest op payload =>
    rw [learn, takeIn, show c.snapshotIn? op payload = none from h, deltaOf?]
    cases c.deltaIn? op payload <;> simp
  | _ => simp [learn, deltaOf?]

/-- Without snapshots, what is known is what was known with all deltas laid over it. -/
lemma foldl_learn_of_no_snapshot {steps : List StoreStep}
    (h : ∀ s ∈ steps, c.snapshotOf? s = none) (known : Option Document) :
    steps.foldl c.learn known = known.map fun d => d.mergeAll (steps.filterMap c.deltaOf?) := by
  induction steps generalizing known with
  | nil => simp
  | cons s steps ih =>
    have hs : c.snapshotOf? s = none := h s List.mem_cons_self
    have hsteps : ∀ t ∈ steps, c.snapshotOf? t = none :=
      fun t ht => h t (List.mem_cons_of_mem _ ht)
    rw [List.foldl_cons, ih hsteps, learn_of_no_snapshot hs, Option.map_map]
    cases hd : c.deltaOf? s with
    | none =>
      rw [List.filterMap_cons_none hd]
      rfl
    | some delta =>
      rw [List.filterMap_cons_some hd]
      rfl

/-- After a last snapshot, what is known is that snapshot with the later deltas laid over it. -/
lemma replay_of_last_snapshot {before after : List StoreStep} {s : StoreStep} {d : Document}
    (hs : c.snapshotOf? s = some d) (h : ∀ t ∈ after, c.snapshotOf? t = none) :
    c.replay (before ++ s :: after) = some (d.mergeAll (after.filterMap c.deltaOf?)) := by
  rw [replay, List.foldl_append, List.foldl_cons, learn_of_snapshot hs,
    foldl_learn_of_no_snapshot h]
  rfl

/-- Among calls that bring a snapshot there is a last one. -/
lemma exists_last_snapshot {steps : List StoreStep} (h : ∃ s ∈ steps, (c.snapshotOf? s).isSome) :
    ∃ before s after d, steps = before ++ s :: after ∧ c.snapshotOf? s = some d ∧
      ∀ t ∈ after, c.snapshotOf? t = none := by
  induction steps with
  | nil =>
    obtain ⟨s, hs, -⟩ := h
    exact absurd hs List.not_mem_nil
  | cons s steps ih =>
    by_cases hlater : ∃ t ∈ steps, (c.snapshotOf? t).isSome
    · obtain ⟨before, t, after, d, rfl, ht, hafter⟩ := ih hlater
      exact ⟨s :: before, t, after, d, rfl, ht, hafter⟩
    · have hnone : ∀ t ∈ steps, c.snapshotOf? t = none := by
        intro t ht
        by_contra hne
        exact hlater ⟨t, ht, Option.isSome_iff_ne_none.2 hne⟩
      obtain ⟨t, ht, hsome⟩ := h
      rcases List.mem_cons.1 ht with rfl | ht
      · obtain ⟨d, hd⟩ := Option.isSome_iff_exists.1 hsome
        exact ⟨[], t, steps, d, rfl, hd, hnone⟩
      · exact absurd ⟨t, ht, hsome⟩ hlater

/-- The state is known exactly if a snapshot has been seen. -/
lemma isSome_replay_iff {steps : List StoreStep} :
    (c.replay steps).isSome = true ↔ ∃ s ∈ steps, (c.snapshotOf? s).isSome := by
  constructor
  · intro h
    by_contra hno
    have hnone : ∀ s ∈ steps, c.snapshotOf? s = none := by
      intro s hs
      by_contra hne
      exact hno ⟨s, hs, Option.isSome_iff_ne_none.2 hne⟩
    rw [replay, foldl_learn_of_no_snapshot hnone] at h
    contradiction
  · intro h
    obtain ⟨before, s, after, d, rfl, hs, hafter⟩ := exists_last_snapshot h
    rw [replay_of_last_snapshot hs hafter]
    rfl

end StateConfig

namespace StoreState

/-- What a store knows after a call is what the call teaches. -/
lemma loaded?_step (w : StoreState) (s : StoreStep) :
    (w.step s).store.loaded? = w.store.config.learn w.store.loaded? s := by
  cases s with
  | hook path module listener wantPayload =>
    exact w.store.loaded?_hook path module listener wantPayload
  | ingest op payload => exact w.store.loaded?_ingest w.listeners op payload
  | unhook => rfl
  | drain => rfl
  | close => rfl

/-- What a store knows after a run is what the calls teach one after the other. -/
lemma loaded?_run (w : StoreState) (steps : List StoreStep) :
    (w.run steps).store.loaded? = steps.foldl w.store.config.learn w.store.loaded? := by
  induction steps generalizing w with
  | nil => rfl
  | cons s steps ih => rw [run_cons, ih, config_step, loaded?_step, List.foldl_cons]

/-- A fresh store knows what the replay of its calls yields. -/
lemma loaded?_run_ofConfig (c : StateConfig) (ls : Listeners) (steps : List StoreStep) :
    ((ofConfig c ls).run steps).store.loaded? = c.replay steps :=
  loaded?_run (ofConfig c ls) steps

/-- Calls on a fresh store, in any order. The store is loaded once a packet has brought a snapshot,
and stays so. When it is loaded, its state is the last snapshot with the deltas of the later packets
laid over it in their order. Packets that bring no snapshot, and no delta either or come before the
first snapshot, leave store and listeners untouched. Registering and removing hooks changes neither
the state nor whether it is loaded. -/
theorem run_replays_packets (c : StateConfig) (ls : Listeners) (steps : List StoreStep) :
    let w := (ofConfig c ls).run steps
    (w.store.isLoaded = true ↔ ∃ s ∈ steps, (c.snapshotOf? s).isSome) ∧
    (∀ more, w.store.isLoaded = true → (w.run more).store.isLoaded = true) ∧
    (w.store.isLoaded = true → ∃ before s after d,
      steps = before ++ s :: after ∧ c.snapshotOf? s = some d ∧
      (∀ t ∈ after, c.snapshotOf? t = none) ∧
      w.store.state = d.mergeAll (after.filterMap c.deltaOf?)) ∧
    (∀ op payload, c.snapshotIn? op payload = none →
      c.deltaIn? op payload = none ∨ w.store.isLoaded = false →
      (w.step (.ingest op payload)).store = w.store ∧
      (w.step (.ingest op payload)).listeners = w.listeners) ∧
    (∀ path module listener wantPayload,
      (w.step (.hook path module listener wantPayload)).store.state = w.store.state ∧
      (w.step (.hook path module listener wantPayload)).store.isLoaded = w.store.isLoaded) ∧
    (∀ id, (w.step (.unhook id)).store.state = w.store.state ∧
      (w.step (.unhook id)).store.isLoaded = w.store.isLoaded) := by
  intro w
  have hconfig : w.store.config = c := config_run (ofConfig c ls) steps
  have hloaded (steps : List StoreStep) :
      ((ofConfig c ls).run steps).store.isLoaded = true ↔
        ∃ s ∈ steps, (c.snapshotOf? s).isSome := by
    rw [Store.isLoaded_eq_isSome, loaded?_run_ofConfig, StateConfig.isSome_replay_iff]
  refine ⟨hloaded steps, ?_, ?_, ?_, ?_, ?_⟩
  · intro more h
    obtain ⟨s, hs, hsome⟩ := (hloaded steps).1 h
    rw [← run_append]
    exact (hloaded (steps ++ more)).2 ⟨s, List.mem_append_left more hs, hsome⟩
  · intro h
    obtain ⟨before, s, after, d, hsteps, hs, hafter⟩ :=
      StateConfig.exists_last_snapshot ((hloaded steps).1 h)
    have hknown : w.store.loaded? = some (d.mergeAll (after.filterMap c.deltaOf?)) := by
      rw [loaded?_run_ofConfig, hsteps, StateConfig.replay_of_last_snapshot hs hafter]
    exact ⟨before, s, after, d, hsteps, hs, hafter, Store.state_of_loaded? hknown⟩
  · intro op payload hs hd
    rw [← hconfig] at hs hd
    exact Store.ingest_of_none w.listeners hs hd
  · intro path module listener wantPayload
    obtain ⟨hstate, hflag, -⟩ := w.store.hook_frame path module listener wantPayload
    exact ⟨hstate, hflag⟩
  · intro id
    exact ⟨rfl, rfl⟩

/-- A delta that comes too early, a snapshot, a delta and a packet without a body: the store is
loaded and stays so, its state is the snapshot with the second delta, and the last packet leaves it
as it is. -/
theorem run_replays_snapshot_and_delta :
    let c : StateConfig := { snapshotOp := "S", snapshotKey := "u", deltaKey := "d" }
    let early : StoreStep := .ingest "a" "\x7b\"d\":9\x7d".toUTF8
    let snapshot : StoreStep := .ingest "S" "\x7b\"u\":1\x7d".toUTF8
    let delta : StoreStep := .ingest "a" "\x7b\"d\":2\x7d".toUTF8
    let w := (ofConfig c []).run [early, .hook "p" "m" "l" true, snapshot, delta]
    w.store.isLoaded = true ∧ (w.run [.unhook 0]).store.isLoaded = true ∧
      (∃ before s after d, [early, .hook "p" "m" "l" true, snapshot, delta] = before ++ s :: after ∧
        c.snapshotOf? s = some d ∧ (∀ t ∈ after, c.snapshotOf? t = none) ∧
        w.store.state = d.mergeAll (after.filterMap c.deltaOf?)) ∧
      (w.step (.ingest "a" " ".toUTF8)).store = w.store := by
  intro c early snapshot delta w
  obtain ⟨hloaded, hstays, hstate, hother, -⟩ :=
    run_replays_packets c [] [early, .hook "p" "m" "l" true, snapshot, delta]
  have hsome : (c.snapshotOf? snapshot).isSome := by cbv
  have h : w.store.isLoaded = true := hloaded.2 ⟨snapshot, by simp, hsome⟩
  have hblank : c.deltaIn? "a" " ".toUTF8 = none := by cbv
  exact ⟨h, hstays [.unhook 0] h, hstate h, (hother "a" " ".toUTF8 rfl (Or.inl hblank)).1⟩

end StoreState

end Intercept
