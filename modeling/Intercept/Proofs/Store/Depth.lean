import Intercept.Proofs.Document.Recursion
import Intercept.Proofs.Store.Replay

/-!
# How deep a state gets

Deltas bring their values to any place of the state, and a store takes in deltas without end. Still
the state is never nested deeper than the deepest document that the store has taken in, and each of
these is less deep than the text that it came in, of which readers bound the depth. Main statement:
`run_bounds_depth`.

A step does not deepen the state beyond what it takes in (`depth_state_step_le`), and hence no run
does (`depth_state_run_le`).
-/

namespace Intercept

open Document

/-! ### Packets -/

namespace StateConfig

variable {c : StateConfig}

/-- What a payload holds at a key is less deep than readers go. -/
lemma depth_lt_of_parseBytes?_atKey? {payload : ByteArray} {key : String} {d : Document}
    (h : (parseBytes? payload).bind (·.atKey? key) = some d) : d.depth < maxDepth := by
  obtain ⟨root, hroot, hd⟩ := Option.bind_eq_some_iff.1 h
  exact (depth_lt_of_atKey? hd).trans_le (depth_le_of_parseBytes? hroot)

/-- A snapshot is less deep than readers go. -/
lemma depth_lt_of_snapshotIn? {op : String} {payload : ByteArray} {d : Document}
    (h : c.snapshotIn? op payload = some d) : d.depth < maxDepth := by
  unfold snapshotIn? at h
  split at h
  · exact depth_lt_of_parseBytes?_atKey? h
  · contradiction

/-- A delta is less deep than readers go. -/
lemma depth_lt_of_deltaIn? {op : String} {payload : ByteArray} {d : Document}
    (h : c.deltaIn? op payload = some d) : d.depth < maxDepth := by
  unfold deltaIn? at h
  split at h
  · contradiction
  · exact depth_lt_of_parseBytes?_atKey? h

end StateConfig

/-! ### Runs -/

/-- The depth of the deepest of some documents. -/
def greatestDepth (ds : List Document) : Nat := (ds.map depth).foldr max 0

lemma greatestDepth_le_iff {ds : List Document} {n : Nat} :
    greatestDepth ds ≤ n ↔ ∀ d ∈ ds, d.depth ≤ n := by
  rw [greatestDepth, foldr_max_le_iff, List.forall_mem_map]

/-- The deepest document of two lists is the deeper one of the deepest of each. -/
lemma greatestDepth_append (ds es : List Document) :
    greatestDepth (ds ++ es) = max (greatestDepth ds) (greatestDepth es) := by
  have hcons (d : Document) (fs : List Document) :
      greatestDepth (d :: fs) = max d.depth (greatestDepth fs) := rfl
  induction ds with
  | nil => exact (Nat.zero_max _).symm
  | cons d ds ih => rw [List.cons_append, hcons, hcons, ih, max_assoc]

namespace StoreState

variable {w : StoreState} {s : StoreStep}

/-- The document that a store takes in when it is called, if it does: a snapshot, or a delta for a
loaded state. -/
def taken? (w : StoreState) : StoreStep → Option Document
  | .ingest op payload =>
    (w.store.config.snapshotIn? op payload).or
      (if w.store.isLoaded then w.store.config.deltaIn? op payload else none)
  | _ => none

/-- The documents that a store takes in during some calls. -/
def taken (w : StoreState) : List StoreStep → List Document
  | [] => []
  | s :: steps => (w.taken? s).toList ++ (w.step s).taken steps

/-- What is taken in is less deep than readers go. -/
lemma depth_lt_of_taken? {d : Document} (h : w.taken? s = some d) : d.depth < maxDepth := by
  cases s with
  | ingest op payload =>
    rcases Option.or_eq_some_iff.1 h with hsnapshot | ⟨-, hdelta⟩
    · exact StateConfig.depth_lt_of_snapshotIn? hsnapshot
    · split at hdelta
      · exact StateConfig.depth_lt_of_deltaIn? hdelta
      · contradiction
  | _ => contradiction

/-- What is taken in during a run is less deep than readers go. -/
lemma depth_lt_of_mem_taken {steps : List StoreStep} {d : Document} (h : d ∈ w.taken steps) :
    d.depth < maxDepth := by
  induction steps generalizing w with
  | nil => contradiction
  | cons s steps ih =>
    rcases List.mem_append.1 h with hfirst | hlater
    · exact depth_lt_of_taken? (Option.mem_toList.1 hfirst)
    · exact ih hlater

/-- A document that is taken in replaces the state or is laid over it; no call does anything else to
the state. -/
lemma state_step_cases (w : StoreState) (s : StoreStep) :
    (w.taken? s = none ∧ (w.step s).store.state = w.store.state) ∨
      ∃ d, w.taken? s = some d ∧ ((w.step s).store.state = d ∨
        (w.step s).store.state = w.store.state.merge d) := by
  cases s with
  | hook path module listener wantPayload =>
    exact Or.inl ⟨rfl, (w.store.hook_frame path module listener wantPayload).1⟩
  | ingest op payload =>
    have hstate : (w.step (.ingest op payload)).store.state =
        (w.store.ingest w.listeners op payload).1.state := rfl
    rw [hstate, taken?]
    rcases w.store.ingest_cases op payload with ⟨d, h⟩ | ⟨delta, h, hl⟩ | ⟨hs, hd⟩
    · rw [Store.ingest_of_snapshotIn? w.listeners h, h]
      exact Or.inr ⟨d, rfl, Or.inl rfl⟩
    · rw [Store.ingest_of_deltaIn? w.listeners h hl, StateConfig.snapshotIn?_eq_none_of_deltaIn? h,
        h, hl]
      exact Or.inr ⟨delta, rfl, Or.inr rfl⟩
    · rw [(Store.ingest_of_none w.listeners hs hd).1, hs]
      refine Or.inl ⟨?_, rfl⟩
      rcases hd with hd | hl
      · simp [hd]
      · simp [hl]
  | unhook id => exact Or.inl ⟨rfl, rfl⟩
  | drain listener max => exact Or.inl ⟨rfl, rfl⟩
  | close listener => exact Or.inl ⟨rfl, rfl⟩

/-- A call makes the state no deeper than it is and than what is taken in. -/
lemma depth_state_step_le (w : StoreState) (s : StoreStep) :
    (w.step s).store.state.depth ≤ max w.store.state.depth (greatestDepth (w.taken? s).toList) := by
  rcases w.state_step_cases s with ⟨-, hstate⟩ | ⟨d, htaken, hstate⟩
  · rw [hstate]
    exact le_max_left _ _
  · have hdepth : greatestDepth (w.taken? s).toList = d.depth := by
      rw [htaken]
      exact Nat.max_zero d.depth
    rw [hdepth]
    rcases hstate with hstate | hstate
    · rw [hstate]
      exact le_max_right _ _
    · rw [hstate]
      exact depth_merge_le _ _

/-- A run makes the state no deeper than it is and than what is taken in. -/
theorem depth_state_run_le (w : StoreState) (steps : List StoreStep) :
    (w.run steps).store.state.depth ≤ max w.store.state.depth (greatestDepth (w.taken steps)) := by
  induction steps generalizing w with
  | nil => exact le_max_left _ _
  | cons s steps ih =>
    have hstep := w.depth_state_step_le s
    rw [run_cons, taken, greatestDepth_append, ← max_assoc]
    exact (ih (w.step s)).trans (max_le_max_right _ hstep)

/-- Runs of a store. The depth of a document counts its levels of containers, of which readers admit
127.

* A document with a delta laid over it is no deeper than the deeper one of the two.
* Hence the state is no deeper than the deepest document that has been taken in, which is a snapshot
  or a delta, and stays below the limit of readers.
* So no merge of a packet's delta into the state nests as many calls as there may be levels in a
  text, however many deltas have come before, and neither does the walk of the delta. Nor does a copy
  of what a path finds in the state, as readers and listeners get it, or of a part of the delta, as
  the state gets it. -/
theorem run_bounds_depth (c : StateConfig) (ls : Listeners) (steps : List StoreStep) :
    let w := (ofConfig c ls).run steps
    (∀ t d : Document, (t.merge d).depth ≤ max t.depth d.depth) ∧
    w.store.state.depth ≤ greatestDepth ((ofConfig c ls).taken steps) ∧
    (∀ d ∈ (ofConfig c ls).taken steps, d.depth < maxDepth) ∧
    w.store.state.depth < maxDepth ∧
    (∀ path v, w.store.state.resolve? path = some v →
      ∀ overflow, copyWithin overflow maxDepth v = v) ∧
    ∀ s delta, c.deltaOf? s = some delta →
      (∀ overflow, mergeWithin overflow maxDepth w.store.state delta =
        w.store.state.merge delta) ∧
      (∀ overflow, walkWithin overflow maxDepth "" delta = delta.walk) ∧
      ∀ ks v, delta.fieldAt? ks = some v → ∀ overflow, copyWithin overflow maxDepth v = v := by
  intro w
  have htaken : ∀ d ∈ (ofConfig c ls).taken steps, d.depth < maxDepth :=
    fun d hd => depth_lt_of_mem_taken hd
  have hstate : w.store.state.depth ≤ greatestDepth ((ofConfig c ls).taken steps) :=
    (depth_state_run_le _ steps).trans_eq (Nat.zero_max _)
  have hdeepest : greatestDepth ((ofConfig c ls).taken steps) ≤ maxDepth - 1 :=
    greatestDepth_le_iff.2 fun d hd => Nat.le_of_lt_succ (htaken d hd)
  have hbound : w.store.state.depth < maxDepth :=
    (hstate.trans hdeepest).trans_lt (by decide)
  refine ⟨depth_merge_le, hstate, htaken, hbound, fun path v hv overflow => ?_, ?_⟩
  · exact copyWithin_eq overflow ((depth_le_of_resolve? hv).trans_lt hbound)
  · intro s delta hs
    have hdelta : delta.depth < maxDepth := by
      cases s with
      | ingest op payload => exact StateConfig.depth_lt_of_deltaIn? hs
      | _ => contradiction
    refine ⟨fun overflow => mergeWithin_eq_merge overflow hdelta,
      fun overflow => walkWithin_eq_walkFrom overflow hdelta "", fun ks v hv overflow => ?_⟩
    have hless : v.depth ≤ delta.depth := depth_le_of_follow? (follow?_of_fieldAt? hv)
    exact copyWithin_eq overflow (hless.trans_lt hdelta)

/-- A delta has brought an array two levels below the top, and the next one replaces it by an object. -/
theorem run_bounds_depth_of_replaced_array :
    let c : StateConfig := { snapshotOp := "S", snapshotKey := "u", deltaKey := "d" }
    let steps : List StoreStep :=
      [.ingest "S" "\x7b\"u\":\x7b\"a\":1\x7d\x7d".toUTF8,
        .ingest "q" "\x7b\"d\":\x7b\"a\":\x7b\"b\":[1]\x7d\x7d\x7d".toUTF8]
    let next : StoreStep := .ingest "q" "\x7b\"d\":\x7b\"a\":\x7b\"b\":\x7b\x7d\x7d\x7d\x7d".toUTF8
    let delta : Document := .ofFields [("a", .ofFields [("b", .ofFields [])])]
    let w := (ofConfig c []).run steps
    w.store.state.depth = 3 ∧ 3 ≤ greatestDepth ((ofConfig c []).taken steps) ∧
      c.deltaOf? next = some delta ∧
      ∀ overflow, mergeWithin overflow maxDepth w.store.state delta =
        w.store.state.merge delta := by
  intro c steps next delta w
  have hdepth : w.store.state.depth = 3 := by
    simp only [w, c, steps]
    cbv
  have hdelta : c.deltaOf? next = some delta := by
    simp only [c, next, delta]
    cbv
  obtain ⟨-, hstate, -, -, -, hnext⟩ := run_bounds_depth c [] steps
  obtain ⟨hmerge, -, -⟩ := hnext next delta hdelta
  exact ⟨hdepth, hdepth ▸ hstate, hdelta, hmerge⟩

end StoreState

end Intercept
