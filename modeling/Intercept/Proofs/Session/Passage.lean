import Intercept.Proofs.Session.Counting
import Intercept.Proofs.Session.Live

/-!
# The passage of a packet

What becomes of a packet in its hooks is told by two rules. A hook that finishes passes its output
on. A hook that fails passes on what it received, is noted, and counts as one fault (`Passage`).
`dispatch_passes_live_hooks` puts everything together: a packet that is dispatched passes the live
hooks on every operation and then those on its own, each group in the order of priorities and each
hook once, and as many faults are counted as hooks have failed.

That the counter shows just these faults needs that nothing else counts there
(`Proofs.Session.Counting`).
-/

namespace Intercept

variable {σ : Type}

/-- A packet passes some hooks and `k` of them fail. What passes is the payload, and with it the
engine. -/
inductive Passage (key : SessionKey) (op : String) (exchange : PacketMeta) :
    List (Hook (Packet → Program σ)) → Engine σ × ByteArray → Engine σ × ByteArray → Nat →
      Prop where
  | done (w : Engine σ × ByteArray) : Passage key op exchange [] w w 0
  /-- The next hook receives what this one has returned, be it empty. -/
  | finished {h : Hook (Packet → Program σ)} {hooks : List (Hook (Packet → Program σ))}
      {e e' : Engine σ} {payload output : ByteArray} {w : Engine σ × ByteArray} {k : Nat} :
      e.run (h.handler { op, payload, exchange }) = (e', .finished output) →
      Passage key op exchange hooks (e', output) w k →
      Passage key op exchange (h :: hooks) (e, payload) w k
  /-- The next hook receives what this one has received. -/
  | failed {h : Hook (Packet → Program σ)} {hooks : List (Hook (Packet → Program σ))}
      {e e' : Engine σ} {payload : ByteArray} {fault : Fault} {w : Engine σ × ByteArray} {k : Nat} :
      e.run (h.handler { op, payload, exchange }) = (e', .failed fault) →
      Passage key op exchange hooks
        (e'.emit [.notice (.hookFault h.module op key.display fault.message), .count .hookFaults 1],
          payload) w k →
      Passage key op exchange (h :: hooks) (e, payload) w (k + 1)

namespace Engine

/-- How many hook faults have been counted. -/
def faults (e : Engine σ) : Nat := Signal.total .hookFaults e.signals

/-! ### Dispatching -/

/-- Running hooks one after the other is the passage of a packet, and counts those that fail. -/
lemma passage_foldl (key : SessionKey) (op : String) (exchange : PacketMeta)
    (hooks : List (Hook (Packet → Program σ))) (w : Engine σ × ByteArray) :
    ∃ k, Passage key op exchange hooks w (hooks.foldl (runHook key op exchange) w) k ∧
      (hooks.foldl (runHook key op exchange) w).1.faults = w.1.faults + k := by
  induction hooks generalizing w with
  | nil => exact ⟨0, .done w, rfl⟩
  | cons h hooks ih =>
    obtain ⟨e, payload⟩ := w
    rw [List.foldl_cons]
    have hfaults : (e.run (h.handler { op, payload, exchange })).1.faults = e.faults :=
      e.counted_run .hookFaults _
    cases hrun : e.run (h.handler { op, payload, exchange }) with
    | mk e' outcome =>
      rw [hrun] at hfaults
      cases outcome with
      | finished output =>
        have hstep : runHook key op exchange (e, payload) h = (e', output) := by
          rw [runHook, hrun]
        obtain ⟨k, hpassage, hcount⟩ := ih (e', output)
        rw [hstep]
        exact ⟨k, .finished hrun hpassage, hcount.trans (congrArg (· + k) hfaults)⟩
      | failed fault =>
        have hstep : runHook key op exchange (e, payload) h =
            (e'.emit [.notice (.hookFault h.module op key.display fault.message),
              .count .hookFaults 1], payload) := by
          rw [runHook, hrun]
        obtain ⟨k, hpassage, hcount⟩ := ih (runHook key op exchange (e, payload) h)
        rw [hstep] at hpassage hcount ⊢
        refine ⟨k + 1, .failed hrun hpassage, hcount.trans ?_⟩
        have hcounted := counted_emit .hookFaults e'
          [.notice (.hookFault h.module op key.display fault.message), .count .hookFaults 1]
        change (e'.emit _).faults = e'.faults + 1 at hcounted
        change (e'.emit _).faults + k = e.faults + (k + 1)
        rw [hcounted, hfaults]
        omega

/-- Whatever has happened since a session was started, its packets pass its live hooks. A hook is
live if it stands in the ledger of the session: if it was registered while its module was
initialised, the init function did not fail, and it has not been unhooked since.

* No two live hooks have one number.
* No more hooks are registered, and an attempt to do so changes no hook of the session.
* A packet passes the live hooks on every operation and then those on its own, both by descending
  priority and hooks of equal priority in the order of their registration, each of them once.
  Its passage begins when the store has taken it in. As many faults are counted as hooks fail. -/
theorem dispatch_passes_live_hooks (e : Engine σ) (key : SessionKey) (config : StateConfig)
    (registry : ModuleRegistry σ) (later : List (EngineStep σ)) :
    let n := (e.startSession key config registry).2
    let e₁ := (e.startSession key config registry).1
    let e₂ := e₁.runSteps later
    let live := Register.standing Hook.id
      (e.startLedger n key config registry ++ e₁.stepsLedger n later)
    (live.map Hook.id).Nodup ∧
    (∀ index target priority handler,
      (e₂.hook ⟨n, index⟩ target priority handler).2 = none ∧
        (e₂.hook ⟨n, index⟩ target priority handler).1.roster? n = e₂.roster? n) ∧
    ∀ op payload exchange, ∃ onEvery onOwn k,
      InPriorityOrder (live.filter fun h => h.target = wildcard) onEvery ∧
      InPriorityOrder (live.filter fun h => h.target = op) onOwn ∧
      let chain := onEvery ++ if op = wildcard then [] else onOwn
      (chain.map Hook.id).Nodup ∧
      Passage key op exchange chain (e₂.ingest n op payload, payload)
        (e₂.dispatch n op payload exchange) k ∧
      (e₂.dispatch n op payload exchange).1.faults = e₂.faults + k := by
  intro n e₁ e₂ live
  obtain ⟨r, hr, hsealed, hkey, horder, hnodup⟩ : ∃ r, e₂.roster? n = some r ∧ r.Sealed ∧
      r.key = key ∧ InPriorityOrder live r.table.hooks ∧ (live.map Hook.id).Nodup :=
    table_inPriorityOrder e key config registry later
  refine ⟨hnodup, ?_, ?_⟩
  · intro index target priority handler
    have hseat : r.openSeat? index = none := hsealed.openOnly.seats index
    constructor
    · rw [hook_answer, hr, Option.bind_some, hseat]
      rfl
    · rw [roster?_hook e₂ ⟨n, index⟩ target priority handler hr, if_pos rfl, hseat]
      exact hr.symm
  · intro op payload exchange
    have htaken : (e₂.ingest n op payload).roster? n = some r :=
      (e₂.roster?_ingest n op payload n).trans hr
    obtain ⟨s, hs, rfl⟩ := Option.map_eq_some_iff.1 htaken
    have hdispatch : e₂.dispatch n op payload exchange =
        (s.table.chainFor op).foldl (runHook key op exchange)
          (e₂.ingest n op payload, payload) := by
      rw [dispatch, hs]
      exact congrArg (fun key => (s.table.chainFor op).foldl (runHook key op exchange) _) hkey
    obtain ⟨k, hpassage, hcount⟩ := passage_foldl key op exchange (s.table.chainFor op)
      (e₂.ingest n op payload, payload)
    refine ⟨s.table.chain wildcard, s.table.chain op, k, horder.filter _, horder.filter _,
      ?_, ?_, ?_⟩
    · exact HookTable.nodup_chainFor (horder.nodup_map_id hnodup) op
    · rw [hdispatch]
      exact hpassage
    · rw [hdispatch, hcount]
      exact congrArg (· + k) (counted_ingest (by decide) e₂ n op payload)

end Engine

end Intercept
