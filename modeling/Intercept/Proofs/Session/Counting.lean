import Intercept.Proofs.Session.Roster
import Intercept.Proofs.Store.Delivery

/-!
# Counting

Each counter counts one kind of occurrence, in one place of the engine. Module code counts nothing
(`counted_run`), and a store that takes in a packet counts nothing but lost events
(`counted_ingest`). So what a counter shows is what its own place has added to it.
-/

namespace Intercept

variable {σ : Type}

namespace Signal

/-- What several signals add to a counter. -/
lemma total_append (c : Counter) (signals more : List Signal) :
    total c (signals ++ more) = total c signals + total c more := by
  induction signals with
  | nil => simp [total]
  | cons s signals ih =>
    simp only [total, List.cons_append, List.foldr_cons] at ih ⊢
    omega

/-- Notices add nothing to a counter. -/
lemma total_map_notice {α : Type} (c : Counter) (f : α → Notice) (xs : List α) :
    total c (xs.map fun x => notice (f x)) = 0 := by
  induction xs with
  | nil => rfl
  | cons x xs ih =>
    simp only [total, List.map_cons, List.foldr_cons, amount] at ih ⊢
    omega

/-- Signals add nothing to a counter if none of them counts for it. -/
lemma total_eq_zero {c : Counter} {signals : List Signal} (h : ∀ k, .count c k ∉ signals) :
    total c signals = 0 := by
  induction signals with
  | nil => rfl
  | cons s signals ih =>
    have hrest : total c signals = 0 := ih fun k hk => h k (List.mem_cons_of_mem s hk)
    have hfirst : s.amount c = 0 := by
      cases s with
      | notice n => rfl
      | count d k =>
        refine if_neg ?_
        rintro rfl
        exact h k List.mem_cons_self
    change s.amount c + total c signals = 0
    omega

end Signal

/-- A store that takes in a packet counts nothing but lost events. -/
lemma Store.total_ingest {c : Counter} (hc : c ≠ .eventsDropped) (s : Store) (ls : Listeners)
    (op : String) (payload : ByteArray) : Signal.total c (s.ingest ls op payload).2.2 = 0 := by
  have hdelta (delta : Document) : Signal.total c (s.applyDelta ls op delta).2.2 = 0 := by
    unfold applyDelta notify
    simp only [foldl_send, List.nil_append, Signal.total_append, Signal.total_map_notice]
    split
    · rfl
    · simp [Signal.total, Signal.amount, hc.symm]
  have hsnapshot : Signal.total c (s.ingestSnapshot op payload).2 = 0 := by
    unfold ingestSnapshot
    cases extract payload s.config.snapshotKey <;> rfl
  unfold ingest
  split
  · exact hsnapshot
  · split
    · unfold ingestDelta
      split
      · rfl
      · cases extract payload s.config.deltaKey with
        | malformed => rfl
        | absent => rfl
        | found delta => exact hdelta delta
    · rfl

namespace Engine

/-- What a counter shows. -/
def counted (c : Counter) (e : Engine σ) : Nat := Signal.total c e.signals

/-- Signals add to a counter what they amount to. -/
lemma counted_emit (c : Counter) (e : Engine σ) (signals : List Signal) :
    (e.emit signals).counted c = e.counted c + Signal.total c signals :=
  Signal.total_append c e.signals signals

/-- Signals that count nothing for a counter leave it as it is. -/
lemma counted_emit_self {c : Counter} {signals : List Signal} (h : ∀ k, .count c k ∉ signals)
    (e : Engine σ) : (e.emit signals).counted c = e.counted c := by
  rw [counted_emit, Signal.total_eq_zero h, Nat.add_zero]

/-- A notice counts nothing. -/
@[simp] lemma counted_note (c : Counter) (e : Engine σ) (n : Notice) :
    (e.note n).counted c = e.counted c := counted_emit c e [.notice n]

/-- Changing a session counts nothing. -/
@[simp] lemma counted_updateSession (c : Counter) (e : Engine σ) (n : Nat)
    (f : Session σ → Session σ) : (e.updateSession n f).counted c = e.counted c := rfl

/-- Registering a hook counts nothing. -/
@[simp] lemma counted_hook (c : Counter) (e : Engine σ) (ctx : ContextId) (target : String)
    (priority : Int32) (handler : Packet → Program σ) :
    (e.hook ctx target priority handler).1.counted c = e.counted c := by
  unfold hook
  cases e.context? ctx with
  | none => rfl
  | some sc =>
    simp only
    split_ifs
    · exact counted_note c e _
    · exact counted_note c e _
    · rfl

/-- Removing a hook counts nothing. -/
@[simp] lemma counted_unhook (c : Counter) (e : Engine σ) (h : HookHandle) :
    (e.unhook h).counted c = e.counted c := by
  unfold unhook
  cases e.session? h.session with
  | none => rfl
  | some s =>
    simp only
    split_ifs
    · rfl
    · rfl
    · exact counted_note c e _

/-- Registering a path hook counts nothing. -/
@[simp] lemma counted_pathHook (c : Counter) (e : Engine σ) (ctx : ContextId)
    (path listener : String) (wantPayload : Bool) :
    (e.pathHook ctx path listener wantPayload).1.counted c = e.counted c := by
  unfold pathHook
  cases e.context? ctx with
  | none => rfl
  | some sc =>
    obtain ⟨s, context⟩ := sc
    rcases s.store.hook_cases path context.module listener wantPayload with ⟨-, h⟩ | ⟨-, h⟩
    · simp [h, counted_emit, Signal.total]
    · simp [h, counted_emit, Signal.total, Signal.amount]

/-- Setting a shutdown callback counts nothing. -/
@[simp] lemma counted_onShutdown (c : Counter) (e : Engine σ) (ctx : ContextId)
    (callback : Bool → Program σ) : (e.onShutdown ctx callback).counted c = e.counted c := by
  unfold onShutdown
  cases e.context? ctx with
  | none => rfl
  | some sc =>
    simp only
    split_ifs
    · exact counted_note c _ _
    · rfl

/-- No step of module code counts anything. -/
lemma untouched_counted (c : Counter) : Untouched (counted c : Engine σ → Nat) where
  remember _ _ := rfl
  hook := counted_hook c
  unhook := counted_unhook c
  pathHook := counted_pathHook c
  unhookPath _ _ := rfl
  onShutdown := counted_onShutdown c

/-- Module code counts nothing. -/
lemma counted_run (c : Counter) (e : Engine σ) (p : Program σ) :
    (e.run p).1.counted c = e.counted c := (untouched_counted c).run e p

/-- Taking in a packet counts nothing but lost events. -/
lemma counted_ingest {c : Counter} (hc : c ≠ .eventsDropped) (e : Engine σ) (n : Nat) (op : String)
    (payload : ByteArray) : (e.ingest n op payload).counted c = e.counted c := by
  unfold ingest
  cases e.session? n with
  | none => rfl
  | some s =>
    have hnone : Signal.total c (s.store.ingest e.listeners op payload).2.2 = 0 :=
      s.store.total_ingest hc e.listeners op payload
    exact (counted_emit c _ _).trans (congrArg (e.counted c + ·) hnone)

end Engine

end Intercept
