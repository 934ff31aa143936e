import Intercept.Proofs.Session.Counting

/-!
# The roll of sessions

The roll says of every session that was ever started whose it is and whether it is alive. Sessions
are never taken off the roll and never change their key, and no module code, packet or shutdown ends
the life of one (`enduring_roll`): what changes the roll is the start of a session, which adds a live
one at the end (`roll_startSession`), and whoever decides that nothing refers to a session any more.
-/

namespace Intercept

variable {σ : Type}

namespace Engine

/-- Of every session that was ever started, its key and whether it is alive. -/
def roll (e : Engine σ) : List (SessionKey × Bool) := e.sessions.map fun s => (s.key, s.isAlive)

/-- There are as many sessions as the roll says. -/
@[simp] lemma length_roll (e : Engine σ) : e.roll.length = e.sessions.length := List.length_map _

/-- What the roll says of a session. -/
lemma getElem?_roll (e : Engine σ) (n : Nat) :
    e.roll[n]? = (e.session? n).map fun s => (s.key, s.isAlive) := List.getElem?_map

/-- A session that is alive according to the roll. -/
lemma session_of_roll {e : Engine σ} {n : Nat} {key : SessionKey}
    (hroll : e.roll[n]? = some (key, true)) :
    ∃ s, e.session? n = some s ∧ s.key = key ∧ s.isAlive = true := by
  rw [getElem?_roll] at hroll
  obtain ⟨s, hs, heq⟩ := Option.map_eq_some_iff.1 hroll
  obtain ⟨hkey, hlive⟩ := Prod.mk.inj heq
  exact ⟨s, hs, hkey, hlive⟩

/-! ### What module code does not change of a session -/

/-- What is seen of sessions is the same when one of them was changed in a way that is not seen. -/
lemma map_updateSession {β : Type} {g : Session σ → β} {f : Session σ → Session σ}
    (h : ∀ s, g (f s) = g s) (e : Engine σ) (n : Nat) :
    (e.updateSession n f).sessions.map g = e.sessions.map g := by
  rw [updateSession, map_modify (k := id) h, List.modify_id]

/-- Module code changes stores and tables, and of contexts all but the module. Whatever else there
is of sessions it leaves alone. -/
theorem untouched_sessions {β : Type} {g : Session σ → β}
    (h : ∀ s store table nextHook i (f : Context σ → Context σ), (∀ c, (f c).module = c.module) →
      g { s with store, table, contexts := s.contexts.modify i f, nextHook } = g s) :
    Untouched fun e : Engine σ => e.sessions.map g := by
  have hcontexts : ∀ s store table nextHook, g { s with store, table, nextHook } = g s := by
    intro s store table nextHook
    have hsame := h s store table nextHook 0 id fun _ => rfl
    rwa [List.modify_id] at hsame
  refine ⟨fun _ _ => rfl, ?_, ?_, ?_, ?_, ?_⟩
  · intro e ctx target priority handler
    rcases e.hook_cases ctx target priority handler with ⟨s, c, -, -, -, heq⟩ | ⟨-, signals, heq⟩
    · rw [heq]
      refine map_updateSession ?_ e ctx.session
      exact fun s' => h s' s'.store _ _ _ _ fun _ => rfl
    · rw [heq]
      rfl
  · intro e handle
    rcases e.unhook_cases handle with ⟨s, -, -, heq⟩ | ⟨-, signals, heq⟩
    · rw [heq]
      exact map_updateSession (fun s => hcontexts s s.store _ s.nextHook) e _
    · rw [heq]
      rfl
  · intro e ctx path listener wantPayload
    unfold pathHook
    cases e.context? ctx with
    | none => rfl
    | some sc =>
      have hstore (store : Store) :
          (e.updateSession ctx.session fun s => { s with store }).sessions.map g =
            e.sessions.map g :=
        map_updateSession (fun s => hcontexts s store s.table s.nextHook) e _
      simp only
      split
      · exact hstore _
      · refine (map_updateSession ?_ _ _).trans (hstore _)
        exact fun s => h s s.store s.table s.nextHook _ _ fun _ => rfl
  · intro e handle
    exact map_updateSession (fun s => hcontexts s _ s.table s.nextHook) e handle.session
  · intro e ctx callback
    unfold onShutdown
    cases e.context? ctx with
    | none => rfl
    | some sc =>
      have hset : (e.updateSession ctx.session fun s => s.updateContext ctx.index fun c =>
          { c with shutdown := some callback }).sessions.map g = e.sessions.map g := by
        refine map_updateSession ?_ e ctx.session
        exact fun s => h s s.store s.table s.nextHook _ _ fun _ => rfl
      simp only
      split
      · exact hset
      · exact hset

/-- A change of a session that touches neither its key nor its life is not seen on the roll. -/
lemma roll_updateSession (e : Engine σ) (n : Nat) {f : Session σ → Session σ}
    (h : ∀ s, ((f s).key, (f s).isAlive) = (s.key, s.isAlive)) :
    (e.updateSession n f).roll = e.roll := map_updateSession h e n

/-- The roll endures. -/
lemma enduring_roll : Enduring (roll : Engine σ → List (SessionKey × Bool)) where
  toUntouched := untouched_sessions fun _ _ _ _ _ _ _ => rfl
  emit _ _ _ := rfl
  addContext e n _ := roll_updateSession e n fun _ => rfl
  closeContext e ctx := roll_updateSession e ctx.session fun _ => rfl
  rollBack e ctx := by
    unfold rollBack
    cases e.context? ctx with
    | none => rfl
    | some sc => exact roll_updateSession e ctx.session fun _ => rfl
  enlist e n _ := roll_updateSession e n fun _ => rfl
  completeSession e n := roll_updateSession e n fun _ => rfl
  takeShutdown e n _ := roll_updateSession e n fun _ => rfl

/-- A session that is started comes last on the roll. -/
theorem roll_startSession (e : Engine σ) (key : SessionKey) (config : StateConfig)
    (registry : ModuleRegistry σ) :
    (e.startSession key config registry).1.roll = e.roll ++ [(key, true)] :=
  (enduring_roll.startSession e key config registry).trans List.map_append

/-- Taking in a packet is not seen on the roll. -/
lemma roll_ingest (e : Engine σ) (n : Nat) (op : String) (payload : ByteArray) :
    (e.ingest n op payload).roll = e.roll := by
  unfold ingest
  cases e.session? n with
  | none => rfl
  | some s => exact roll_updateSession _ n fun _ => rfl

/-- Dispatching a packet is not seen on the roll. -/
lemma roll_dispatch (e : Engine σ) (n : Nat) (op : String) (payload : ByteArray)
    (exchange : PacketMeta) : (e.dispatch n op payload exchange).1.roll = e.roll :=
  (enduring_roll.dispatch e n op payload exchange).trans (e.roll_ingest n op payload)

/-! ### The counter of sessions -/

/-- The counter of sessions endures. -/
lemma enduring_counted : Enduring (counted .sessionsCreated : Engine σ → Nat) where
  toUntouched := untouched_counted .sessionsCreated
  emit e _ h := counted_emit_self h e
  addContext _ _ _ := rfl
  closeContext _ _ := rfl
  rollBack e ctx := by
    unfold rollBack
    cases e.context? ctx <;> rfl
  enlist _ _ _ := rfl
  completeSession _ _ := rfl
  takeShutdown _ _ _ := rfl

end Engine

end Intercept
