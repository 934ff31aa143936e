import Intercept.Proofs.Session.Roster
import Intercept.Proofs.Store.Run

/-!
# Mirrors

The mirror of a session is what its store knows of the session state, with the key of the session
and the configuration that says how packets are read. Module code may look at mirrors but has no way
to change one: whatever it does, fails at or takes back, all mirrors stay as they are
(`mirrors_run`). What changes them is a packet, which its session takes in before the first hook
receives it (`mirrors_dispatch`), and the start of a session, which adds an empty one
(`mirrors_startSession`).

Since mirrors stay as they are while hooks run, every look at a session state that a handler takes
shows the state in which the packet left it (`mem_dispatchReads`). The looks are told by recursions of
their own (`Engine.reads`, `Engine.dispatchReads`); that they are taken in the states of the run is
shown in `Proofs.Session.Course`.
-/

namespace Intercept

variable {σ : Type}

/-- What a session knows of its state, and how it reads packets. -/
structure Mirror where
  key : SessionKey
  config : StateConfig
  isLoaded : Bool := false
  state : Document := .null

namespace Mirror

/-- The mirror of a session that has just been started. -/
def empty (key : SessionKey) (config : StateConfig) : Mirror where
  key := key
  config := config

/-- The state, once it is loaded. -/
def known (m : Mirror) : Option Document := if m.isLoaded then some m.state else none

/-- Take in a packet. -/
def takeIn (m : Mirror) (op : String) (payload : ByteArray) : Mirror :=
  match m.config.takeIn m.known op payload with
  | some d => { m with isLoaded := true, state := d }
  | none => m

/-- Take in packets one after the other. -/
def takeInAll (m : Mirror) (packets : List (String × ByteArray)) : Mirror :=
  packets.foldl (fun m p => m.takeIn p.1 p.2) m

end Mirror

/-- What a store knows of the state. -/
def Store.mirror (s : Store) (key : SessionKey) : Mirror := ⟨key, s.config, s.isLoaded, s.state⟩

/-- The mirror of a session. -/
def Session.mirror (s : Session σ) : Mirror := s.store.mirror s.key

/-- The mirrors of all sessions that were ever started, in the order of their start. -/
def Engine.mirrors (e : Engine σ) : List Mirror := e.sessions.map Session.mirror

namespace Store

/-- What is known of a mirror is what is known of its store. -/
lemma known_mirror (s : Store) (key : SessionKey) : (s.mirror key).known = s.loaded? := rfl

/-- A store takes in a packet as its mirror does. -/
lemma mirror_ingest (s : Store) (key : SessionKey) (ls : Listeners) (op : String)
    (payload : ByteArray) :
    (s.ingest ls op payload).1.mirror key = (s.mirror key).takeIn op payload := by
  have hconfig : (s.mirror key).config = s.config := rfl
  unfold Mirror.takeIn
  rw [known_mirror, hconfig]
  rcases s.ingest_cases op payload with ⟨d, h⟩ | ⟨delta, h, hl⟩ | ⟨hs, hd⟩
  · rw [ingest_of_snapshotIn? ls h, StateConfig.takeIn_of_snapshotIn? h]
    rfl
  · have hknown : s.loaded? = some s.state := if_pos hl
    rw [ingest_of_deltaIn? ls h hl, StateConfig.takeIn,
      StateConfig.snapshotIn?_eq_none_of_deltaIn? h, h, hknown]
    simp only [Option.map_some, mirror, applyDelta, installWaiting, hl]
  · rw [(ingest_of_none ls hs hd).1, StateConfig.takeIn, hs]
    rcases hd with hd | hl
    · rw [hd]
      cases hl : s.isLoaded <;> simp [loaded?, mirror, hl]
    · cases s.config.deltaIn? op payload <;> simp [loaded?, hl]

/-- Registering a path hook does not change the mirror. -/
lemma mirror_hook (s : Store) (key : SessionKey) (path module listener : String)
    (wantPayload : Bool) :
    (s.hook path module listener wantPayload).1.mirror key = s.mirror key := by
  obtain ⟨hstate, hloaded, hconfig⟩ := s.hook_frame path module listener wantPayload
  rw [mirror, mirror, hstate, hloaded, hconfig]

/-- Removing several path hooks does not change the mirror. -/
lemma mirror_foldl_unhook (ids : List Nat) (s : Store) (key : SessionKey) :
    (ids.foldl (fun st id => st.unhook id) s).mirror key = s.mirror key := by
  induction ids generalizing s with
  | nil => rfl
  | cons id ids ih => exact ih (s.unhook id)

end Store

namespace Engine

/-! ### What leaves mirrors alone -/

/-- The mirrors after a session was changed. -/
lemma mirrors_updateSession {e : Engine σ} {n : Nat} {f : Session σ → Session σ}
    {k : Mirror → Mirror} (h : ∀ s, e.session? n = some s → (f s).mirror = k s.mirror) :
    (e.updateSession n f).mirrors = e.mirrors.modify n k := by
  refine List.ext_getElem? fun m => ?_
  rw [mirrors, mirrors, updateSession, List.getElem?_map, List.getElem?_modify,
    List.getElem?_modify, List.getElem?_map]
  by_cases hm : n = m
  · subst hm
    cases hs : e.sessions[n]? with
    | none => rfl
    | some s => simp [h s hs]
  · simp [hm]

/-- The mirrors after a session was changed in a way that its mirror does not show. -/
lemma mirrors_updateSession_self {e : Engine σ} {n : Nat} {f : Session σ → Session σ}
    (h : ∀ s, e.session? n = some s → (f s).mirror = s.mirror) :
    (e.updateSession n f).mirrors = e.mirrors := by
  rw [mirrors_updateSession (k := id) h, List.modify_id]

/-- Registering a hook changes no mirror. -/
lemma mirrors_hook (e : Engine σ) (ctx : ContextId) (target : String) (priority : Int32)
    (handler : Packet → Program σ) :
    (e.hook ctx target priority handler).1.mirrors = e.mirrors := by
  rcases e.hook_cases ctx target priority handler with ⟨s, c, -, -, -, h⟩ | ⟨-, signals, h⟩
  · rw [h]
    exact mirrors_updateSession_self fun _ _ => rfl
  · rw [h]
    rfl

/-- Removing a hook changes no mirror. -/
lemma mirrors_unhook (e : Engine σ) (h : HookHandle) : (e.unhook h).mirrors = e.mirrors := by
  rcases e.unhook_cases h with ⟨s, -, -, h⟩ | ⟨-, signals, h⟩
  · rw [h]
    exact mirrors_updateSession_self fun _ _ => rfl
  · rw [h]
    rfl

/-- Registering a path hook changes no mirror. -/
lemma mirrors_pathHook (e : Engine σ) (ctx : ContextId) (path listener : String)
    (wantPayload : Bool) : (e.pathHook ctx path listener wantPayload).1.mirrors = e.mirrors := by
  unfold pathHook
  cases hctx : e.context? ctx with
  | none => rfl
  | some sc =>
    obtain ⟨s, c⟩ := sc
    have hs : e.session? ctx.session = some s := (context?_eq_some.1 hctx).1
    have hstore : (e.updateSession ctx.session fun s' =>
        { s' with store := (s.store.hook path c.module listener wantPayload).1 }).mirrors =
          e.mirrors := by
      refine mirrors_updateSession_self fun s' hs' => ?_
      obtain rfl : s = s' := Option.some.inj (hs.symm.trans hs')
      exact s.store.mirror_hook s.key path c.module listener wantPayload
    simp only
    split
    · exact hstore
    · refine (mirrors_updateSession_self ?_).trans hstore
      exact fun _ _ => rfl

/-- Removing a path hook changes no mirror. -/
lemma mirrors_unhookPath (e : Engine σ) (h : PathHookHandle) :
    (e.unhookPath h).mirrors = e.mirrors :=
  mirrors_updateSession_self fun _ _ => rfl

/-- Setting a shutdown callback changes no mirror. -/
lemma mirrors_onShutdown (e : Engine σ) (ctx : ContextId) (callback : Bool → Program σ) :
    (e.onShutdown ctx callback).mirrors = e.mirrors := by
  unfold onShutdown
  cases e.context? ctx with
  | none => rfl
  | some sc =>
    have hset : (e.updateSession ctx.session fun s =>
        s.updateContext ctx.index fun c => { c with shutdown := some callback }).mirrors =
          e.mirrors := mirrors_updateSession_self fun _ _ => rfl
    simp only
    split
    · exact hset
    · exact hset

/-- No step of module code changes a mirror. -/
lemma untouched_mirrors : Untouched (mirrors : Engine σ → List Mirror) where
  remember _ _ := rfl
  hook := mirrors_hook
  unhook := mirrors_unhook
  pathHook := mirrors_pathHook
  unhookPath := mirrors_unhookPath
  onShutdown := mirrors_onShutdown

/-- Module code changes no mirror. -/
theorem mirrors_run (e : Engine σ) (p : Program σ) : (e.run p).1.mirrors = e.mirrors :=
  untouched_mirrors.run e p

/-- Rolling back changes no mirror. -/
lemma mirrors_rollBack (e : Engine σ) (ctx : ContextId) : (e.rollBack ctx).mirrors = e.mirrors := by
  unfold rollBack
  cases e.context? ctx with
  | none => rfl
  | some sc =>
    refine mirrors_updateSession_self fun s _ => ?_
    exact Store.mirror_foldl_unhook sc.2.pathHooks s.store s.key

/-- Mirrors endure. -/
lemma enduring_mirrors : Enduring (mirrors : Engine σ → List Mirror) where
  toUntouched := untouched_mirrors
  emit _ _ _ := rfl
  addContext _ _ _ := mirrors_updateSession_self fun _ _ => rfl
  closeContext _ _ := mirrors_updateSession_self fun _ _ => rfl
  rollBack := mirrors_rollBack
  enlist _ _ _ := mirrors_updateSession_self fun _ _ => rfl
  completeSession _ _ := mirrors_updateSession_self fun _ _ => rfl
  takeShutdown _ _ _ := mirrors_updateSession_self fun _ _ => rfl

/-! ### What changes mirrors -/

/-- A session that is started adds an empty mirror. -/
theorem mirrors_startSession (e : Engine σ) (key : SessionKey) (config : StateConfig)
    (registry : ModuleRegistry σ) :
    (e.startSession key config registry).1.mirrors = e.mirrors ++ [.empty key config] :=
  (enduring_mirrors.startSession e key config registry).trans List.map_append

/-- A packet is taken in by the mirror of its session. -/
lemma mirrors_ingest (e : Engine σ) (n : Nat) (op : String) (payload : ByteArray) :
    (e.ingest n op payload).mirrors = e.mirrors.modify n fun m => m.takeIn op payload := by
  unfold ingest
  cases hs : e.session? n with
  | none =>
    have hlength : e.mirrors.length ≤ n := by
      rw [mirrors, List.length_map]
      exact List.getElem?_eq_none_iff.1 hs
    exact (List.modify_eq_self hlength).symm
  | some s =>
    refine (mirrors_updateSession (e := { e with
      listeners := (s.store.ingest e.listeners op payload).2.1 }) fun s' hs' => ?_)
    obtain rfl : s = s' := Option.some.inj (hs.symm.trans hs')
    exact s.store.mirror_ingest s.key e.listeners op payload

/-- A packet that is dispatched is taken in by the mirror of its session, and its hooks change
nothing about it. -/
theorem mirrors_dispatch (e : Engine σ) (n : Nat) (op : String) (payload : ByteArray)
    (exchange : PacketMeta) :
    (e.dispatch n op payload exchange).1.mirrors =
      e.mirrors.modify n fun m => m.takeIn op payload := by
  rw [← mirrors_ingest]
  exact enduring_mirrors.dispatch e n op payload exchange

/-! ### What handlers see -/

/-- The looks at session states that some code takes: of which session, and what it is shown. -/
def reads (e : Engine σ) : Program σ → List (Nat × Option Document)
  | .finish _ => []
  | .fail _ => []
  | .recall next => e.reads (next e.memory)
  | .remember change next => { e with memory := change e.memory }.reads next
  | .inspect ctx next =>
    (e.context? ctx).toList.map (fun _ => (ctx.session, (e.view ctx).state)) ++
      e.reads (next (e.view ctx))
  | .hook ctx target priority handler next =>
    let (e, h) := e.hook ctx target priority handler
    e.reads (next h)
  | .unhook h next => (e.unhook h).reads next
  | .pathHook ctx path listener wantPayload next =>
    let (e, h) := e.pathHook ctx path listener wantPayload
    e.reads (next h)
  | .unhookPath h next => (e.unhookPath h).reads next
  | .onShutdown ctx callback next => (e.onShutdown ctx callback).reads next

/-- The looks at session states that the handlers of some hooks take while a packet passes. -/
def passageReads (key : SessionKey) (op : String) (exchange : PacketMeta) :
    Engine σ × ByteArray → List (Hook (Packet → Program σ)) → List (Nat × Option Document)
  | _, [] => []
  | w, h :: hooks =>
    w.1.reads (h.handler { op, payload := w.2, exchange }) ++
      passageReads key op exchange (runHook key op exchange w h) hooks

/-- The looks at session states that handlers take while a packet is dispatched. -/
def dispatchReads (e : Engine σ) (n : Nat) (op : String) (payload : ByteArray)
    (exchange : PacketMeta) : List (Nat × Option Document) :=
  let e := e.ingest n op payload
  match e.session? n with
  | none => []
  | some s => passageReads s.key op exchange (e, payload) (s.table.chainFor op)

/-- What code is shown of a session state is the mirror of that session. -/
lemma mem_reads {p : Program σ} {e : Engine σ} {n : Nat} {d : Option Document}
    (h : (n, d) ∈ e.reads p) : ∃ m, e.mirrors[n]? = some m ∧ d = m.known := by
  induction p generalizing e with
  | finish output => simp [reads] at h
  | fail fault => simp [reads] at h
  | «recall» next ih => exact ih e.memory h
  | remember change next ih => exact @ih { e with memory := change e.memory } h
  | inspect ctx next ih =>
    rw [reads] at h
    rcases List.mem_append.1 h with hlook | hnext
    · obtain ⟨sc, hctx, heq⟩ := List.mem_map.1 hlook
      obtain ⟨s, c⟩ := sc
      obtain ⟨rfl, rfl⟩ := Prod.mk.inj heq
      have hctx' : e.context? ctx = some (s, c) := Option.mem_toList.1 hctx
      refine ⟨s.mirror, ?_, ?_⟩
      · rw [mirrors, List.getElem?_map]
        exact congrArg _ (context?_eq_some.1 hctx').1
      · rw [view, hctx']
        rfl
    · exact ih (e.view ctx) hnext
  | hook ctx target priority handler next _ ih =>
    rw [← e.mirrors_hook ctx target priority handler]
    exact ih _ h
  | unhook hook next ih =>
    rw [← e.mirrors_unhook hook]
    exact ih h
  | pathHook ctx path listener wantPayload next ih =>
    rw [← e.mirrors_pathHook ctx path listener wantPayload]
    exact ih _ h
  | unhookPath hook next ih =>
    rw [← e.mirrors_unhookPath hook]
    exact ih h
  | onShutdown ctx callback next _ ih =>
    rw [← e.mirrors_onShutdown ctx callback]
    exact ih h

/-- While a packet passes its hooks, their handlers are shown the mirrors as they were before the
first of them. -/
lemma mem_passageReads {key : SessionKey} {op : String} {exchange : PacketMeta}
    {hooks : List (Hook (Packet → Program σ))} {w : Engine σ × ByteArray} {n : Nat}
    {d : Option Document} (h : (n, d) ∈ passageReads key op exchange w hooks) :
    ∃ m, w.1.mirrors[n]? = some m ∧ d = m.known := by
  induction hooks generalizing w with
  | nil => simp [passageReads] at h
  | cons hook hooks ih =>
    rw [passageReads] at h
    rcases List.mem_append.1 h with hfirst | hlater
    · exact mem_reads hfirst
    · rw [← enduring_mirrors.runHook key op exchange w hook]
      exact ih hlater

/-- While a packet is dispatched, handlers are shown the mirrors as the packet leaves them. -/
theorem mem_dispatchReads {e : Engine σ} {n : Nat} {op : String} {payload : ByteArray}
    {exchange : PacketMeta} {k : Nat} {d : Option Document}
    (h : (k, d) ∈ e.dispatchReads n op payload exchange) :
    ∃ m, (e.dispatch n op payload exchange).1.mirrors[k]? = some m ∧ d = m.known := by
  rw [mirrors_dispatch, ← mirrors_ingest]
  rw [dispatchReads] at h
  cases hs : (e.ingest n op payload).session? n with
  | none => simp [hs] at h
  | some s =>
    rw [hs] at h
    exact mem_passageReads h

end Engine

end Intercept
