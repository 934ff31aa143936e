import Intercept.Proofs.Session.Roll
import Mathlib.Logic.Function.Basic

/-!
# What modules do, in order

An activity is something that modules do or that is done with them: an init function begins or has
ended, a handler receives a packet, a callback for the end of a session is registered, a module has
its turn in a shutdown, a callback is invoked. The activities of each operation of the engine are
read off the code that runs (`Engine.activity`, `Engine.startActivity`, `Engine.dispatchActivity`,
`Engine.shutdownActivity`), in the states of its run (`Proofs.Session.Course`).

`Orderly` says in which order the activities that concern callbacks may come. It knows of each
context the callback that it holds, its slot: a registration fills the slot, whatever was in it, and
a turn leads to the invocation of the callback in the slot, which is empty from then on, or to none
if the slot is empty. All operations of the engine are orderly (`run_orderly`, `start_orderly`,
`dispatch_orderly`, `shutdown_orderly`), and the slots in question are those of the contexts.
-/

namespace Intercept

variable {σ : Type}

/-! ### Bringing things together -/

/-- What steps that are performed one after the other bring, in order. -/
def gather {α β γ : Type} (step : β → α → β) (brings : β → α → List γ) : β → List α → List γ
  | _, [] => []
  | w, x :: xs => brings w x ++ gather step brings (step w x) xs

/-- Of what steps bring, some is picked from each of them. -/
lemma filterMap_gather {α β γ δ : Type} {step : β → α → β} {brings : β → α → List γ}
    {pick : γ → Option δ} {picked : α → List δ}
    (h : ∀ w x, (brings w x).filterMap pick = picked x) (w : β) (xs : List α) :
    (gather step brings w xs).filterMap pick = xs.flatMap picked := by
  induction xs generalizing w with
  | nil => rfl
  | cons x xs ih => rw [gather, List.filterMap_append, h, ih, List.flatMap_cons]

/-! ### Activities -/

/-- Something that modules do, or that is done with them. -/
inductive Activity (σ : Type) where
  /-- The init function of a context begins. -/
  | initBegins (ctx : ContextId)
  /-- It has ended: it has finished, or it has failed. -/
  | initEnds (ctx : ContextId) (hasFinished : Bool)
  /-- The handler of a hook receives a packet. -/
  | handles (session hook : Nat) (packet : Packet)
  /-- A callback for the end of the session is registered through a context. -/
  | registers (ctx : ContextId) (callback : Bool → Program σ)
  /-- In a shutdown of its session, it is the turn of a context. -/
  | turn (ctx : ContextId) (processEnds : Bool)
  /-- The callback of a context is invoked. -/
  | invokes (ctx : ContextId) (callback : Bool → Program σ) (processEnds : Bool)

namespace Activity

/-- For which session an init function begins. -/
def begun? : Activity σ → Option Nat
  | initBegins ctx => some ctx.session
  | _ => none

/-- Which hook of which session handles a packet, and of which operation and exchange this is. -/
def handled? : Activity σ → Option (Nat × Nat × String × PacketMeta)
  | handles session hook packet => some (session, hook, packet.op, packet.exchange)
  | _ => none

/-- Whose turn it is, and whether the process ends. -/
def turn? : Activity σ → Option (ContextId × Bool)
  | turn ctx processEnds => some (ctx, processEnds)
  | _ => none

/-- Which context of a session has come to the end of its init function, and whether that has
finished. -/
def ended? (n : Nat) : Activity σ → Option (Nat × Bool)
  | initEnds ctx hasFinished => if ctx.session = n then some (ctx.index, hasFinished) else none
  | _ => none

/-- Whether the activity fills or empties the slot of a context. -/
def Concerns (ctx : ContextId) : Activity σ → Prop
  | registers c _ => c = ctx
  | invokes c _ _ => c = ctx
  | _ => False

end Activity

/-! ### Orderly activities -/

/-- The callback that each context holds. -/
abbrev Slots (σ : Type) := ContextId → Option (Bool → Program σ)

/-- Some activities lead in order from some slots to others. -/
inductive Orderly : Slots σ → List (Activity σ) → Slots σ → Prop where
  | done (slots : Slots σ) : Orderly slots [] slots
  | initBegins {slots slots' : Slots σ} {activities : List (Activity σ)} (ctx : ContextId) :
      Orderly slots activities slots' → Orderly slots (.initBegins ctx :: activities) slots'
  | initEnds {slots slots' : Slots σ} {activities : List (Activity σ)} (ctx : ContextId)
      (hasFinished : Bool) :
      Orderly slots activities slots' →
      Orderly slots (.initEnds ctx hasFinished :: activities) slots'
  | handles {slots slots' : Slots σ} {activities : List (Activity σ)} (session hook : Nat)
      (packet : Packet) :
      Orderly slots activities slots' →
      Orderly slots (.handles session hook packet :: activities) slots'
  /-- What was in the slot before is lost. -/
  | registers {slots slots' : Slots σ} {activities : List (Activity σ)} (ctx : ContextId)
      (callback : Bool → Program σ) :
      Orderly (Function.update slots ctx (some callback)) activities slots' →
      Orderly slots (.registers ctx callback :: activities) slots'
  /-- A turn with an empty slot leads to nothing. -/
  | passes {slots slots' : Slots σ} {activities : List (Activity σ)} {ctx : ContextId}
      (processEnds : Bool) :
      slots ctx = none → Orderly slots activities slots' →
      Orderly slots (.turn ctx processEnds :: activities) slots'
  /-- A turn leads to the invocation of what is in the slot. -/
  | invokes {slots slots' : Slots σ} {activities : List (Activity σ)} {ctx : ContextId}
      {callback : Bool → Program σ} (processEnds : Bool) :
      slots ctx = some callback → Orderly (Function.update slots ctx none) activities slots' →
      Orderly slots (.turn ctx processEnds :: .invokes ctx callback processEnds :: activities)
        slots'

namespace Orderly

variable {slots slots' slots'' : Slots σ} {activities more : List (Activity σ)}

/-- Activities after other ones. -/
theorem trans (h : Orderly slots activities slots') (h' : Orderly slots' more slots'') :
    Orderly slots (activities ++ more) slots'' := by
  induction h with
  | done slots => exact h'
  | initBegins ctx _ ih => exact .initBegins ctx (ih h')
  | initEnds ctx hasFinished _ ih => exact .initEnds ctx hasFinished (ih h')
  | handles session hook packet _ ih => exact .handles session hook packet (ih h')
  | registers ctx callback _ ih => exact .registers ctx callback (ih h')
  | passes processEnds hempty _ ih => exact .passes processEnds hempty (ih h')
  | invokes processEnds hfull _ ih => exact .invokes processEnds hfull (ih h')

/-- If each step is orderly, all of them are. -/
lemma foldl {α β : Type} (view : β → Slots σ) {step : β → α → β}
    {brings : β → α → List (Activity σ)}
    (h : ∀ w x, Orderly (view w) (brings w x) (view (step w x))) (xs : List α) (w : β) :
    Orderly (view w) (gather step brings w xs) (view (xs.foldl step w)) := by
  induction xs generalizing w with
  | nil => exact .done _
  | cons x xs ih => exact (h w x).trans (ih (step w x))

end Orderly

/-! ### The activities of an engine -/

namespace Engine

/-- The callbacks that the contexts hold. -/
def slots (e : Engine σ) : Slots σ := fun ctx => (e.context? ctx).bind (·.2.shutdown)

/-- What a piece of code does. -/
def activity (e : Engine σ) : Program σ → List (Activity σ)
  | .finish _ => []
  | .fail _ => []
  | .recall next => e.activity (next e.memory)
  | .remember change next => { e with memory := change e.memory }.activity next
  | .inspect ctx next => e.activity (next (e.view ctx))
  | .hook ctx target priority handler next =>
    let (e, h) := e.hook ctx target priority handler
    e.activity (next h)
  | .unhook h next => (e.unhook h).activity next
  | .pathHook ctx path listener wantPayload next =>
    let (e, h) := e.pathHook ctx path listener wantPayload
    e.activity (next h)
  | .unhookPath h next => (e.unhookPath h).activity next
  | .onShutdown ctx callback next =>
    (if (e.context? ctx).isSome then [.registers ctx callback] else []) ++
      (e.onShutdown ctx callback).activity next

/-- Whether a piece of code has finished. -/
def finishes (e : Engine σ) (p : Program σ) : Bool :=
  match (e.run p).2 with
  | .finished _ => true
  | .failed _ => false

/-- What is done to initialise a module. -/
def initActivity (n : Nat) (e : Engine σ) (module : ModuleDescriptor σ) : List (Activity σ) :=
  let (e, ctx) := e.addContext n module.name
  .initBegins ctx :: e.activity (module.init ctx) ++
    [.initEnds ctx (e.finishes (module.init ctx))]

/-- An engine with one more session, of which no module knows yet. -/
def openSession (e : Engine σ) (key : SessionKey) (config : StateConfig) : Engine σ :=
  { e with sessions := e.sessions ++ [{ key, store := { config } }] }

/-- What is done to start a session. -/
def startActivity (e : Engine σ) (key : SessionKey) (config : StateConfig)
    (registry : ModuleRegistry σ) : List (Activity σ) :=
  gather (fun (e' : Engine σ) module => e'.initModule e.sessions.length key module)
    (initActivity e.sessions.length) (e.openSession key config) registry.modules

/-- What is done when a packet passes a hook. -/
def hookActivity (n : Nat) (op : String) (exchange : PacketMeta) (w : Engine σ × ByteArray)
    (h : Hook (Packet → Program σ)) : List (Activity σ) :=
  let packet : Packet := { op, payload := w.2, exchange }
  .handles n h.id packet :: w.1.activity (h.handler packet)

/-- What is done when a packet is dispatched. -/
def dispatchActivity (e : Engine σ) (n : Nat) (op : String) (payload : ByteArray)
    (exchange : PacketMeta) : List (Activity σ) :=
  let e := e.ingest n op payload
  match e.session? n with
  | none => []
  | some s => gather (runHook s.key op exchange) (hookActivity n op exchange) (e, payload)
      (s.table.chainFor op)

/-- What is done at the turn of a context. -/
def turnActivity (n : Nat) (processEnds : Bool) (e : Engine σ) (i : Nat) : List (Activity σ) :=
  .turn ⟨n, i⟩ processEnds ::
    match e.slots ⟨n, i⟩ with
    | none => []
    | some callback => .invokes ⟨n, i⟩ callback processEnds ::
        (e.takeShutdown n i).activity (callback processEnds)

/-- What is done to shut a session down. -/
def shutdownActivity (e : Engine σ) (n : Nat) (processEnds : Bool) : List (Activity σ) :=
  match e.session? n with
  | none => []
  | some s => gather (shutdownModule n s.key processEnds) (turnActivity n processEnds) e s.modules

/-! ### Slots -/

/-- The slots of a session that was changed in a way that they do not show. -/
lemma slots_updateSession (e : Engine σ) (n : Nat) {f : Session σ → Session σ}
    (h : ∀ s, e.session? n = some s → ∀ i : Nat,
      (f s).contexts[i]?.bind (·.shutdown) = s.contexts[i]?.bind (·.shutdown)) :
    (e.updateSession n f).slots = e.slots := by
  funext ctx
  have hslot (e : Engine σ) : e.slots ctx = (e.session? ctx.session).bind fun s =>
      s.contexts[ctx.index]?.bind (·.shutdown) := by
    unfold slots context?
    cases hs : e.session? ctx.session with
    | none => rfl
    | some s =>
      cases hc : s.contexts[ctx.index]? <;> simp [hc]
  rw [hslot, hslot, session?_updateSession]
  split
  · next heq =>
    cases hs : e.session? ctx.session with
    | none => rfl
    | some s => exact h s (heq ▸ hs) ctx.index
  · rfl

/-- Changing a context otherwise does not change what is in its slot. -/
lemma slots_updateContext (e : Engine σ) (ctx : ContextId) {f : Context σ → Context σ}
    (h : ∀ c, (f c).shutdown = c.shutdown) :
    (e.updateSession ctx.session fun s => s.updateContext ctx.index f).slots = e.slots := by
  refine slots_updateSession e ctx.session fun s _ i => ?_
  rw [Session.updateContext, List.getElem?_modify]
  cases s.contexts[i]? with
  | none => rfl
  | some c => by_cases hi : ctx.index = i <;> simp [hi, h]

/-- Filling or emptying the slot of a context. -/
lemma slots_setShutdown (e : Engine σ) (ctx : ContextId) (slot : Option (Bool → Program σ))
    (h : slot = none ∨ (e.context? ctx).isSome = true) :
    (e.updateSession ctx.session fun s =>
      s.updateContext ctx.index fun c => { c with shutdown := slot }).slots =
        Function.update e.slots ctx slot := by
  funext ctx'
  unfold slots context? at *
  rw [session?_updateSession]
  by_cases hctx : ctx' = ctx
  · subst hctx
    rw [Function.update_self, if_pos rfl]
    cases hs : e.session? ctx'.session with
    | none =>
      rcases h with rfl | h
      · rfl
      · simp [hs] at h
    | some s =>
      cases hc : s.contexts[ctx'.index]? with
      | none =>
        rcases h with rfl | h
        · simp [Session.updateContext, hc]
        · simp [hs, hc] at h
      | some c => simp [Session.updateContext, hc]
  · rw [Function.update_of_ne hctx]
    split
    · next hsession =>
      have hindex : ctx.index ≠ ctx'.index := by
        intro heq
        exact hctx (by cases ctx; cases ctx'; simp_all)
      cases e.session? ctx'.session with
      | none => rfl
      | some s => cases hc : s.contexts[ctx'.index]? <;> simp [Session.updateContext, hindex, hc]
    · rfl

/-- Registering a hook fills no slot. -/
lemma slots_hook (e : Engine σ) (ctx : ContextId) (target : String) (priority : Int32)
    (handler : Packet → Program σ) :
    (e.hook ctx target priority handler).1.slots = e.slots := by
  rcases e.hook_cases ctx target priority handler with ⟨s, c, -, -, -, h⟩ | ⟨-, signals, h⟩
  · rw [h]
    refine slots_updateSession e ctx.session fun s _ i => ?_
    simp only [Session.updateContext, List.getElem?_modify]
    cases s.contexts[i]? with
    | none => rfl
    | some c => by_cases hi : ctx.index = i <;> simp [hi]
  · rw [h]
    rfl

/-- Removing a hook empties no slot. -/
lemma slots_unhook (e : Engine σ) (h : HookHandle) : (e.unhook h).slots = e.slots := by
  rcases e.unhook_cases h with ⟨s, -, -, h⟩ | ⟨-, signals, h⟩
  · rw [h]
    exact slots_updateSession e _ fun _ _ _ => rfl
  · rw [h]
    rfl

/-- Registering a path hook fills no slot. -/
lemma slots_pathHook (e : Engine σ) (ctx : ContextId) (path listener : String)
    (wantPayload : Bool) : (e.pathHook ctx path listener wantPayload).1.slots = e.slots := by
  unfold pathHook
  cases e.context? ctx with
  | none => rfl
  | some sc =>
    have hstore (store : Store) :
        (e.updateSession ctx.session fun s => { s with store }).slots = e.slots :=
      slots_updateSession e _ fun _ _ _ => rfl
    simp only
    split
    · exact hstore _
    · refine (slots_updateContext _ ctx ?_).trans (hstore _)
      exact fun _ => rfl

/-- Setting a callback registers it, if the context is there. -/
lemma onShutdown_orderly (e : Engine σ) (ctx : ContextId) (callback : Bool → Program σ) :
    Orderly e.slots (if (e.context? ctx).isSome then [.registers ctx callback] else [])
      (e.onShutdown ctx callback).slots := by
  unfold onShutdown
  cases hctx : e.context? ctx with
  | none => exact .done _
  | some sc =>
    have hset := slots_setShutdown e ctx (some callback) (Or.inr (by rw [hctx]; rfl))
    rw [if_pos (by rfl)]
    simp only
    split
    · refine .registers ctx callback ?_
      rw [← hset]
      exact .done _
    · refine .registers ctx callback ?_
      rw [← hset]
      exact .done _

/-! ### All operations are orderly -/

/-- What a piece of code does is orderly. -/
theorem run_orderly (p : Program σ) (e : Engine σ) :
    Orderly e.slots (e.activity p) (e.run p).1.slots := by
  induction p generalizing e with
  | finish output => exact .done _
  | fail fault => exact .done _
  | «recall» next ih => exact ih e.memory e
  | remember change next ih => exact ih { e with memory := change e.memory }
  | inspect ctx next ih => exact ih (e.view ctx) e
  | hook ctx target priority handler next _ ih =>
    have hrest := ih (e.hook ctx target priority handler).2 (e.hook ctx target priority handler).1
    rwa [slots_hook] at hrest
  | unhook handle next ih =>
    have hrest := ih (e.unhook handle)
    rwa [slots_unhook] at hrest
  | pathHook ctx path listener wantPayload next ih =>
    have hrest := ih (e.pathHook ctx path listener wantPayload).2
      (e.pathHook ctx path listener wantPayload).1
    rwa [slots_pathHook] at hrest
  | unhookPath handle next ih =>
    have hsame : (e.unhookPath handle).slots = e.slots :=
      slots_updateSession e handle.session fun _ _ _ => rfl
    have hrest := ih (e.unhookPath handle)
    rwa [hsame] at hrest
  | onShutdown ctx callback next _ ih =>
    exact (e.onShutdown_orderly ctx callback).trans (ih (e.onShutdown ctx callback))

/-- Giving a module a context fills no slot. -/
lemma slots_addContext (e : Engine σ) (n : Nat) (module : String) :
    (e.addContext n module).1.slots = e.slots := by
  refine slots_updateSession e n fun s _ i => ?_
  by_cases hi : i < s.contexts.length
  · simp only [List.getElem?_append_left hi]
  · have hnone : s.contexts[i]? = none := List.getElem?_eq_none_iff.2 (by omega)
    simp only [hnone, List.getElem?_append_right (Nat.le_of_not_lt hi)]
    cases i - s.contexts.length <;> rfl

/-- Taking back what was registered through a context leaves its slot alone. -/
lemma slots_rollBack (e : Engine σ) (ctx : ContextId) : (e.rollBack ctx).slots = e.slots := by
  unfold rollBack
  cases e.context? ctx with
  | none => rfl
  | some sc =>
    refine slots_updateSession e ctx.session fun s _ i => ?_
    simp only [Session.updateContext, List.getElem?_modify]
    cases s.contexts[i]? with
    | none => rfl
    | some c => by_cases hi : ctx.index = i <;> simp [hi]

/-- Initialising a module is orderly. -/
lemma initModule_orderly (n : Nat) (key : SessionKey) (e : Engine σ)
    (module : ModuleDescriptor σ) :
    Orderly e.slots (initActivity n e module) (e.initModule n key module).slots := by
  cases hadd : e.addContext n module.name with
  | mk e₁ ctx =>
    have hadded : e₁.slots = e.slots := by
      have hslots := slots_addContext e n module.name
      rwa [hadd] at hslots
    have hrun : Orderly e.slots (e₁.activity (module.init ctx))
        (e₁.run (module.init ctx)).1.slots := by
      rw [← hadded]
      exact run_orderly (module.init ctx) e₁
    have hclose (e' : Engine σ) : (e'.closeContext ctx).slots = e'.slots :=
      slots_updateContext e' ctx fun _ => rfl
    have hend : (e.initModule n key module).slots = (e₁.run (module.init ctx)).1.slots := by
      rcases initModule_cases e n key module hadd with
        ⟨e₂, output, hout, hinit⟩ | ⟨e₂, fault, hout, hinit⟩
      · rw [hout, hinit]
        refine (slots_updateSession _ n ?_).trans (hclose e₂)
        exact fun _ _ _ => rfl
      · rw [hout, hinit, slots_rollBack]
        exact hclose e₂
    rw [initActivity, hadd, hend]
    refine .initBegins ctx (hrun.trans ?_)
    exact .initEnds ctx _ (.done _)

/-- The new session has the next number. -/
lemma session?_openSession (e : Engine σ) (key : SessionKey) (config : StateConfig) (m : Nat) :
    (e.openSession key config).session? m =
      if m = e.sessions.length then some { key, store := { config } } else e.session? m := by
  unfold openSession session?
  rcases Nat.lt_trichotomy m e.sessions.length with hlt | rfl | hgt
  · rw [if_neg (Nat.ne_of_lt hlt), List.getElem?_append_left hlt]
  · rw [if_pos rfl, List.getElem?_concat_length]
  · rw [if_neg (Nat.ne_of_gt hgt), List.getElem?_eq_none (Nat.le_of_lt hgt), List.getElem?_eq_none]
    rw [List.length_append]
    exact hgt

/-- A session that is opened has no contexts yet. -/
lemma slots_openSession (e : Engine σ) (key : SessionKey) (config : StateConfig) :
    (e.openSession key config).slots = e.slots := by
  funext ctx
  unfold slots context? openSession session?
  by_cases hn : ctx.session < e.sessions.length
  · rw [List.getElem?_append_left hn]
  · have hnone : e.sessions[ctx.session]? = none := List.getElem?_eq_none_iff.2 (by omega)
    rw [hnone, List.getElem?_append_right (Nat.le_of_not_lt hn)]
    cases ctx.session - e.sessions.length <;> rfl

/-- Starting a session is orderly. -/
theorem start_orderly (e : Engine σ) (key : SessionKey) (config : StateConfig)
    (registry : ModuleRegistry σ) :
    Orderly e.slots (e.startActivity key config registry)
      (e.startSession key config registry).1.slots := by
  have hfold := Orderly.foldl slots (initModule_orderly e.sessions.length key) registry.modules
    (e.openSession key config)
  rw [slots_openSession] at hfold
  have hcomplete (e' : Engine σ) (n : Nat) : (e'.completeSession n).slots = e'.slots :=
    slots_updateSession e' n fun _ _ _ => rfl
  rw [startActivity, startSession, hcomplete]
  exact hfold

/-- Passing a packet through a hook is orderly. -/
lemma runHook_orderly (n : Nat) (key : SessionKey) (op : String) (exchange : PacketMeta)
    (w : Engine σ × ByteArray) (h : Hook (Packet → Program σ)) :
    Orderly w.1.slots (hookActivity n op exchange w h) (runHook key op exchange w h).1.slots := by
  obtain ⟨signals, -, hrun⟩ := runHook_fst key op exchange w h
  rw [hrun]
  exact .handles n h.id _ (run_orderly _ w.1)

/-- Dispatching a packet is orderly. -/
theorem dispatch_orderly (e : Engine σ) (n : Nat) (op : String) (payload : ByteArray)
    (exchange : PacketMeta) :
    Orderly e.slots (e.dispatchActivity n op payload exchange)
      (e.dispatch n op payload exchange).1.slots := by
  have hingest : (e.ingest n op payload).slots = e.slots := by
    unfold ingest
    cases e.session? n with
    | none => rfl
    | some s => exact slots_updateSession _ n fun _ _ _ => rfl
  rw [dispatchActivity, dispatch, ← hingest]
  cases (e.ingest n op payload).session? n with
  | none => exact .done _
  | some s =>
    exact Orderly.foldl (fun w : Engine σ × ByteArray => w.1.slots)
      (runHook_orderly n s.key op exchange) (s.table.chainFor op) (e.ingest n op payload, payload)

/-- The turn of a context is orderly. -/
lemma shutdownModule_orderly (n : Nat) (key : SessionKey) (processEnds : Bool) (e : Engine σ)
    (i : Nat) :
    Orderly e.slots (turnActivity n processEnds e i)
      (shutdownModule n key processEnds e i).slots := by
  unfold turnActivity
  rcases shutdownModule_cases n key processEnds e i with
    ⟨hnone, heq⟩ | ⟨callback, hsome, signals, -, heq⟩
  · have hslot : e.slots ⟨n, i⟩ = none := hnone
    rw [hslot, heq]
    exact .passes processEnds hslot (.done _)
  · have hslot : e.slots ⟨n, i⟩ = some callback := hsome
    have htake : (e.takeShutdown n i).slots = Function.update e.slots ⟨n, i⟩ none :=
      slots_setShutdown e ⟨n, i⟩ none (Or.inl rfl)
    have hrun := run_orderly (callback processEnds) (e.takeShutdown n i)
    rw [htake] at hrun
    rw [hslot, heq]
    exact .invokes processEnds hslot hrun

/-- Shutting a session down is orderly. -/
theorem shutdown_orderly (e : Engine σ) (n : Nat) (processEnds : Bool) :
    Orderly e.slots (e.shutdownActivity n processEnds) (e.shutdown n processEnds).slots := by
  unfold shutdownActivity shutdown
  cases e.session? n with
  | none => exact .done _
  | some s => exact Orderly.foldl slots (shutdownModule_orderly n s.key processEnds) s.modules e

end Engine

end Intercept
