import Intercept.Proofs.Session.Step
import Intercept.Proofs.Store.Reserved

/-!
# Code that keeps to its session

Sessions of one identity in two engines are compared. Code that depends on nothing but its arguments
and its own session, and that sends to no listener but those of its own identity, does the same in
both. `Program.Alike` says so step by step: whatever the memory holds, the code goes on in the same
way, and what it looks at and changes is a context of its own session. Only the number of the session
may be another one, since the two engines need not have started equally many.

A session in one engine is then like the one in the other, handlers and callbacks included
(`Session.Alike`), and stays so while such code runs in both; other sessions and other listeners stay
as they are (`InStep.run`).
-/

namespace Intercept

/-- Optional values that are related are either both there or both not. -/
lemma optionRel_cases {α β : Type} {R : α → β → Prop} {a : Option α} {b : Option β}
    (h : Option.Rel R a b) : a = none ∧ b = none ∨ ∃ x y, a = some x ∧ b = some y ∧ R x y := by
  cases h with
  | none => exact Or.inl ⟨rfl, rfl⟩
  | some h => exact Or.inr ⟨_, _, rfl, rfl, h⟩

/-- Related values are related by what follows from the relation. -/
lemma optionRel_mono {α β : Type} {R S : α → β → Prop} (himp : ∀ x y, R x y → S x y) {a : Option α}
    {b : Option β} (h : Option.Rel R a b) : Option.Rel S a b := by
  cases h with
  | none => exact .none
  | some h => exact .some (himp _ _ h)

variable {σ : Type}

/-- Two sessions of one identity, by their numbers in two engines, and the listeners of that
identity. -/
structure Twins where
  key : SessionKey
  own : String → Bool
  left : Nat
  right : Nat

/-- Two pieces of code do the same through a context of two sessions, whatever is in the memory. -/
inductive Program.Alike (t : Twins) (i : Nat) : Program σ → Program σ → Prop
  | finish (output : ByteArray) : Alike t i (.finish output) (.finish output)
  | fail (fault : Fault) : Alike t i (.fail fault) (.fail fault)
  | «recall» {next next' : σ → Program σ} (hnext : ∀ m m', Alike t i (next m) (next' m')) :
      Alike t i (.recall next) (.recall next')
  | remember (change change' : σ → σ) {next next' : Program σ} (hnext : Alike t i next next') :
      Alike t i (.remember change next) (.remember change' next')
  | inspect {next next' : ContextView → Program σ}
      (hnext : ∀ v, v.key = t.key → Alike t i (next v) (next' v)) :
      Alike t i (.inspect ⟨t.left, i⟩ next) (.inspect ⟨t.right, i⟩ next')
  | hook (target : String) (priority : Int32) {handler handler' : Packet → Program σ}
      {next next' : Option HookHandle → Program σ}
      (hhandler : ∀ packet, Alike t i (handler packet) (handler' packet))
      (hnone : Alike t i (next none) (next' none))
      (hsome : ∀ id label,
        Alike t i (next (some ⟨t.left, id, label⟩)) (next' (some ⟨t.right, id, label⟩))) :
      Alike t i (.hook ⟨t.left, i⟩ target priority handler next)
        (.hook ⟨t.right, i⟩ target priority handler' next')
  | unhook (id : Nat) (label : HookLabel) {next next' : Program σ} (hnext : Alike t i next next') :
      Alike t i (.unhook ⟨t.left, id, label⟩ next) (.unhook ⟨t.right, id, label⟩ next')
  | pathHook (path : String) {listener : String} (wantPayload : Bool)
      {next next' : Option PathHookHandle → Program σ} (hown : t.own listener = true)
      (hnone : Alike t i (next none) (next' none))
      (hsome : ∀ id module, Alike t i (next (some ⟨t.left, id, path, module⟩))
        (next' (some ⟨t.right, id, path, module⟩))) :
      Alike t i (.pathHook ⟨t.left, i⟩ path listener wantPayload next)
        (.pathHook ⟨t.right, i⟩ path listener wantPayload next')
  | unhookPath (id : Nat) (path module : String) {next next' : Program σ}
      (hnext : Alike t i next next') :
      Alike t i (.unhookPath ⟨t.left, id, path, module⟩ next)
        (.unhookPath ⟨t.right, id, path, module⟩ next')
  | onShutdown {callback callback' : Bool → Program σ} {next next' : Program σ}
      (hcallback : ∀ processEnds, Alike t i (callback processEnds) (callback' processEnds))
      (hnext : Alike t i next next') :
      Alike t i (.onShutdown ⟨t.left, i⟩ callback next) (.onShutdown ⟨t.right, i⟩ callback' next')

/-- Hooks that agree and do the same, through one of the first `size` contexts. -/
structure Hook.Alike (t : Twins) (size : Nat) (h h' : Hook (Packet → Program σ)) : Prop where
  id : h.id = h'.id
  label : h.label = h'.label
  handler : ∃ i, i < size ∧ ∀ packet, Program.Alike t i (h.handler packet) (h'.handler packet)

/-- Contexts that agree, with callbacks that do the same. -/
structure Context.Alike (t : Twins) (i : Nat) (c c' : Context σ) : Prop where
  module : c.module = c'.module
  isInitialized : c.isInitialized = c'.isInitialized
  hooks : c.hooks = c'.hooks
  pathHooks : c.pathHooks = c'.pathHooks
  shutdown : Option.Rel
    (fun f f' => ∀ processEnds, Program.Alike t i (f processEnds) (f' processEnds))
    c.shutdown c'.shutdown

/-- Sessions with `size` contexts that agree, with handlers and callbacks that do the same. Whether
they are alive is left open. -/
structure Session.Alike (t : Twins) (size : Nat) (s s' : Session σ) : Prop where
  key : s.key = t.key
  key' : s'.key = t.key
  store : s.store = s'.store
  reserves : s.store.Reserves t.own
  modules : s.modules = s'.modules
  nextHook : s.nextHook = s'.nextHook
  length : s.contexts.length = size
  length' : s'.contexts.length = size
  contexts : ∀ i, Option.Rel (Context.Alike t i) s.contexts[i]? s'.contexts[i]?
  hooks : List.Forall₂ (Hook.Alike t size) s.table.hooks s'.table.hooks

namespace Session.Alike

variable {t : Twins} {size : Nat} {s s' : Session σ}

/-- The same change of a context on both sides. -/
lemma updateContext (h : Alike t size s s') (i : Nat) (f f' : Context σ → Context σ)
    (hf : ∀ c c', Context.Alike t i c c' → Context.Alike t i (f c) (f' c')) :
    Alike t size (s.updateContext i f) (s'.updateContext i f') where
  key := h.key
  key' := h.key'
  store := h.store
  reserves := h.reserves
  modules := h.modules
  nextHook := h.nextHook
  length := (List.length_modify _ _ _).trans h.length
  length' := (List.length_modify _ _ _).trans h.length'
  contexts j := by
    simp only [Session.updateContext, List.getElem?_modify]
    rcases optionRel_cases (h.contexts j) with ⟨hc, hc'⟩ | ⟨c, c', hc, hc', hrel⟩
    · rw [hc, hc']
      exact .none
    · rw [hc, hc']
      refine .some ?_
      split
      · next heq =>
        subst heq
        exact hf c c' hrel
      · exact hrel
  hooks := h.hooks

/-- Another store on both sides. -/
lemma withStore (h : Alike t size s s') {store : Store} (hstore : store.Reserves t.own) :
    Alike t size { s with store } { s' with store } :=
  { h with store := rfl, reserves := hstore }

/-- Other tables of hooks that agree. -/
lemma withTable (h : Alike t size s s') {table table' : HookTable (Packet → Program σ)}
    (htable : List.Forall₂ (Hook.Alike t size) table.hooks table'.hooks) :
    Alike t size { s with table } { s' with table := table' } :=
  { h with hooks := htable }

end Session.Alike

/-! ### Tables of hooks -/

namespace HookTable

section Related

variable {R : Hook (Packet → Program σ) → Hook (Packet → Program σ) → Prop}
variable {l l' : List (Hook (Packet → Program σ))} {table table' : HookTable (Packet → Program σ)}

/-- Hooks are taken out of both tables by what they agree in. -/
lemma forall₂_filter {p p' : Hook (Packet → Program σ) → Bool}
    (hp : ∀ h h', R h h' → p h = p' h') (h : List.Forall₂ R l l') :
    List.Forall₂ R (l.filter p) (l'.filter p') := by
  refine List.rel_filter ?_ h
  intro a a' ha
  simp only [hp a a' ha]

/-- Putting a hook in its place. -/
lemma forall₂_insertByPriority (hlabel : ∀ h h', R h h' → h.label = h'.label)
    {g g' : Hook (Packet → Program σ)} (hg : R g g') (h : List.Forall₂ R l l') :
    List.Forall₂ R (insertByPriority g l) (insertByPriority g' l') := by
  induction h with
  | nil => exact .cons hg .nil
  | @cons a a' _ _ ha htail ih =>
    have hpriority : a.priority ≤ g.priority ↔ a'.priority ≤ g'.priority := by
      rw [Hook.priority, Hook.priority, Hook.priority, Hook.priority, hlabel a a' ha,
        hlabel g g' hg]
    unfold insertByPriority
    split_ifs with hle hle' hle'
    · exact .cons hg (.cons ha htail)
    · exact absurd (hpriority.1 hle) hle'
    · exact absurd (hpriority.2 hle') hle
    · exact .cons ha ih

/-- Putting all hooks in order. -/
lemma forall₂_sort (hlabel : ∀ h h', R h h' → h.label = h'.label)
    (h : List.Forall₂ R table.hooks table'.hooks) :
    List.Forall₂ R table.sort.hooks table'.sort.hooks := by
  obtain ⟨l⟩ := table
  obtain ⟨l'⟩ := table'
  simp only [sort] at h ⊢
  induction h with
  | nil => exact .nil
  | cons ha _ ih => exact forall₂_insertByPriority hlabel ha ih

/-- The hooks that a packet passes through. -/
lemma forall₂_chainFor (hlabel : ∀ h h', R h h' → h.label = h'.label)
    (h : List.Forall₂ R table.hooks table'.hooks) (op : String) :
    List.Forall₂ R (table.chainFor op) (table'.chainFor op) := by
  have hchain : ∀ target, List.Forall₂ R (table.chain target) (table'.chain target) := by
    intro target
    refine forall₂_filter ?_ h
    intro a a' ha
    rw [Hook.target, Hook.target, hlabel a a' ha]
  unfold chainFor
  refine List.rel_append (hchain wildcard) ?_
  split
  · exact .nil
  · exact hchain op

end Related

variable {t : Twins} {size : Nat} {table table' : HookTable (Packet → Program σ)}

/-- Whether a hook is in a table. -/
lemma contains_eq (h : List.Forall₂ (Hook.Alike t size) table.hooks table'.hooks) (id : Nat) :
    table.contains id = table'.contains id := by
  obtain ⟨l⟩ := table
  obtain ⟨l'⟩ := table'
  simp only [contains] at h ⊢
  induction h with
  | nil => rfl
  | cons hab _ ih => rw [List.any_cons, List.any_cons, hab.id, ih]

/-- Removing a hook. -/
lemma forall₂_remove (h : List.Forall₂ (Hook.Alike t size) table.hooks table'.hooks) (id : Nat) :
    List.Forall₂ (Hook.Alike t size) (table.remove id).hooks (table'.remove id).hooks :=
  forall₂_filter (fun _ _ ha => by rw [ha.id]) h

/-- Removing several hooks. -/
lemma forall₂_foldl_remove (ids : List Nat)
    (h : List.Forall₂ (Hook.Alike t size) table.hooks table'.hooks) :
    List.Forall₂ (Hook.Alike t size) (ids.foldl (fun tb id => tb.remove id) table).hooks
      (ids.foldl (fun tb id => tb.remove id) table').hooks := by
  induction ids generalizing table table' with
  | nil => exact h
  | cons id ids ih => exact ih (forall₂_remove h id)

end HookTable

namespace Engine

/-! ### Engines in step -/

/-- Of two engines, one after the other, only a session and some listeners may differ. -/
structure Framed (own : String → Bool) (n : Nat) (base e : Engine σ) : Prop where
  sessions : ∀ m, m ≠ n → e.session? m = base.session? m
  listeners : ∀ name, own name = false → e.listeners.find? name = base.listeners.find? name
  length : e.sessions.length = base.sessions.length

/-- Two engines in which everything has been the same for two sessions, and nothing has happened to
others, since they were at `base` and `base'`. -/
structure InStep (t : Twins) (size : Nat) (base base' e e' : Engine σ) : Prop where
  twins : ∃ s s', e.session? t.left = some s ∧ e'.session? t.right = some s' ∧
    s.isAlive = true ∧ s'.isAlive = true ∧ Session.Alike t size s s'
  listeners : e.listeners.Agree t.own e'.listeners
  left : Framed t.own t.left base e
  right : Framed t.own t.right base' e'

/-- Nothing differs at first. -/
lemma Framed.refl (own : String → Bool) (n : Nat) (e : Engine σ) : Framed own n e e :=
  ⟨fun _ _ => rfl, fun _ _ => rfl, rfl⟩

/-- A change of the session. -/
lemma Framed.update {own : String → Bool} {n : Nat} {base e : Engine σ} (h : Framed own n base e)
    (f : Session σ → Session σ) : Framed own n base (e.updateSession n f) where
  sessions m hm := by
    rw [session?_updateSession, if_neg (Ne.symm hm)]
    exact h.sessions m hm
  listeners := h.listeners
  length := (List.length_modify _ _ _).trans h.length

/-- A context of a session that is there. -/
lemma context?_of_session? {e : Engine σ} {n : Nat} {s : Session σ} (hs : e.session? n = some s)
    (i : Nat) : e.context? ⟨n, i⟩ = s.contexts[i]?.map fun c => (s, c) := by
  unfold context?
  rw [hs]
  simp only [Option.bind_eq_bind, Option.bind_some]
  cases s.contexts[i]? <;> rfl

namespace InStep

variable {t : Twins} {size : Nat} {base base' e e' : Engine σ}

/-- Signals and the memory play no part. -/
lemma congr (h : InStep t size base base' e e') {e₁ e₁' : Engine σ}
    (hsessions : e₁.sessions = e.sessions) (hsessions' : e₁'.sessions = e'.sessions)
    (hlisteners : e₁.listeners = e.listeners) (hlisteners' : e₁'.listeners = e'.listeners) :
    InStep t size base base' e₁ e₁' := by
  obtain ⟨memory, listeners, sessions, signals⟩ := e₁
  obtain ⟨memory', listeners', sessions', signals'⟩ := e₁'
  subst hsessions hsessions' hlisteners hlisteners'
  exact ⟨h.twins, h.listeners, ⟨h.left.sessions, h.left.listeners, h.left.length⟩,
    ⟨h.right.sessions, h.right.listeners, h.right.length⟩⟩

/-- Whatever is emitted. -/
lemma emit (h : InStep t size base base' e e') (signals signals' : List Signal) :
    InStep t size base base' (e.emit signals) (e'.emit signals') :=
  h.congr rfl rfl rfl rfl

/-- Changes of the two sessions that keep them alike and alive. -/
lemma update (h : InStep t size base base' e e') {size' : Nat} {f f' : Session σ → Session σ}
    (halive : ∀ s, (f s).isAlive = s.isAlive) (halive' : ∀ s, (f' s).isAlive = s.isAlive)
    (hf : ∀ s s', e.session? t.left = some s → e'.session? t.right = some s' →
      Session.Alike t size s s' → Session.Alike t size' (f s) (f' s')) :
    InStep t size' base base' (e.updateSession t.left f) (e'.updateSession t.right f') where
  twins := by
    obtain ⟨s, s', hs, hs', hlive, hlive', halike⟩ := h.twins
    refine ⟨f s, f' s', ?_, ?_, (halive s).trans hlive, (halive' s').trans hlive',
      hf s s' hs hs' halike⟩
    · rw [session?_updateSession, if_pos rfl, hs, Option.map_some]
    · rw [session?_updateSession, if_pos rfl, hs', Option.map_some]
  listeners := h.listeners
  left := h.left.update f
  right := h.right.update f'

/-- The same change of a context. -/
lemma updateContext (h : InStep t size base base' e e') (i : Nat) (f f' : Context σ → Context σ)
    (hf : ∀ c c', Context.Alike t i c c' → Context.Alike t i (f c) (f' c')) :
    InStep t size base base' (e.updateSession t.left fun s => s.updateContext i f)
      (e'.updateSession t.right fun s => s.updateContext i f') :=
  h.update (fun _ => rfl) (fun _ => rfl) fun _ _ _ _ hs => hs.updateContext i f f' hf

/-- Both sessions have a context, or neither does. -/
lemma contexts (h : InStep t size base base' e e') (i : Nat) :
    (e.context? ⟨t.left, i⟩ = none ∧ e'.context? ⟨t.right, i⟩ = none) ∨
    ∃ s s' c c', e.context? ⟨t.left, i⟩ = some (s, c) ∧ e'.context? ⟨t.right, i⟩ = some (s', c') ∧
      i < size ∧ s.isAlive = true ∧ s'.isAlive = true ∧ Session.Alike t size s s' ∧
      Context.Alike t i c c' := by
  obtain ⟨s, s', hs, hs', hlive, hlive', halike⟩ := h.twins
  rw [context?_of_session? hs, context?_of_session? hs']
  rcases optionRel_cases (halike.contexts i) with ⟨hc, hc'⟩ | ⟨c, c', hc, hc', hrel⟩
  · rw [hc, hc']
    exact Or.inl ⟨rfl, rfl⟩
  · have hlt : i < size := halike.length ▸ (List.getElem?_eq_some_iff.1 hc).1
    rw [hc, hc']
    exact Or.inr ⟨s, s', c, c', rfl, rfl, hlt, hlive, hlive', halike, hrel⟩

/-! ### Steps of module code -/

/-- Code that looks at a context is shown the same. -/
lemma view (h : InStep t size base base' e e') {i : Nat} (hi : i < size) :
    e.view ⟨t.left, i⟩ = e'.view ⟨t.right, i⟩ ∧ (e.view ⟨t.left, i⟩).key = t.key := by
  rcases h.contexts i with
    ⟨hnone, -⟩ | ⟨s, s', c, c', hctx, hctx', -, -, -, halike, hc⟩
  · obtain ⟨s, s', hs, -, -, -, halike⟩ := h.twins
    rw [context?_of_session? hs, Option.map_eq_none_iff, List.getElem?_eq_none_iff,
      halike.length] at hnone
    omega
  · unfold Engine.view
    rw [hctx, hctx']
    simp only [Option.map_some, Option.getD_some, Session.view, hc.module, hc.isInitialized,
      hc.hooks, halike.store, halike.key, halike.key', and_self]

/-- Registering a hook through a context. -/
lemma hook (h : InStep t size base base' e e') (i : Nat) (target : String) (priority : Int32)
    {handler handler' : Packet → Program σ}
    (hhandler : ∀ packet, Program.Alike t i (handler packet) (handler' packet)) :
    InStep t size base base' (e.hook ⟨t.left, i⟩ target priority handler).1
        (e'.hook ⟨t.right, i⟩ target priority handler').1 ∧
      ((e.hook ⟨t.left, i⟩ target priority handler).2 = none ∧
          (e'.hook ⟨t.right, i⟩ target priority handler').2 = none ∨
        ∃ id label, (e.hook ⟨t.left, i⟩ target priority handler).2 = some ⟨t.left, id, label⟩ ∧
          (e'.hook ⟨t.right, i⟩ target priority handler').2 = some ⟨t.right, id, label⟩) := by
  unfold Engine.hook
  rcases h.contexts i with
    ⟨hnone, hnone'⟩ | ⟨s, s', c, c', hctx, hctx', hi, hlive, hlive', halike, hc⟩
  · rw [hnone, hnone']
    exact ⟨h, Or.inl ⟨rfl, rfl⟩⟩
  · rw [hctx, hctx']
    simp only [← hc.isInitialized, hlive, hlive', Bool.not_true, Bool.false_eq_true, if_false]
    split
    · exact ⟨h.emit _ _, Or.inl ⟨rfl, rfl⟩⟩
    · rw [← halike.nextHook, ← hc.module]
      refine ⟨h.update (fun _ => rfl) (fun _ => rfl) fun s₁ s₁' _ _ hs => ?_,
        Or.inr ⟨_, _, rfl, rfl⟩⟩
      have hentered := hs.updateContext i (fun c => { c with hooks := c.hooks ++ [s.nextHook] })
        (fun c => { c with hooks := c.hooks ++ [s.nextHook] })
        fun d d' hd => { hd with hooks := congrArg (· ++ [s.nextHook]) hd.hooks }
      have hnew : Hook.Alike t size ⟨s.nextHook, ⟨target, priority, c.module⟩, handler⟩
          ⟨s.nextHook, ⟨target, priority, c.module⟩, handler'⟩ := ⟨rfl, rfl, i, hi, hhandler⟩
      exact { hentered with
        nextHook := rfl
        hooks := List.rel_append hs.hooks (.cons hnew .nil) }

/-- Removing a hook of the session. -/
lemma unhook (h : InStep t size base base' e e') (id : Nat) (label : HookLabel) :
    InStep t size base base' (e.unhook ⟨t.left, id, label⟩) (e'.unhook ⟨t.right, id, label⟩) := by
  unfold Engine.unhook
  obtain ⟨s, s', hs, hs', hlive, hlive', halike⟩ := h.twins
  simp only [hs, hs', hlive, hlive', HookTable.contains_eq halike.hooks, Bool.not_true,
    Bool.false_eq_true, if_false]
  split
  · refine h.update (fun _ => rfl) (fun _ => rfl) fun s₁ s₁' _ _ hs₁ => ?_
    exact hs₁.withTable (HookTable.forall₂_remove hs₁.hooks id)
  · exact h.emit _ _

/-- Registering a path hook through a context, with a listener of the identity. -/
lemma pathHook (h : InStep t size base base' e e') (i : Nat) (path : String) {listener : String}
    (hown : t.own listener = true) (wantPayload : Bool) :
    InStep t size base base' (e.pathHook ⟨t.left, i⟩ path listener wantPayload).1
        (e'.pathHook ⟨t.right, i⟩ path listener wantPayload).1 ∧
      ((e.pathHook ⟨t.left, i⟩ path listener wantPayload).2 = none ∧
          (e'.pathHook ⟨t.right, i⟩ path listener wantPayload).2 = none ∨
        ∃ id module,
          (e.pathHook ⟨t.left, i⟩ path listener wantPayload).2 =
            some ⟨t.left, id, path, module⟩ ∧
          (e'.pathHook ⟨t.right, i⟩ path listener wantPayload).2 =
            some ⟨t.right, id, path, module⟩) := by
  unfold Engine.pathHook
  rcases h.contexts i with
    ⟨hnone, hnone'⟩ | ⟨s, s', c, c', hctx, hctx', -, -, -, halike, hc⟩
  · rw [hnone, hnone']
    exact ⟨h, Or.inl ⟨rfl, rfl⟩⟩
  · rw [hctx, hctx']
    simp only [← halike.store, ← hc.module]
    have hreserves := halike.reserves.hook path c.module hown wantPayload
    generalize s.store.hook path c.module listener wantPayload = answer at hreserves ⊢
    obtain ⟨store, id?, signals⟩ := answer
    have hstored : InStep t size base base'
        (e.updateSession t.left fun s => { s with store })
        (e'.updateSession t.right fun s => { s with store }) :=
      h.update (fun _ => rfl) (fun _ => rfl) fun _ _ _ _ hs => hs.withStore hreserves
    cases id? with
    | none => exact ⟨hstored.emit signals signals, Or.inl ⟨rfl, rfl⟩⟩
    | some id =>
      refine ⟨(hstored.emit signals signals).updateContext i _ _ fun d d' hd => ?_,
        Or.inr ⟨_, _, rfl, rfl⟩⟩
      exact { hd with pathHooks := congrArg (· ++ [id]) hd.pathHooks }

/-- Removing a path hook of the session. -/
lemma unhookPath (h : InStep t size base base' e e') (id : Nat) (path module : String) :
    InStep t size base base' (e.unhookPath ⟨t.left, id, path, module⟩)
      (e'.unhookPath ⟨t.right, id, path, module⟩) := by
  refine h.update (fun _ => rfl) (fun _ => rfl) fun s s' _ _ hs => ?_
  have hstore := hs.withStore (hs.reserves.unhook id)
  exact { hstore with store := congrArg (·.unhook id) hs.store }

/-- Setting the callback of a context. -/
lemma onShutdown (h : InStep t size base base' e e') (i : Nat)
    {callback callback' : Bool → Program σ}
    (hcallback : ∀ processEnds,
      Program.Alike t i (callback processEnds) (callback' processEnds)) :
    InStep t size base base' (e.onShutdown ⟨t.left, i⟩ callback)
      (e'.onShutdown ⟨t.right, i⟩ callback') := by
  unfold Engine.onShutdown
  rcases h.contexts i with
    ⟨hnone, hnone'⟩ | ⟨s, s', c, c', hctx, hctx', -, -, -, -, hc⟩
  · rw [hnone, hnone']
    exact h
  · rw [hctx, hctx']
    have hset := h.updateContext i (fun c => { c with shutdown := some callback })
      (fun c => { c with shutdown := some callback' })
      fun d d' hd => { hd with shutdown := .some hcallback }
    have hsame : c.shutdown.isSome = c'.shutdown.isSome := by
      rcases optionRel_cases hc.shutdown with ⟨hf, hf'⟩ | ⟨f, f', hf, hf', -⟩
      · rw [hf, hf']
      · rw [hf, hf']
        rfl
    simp only [hsame, hc.module]
    split
    · exact hset.emit _ _
    · exact hset

/-- Code that does the same ends in the same way, and leaves the sessions alike. -/
theorem run (h : InStep t size base base' e e') {i : Nat} (hi : i < size) {p p' : Program σ}
    (hp : Program.Alike t i p p') :
    (e.run p).2 = (e'.run p').2 ∧ InStep t size base base' (e.run p).1 (e'.run p').1 := by
  induction hp generalizing e e' with
  | finish output => exact ⟨rfl, h⟩
  | fail fault => exact ⟨rfl, h⟩
  | «recall» _ ih => exact ih e.memory e'.memory h
  | remember change change' _ ih => exact ih (h.congr rfl rfl rfl rfl)
  | inspect _ ih =>
    obtain ⟨hview, hkey⟩ := h.view hi
    rw [Engine.run, Engine.run, ← hview]
    exact ih (e.view ⟨t.left, i⟩) hkey h
  | hook target priority hhandler _ _ _ ihnone ihsome =>
    obtain ⟨hstep, ⟨hanswer, hanswer'⟩ | ⟨id, label, hanswer, hanswer'⟩⟩ :=
      h.hook i target priority hhandler
    · simp only [Engine.run, hanswer, hanswer']
      exact ihnone hstep
    · simp only [Engine.run, hanswer, hanswer']
      exact ihsome id label hstep
  | unhook id label _ ih => exact ih (h.unhook id label)
  | pathHook path wantPayload hown _ _ ihnone ihsome =>
    obtain ⟨hstep, ⟨hanswer, hanswer'⟩ | ⟨id, module, hanswer, hanswer'⟩⟩ :=
      h.pathHook i path hown wantPayload
    · simp only [Engine.run, hanswer, hanswer']
      exact ihnone hstep
    · simp only [Engine.run, hanswer, hanswer']
      exact ihsome id module hstep
  | unhookPath id path module _ ih => exact ih (h.unhookPath id path module)
  | onShutdown hcallback _ _ ih => exact ih (h.onShutdown i hcallback)

end InStep

end Engine

end Intercept
