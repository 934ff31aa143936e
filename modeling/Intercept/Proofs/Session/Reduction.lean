import Intercept.Proofs.Session.InStep
import Intercept.Proofs.Session.Growth
import Intercept.Proofs.Store.Renumbered

/-!
# Sessions without some of the modules

A session is compared with one that was started without some of its modules. Contexts, packet hooks
and path hooks have other numbers there: those of the first session that belong to modules of both
are kept, the others are skipped (`Kept`). What a number is does not matter to code, which uses it to
name something that it was given. So the code of a module does the same in both sessions, but for
numbers (`Program.Reduces`), and the memories differ in numbers only, and in what the missing modules
put there.

The sessions are then the same, but for numbers and for what is missing (`Session.Reduces`). Main
statement: they remain so while such code runs, and the code ends in the same way (`Reduces.run`),
provided that no registration is refused for want of room, since what has been taken back may still
take up room in the queue of the first session.
-/

namespace Intercept

variable {σ : Type}

/-- Which of the numbers that a session gives belong to modules of both sessions. -/
structure Kept where
  context : Nat → Bool
  hook : Nat → Bool
  path : Nat → Bool

/-- The comparison of a session with one that has fewer modules: their number in two engines, the
listeners of the modules of both, the numbers that are kept, and which memories look the same to
the modules of both. -/
structure Reduction (σ : Type) where
  session : Nat
  own : String → Bool
  kept : Kept
  sees : σ → σ → Prop

/-- Two pieces of code do the same in two sessions, but for numbers. -/
inductive Program.Reduces (t : Reduction σ) : Program σ → Program σ → Prop
  | finish (output : ByteArray) : Reduces t (.finish output) (.finish output)
  | fail (fault : Fault) : Reduces t (.fail fault) (.fail fault)
  | «recall» {next next' : σ → Program σ}
      (hnext : ∀ m m', t.sees m m' → Reduces t (next m) (next' m')) :
      Reduces t (.recall next) (.recall next')
  | remember {change change' : σ → σ} {next next' : Program σ}
      (hchange : ∀ m m', t.sees m m' → t.sees (change m) (change' m'))
      (hnext : Reduces t next next') : Reduces t (.remember change next) (.remember change' next')
  | inspect {i : Nat} {next next' : ContextView → Program σ} (hi : t.kept.context i = true)
      (hnext : ∀ v, Reduces t (next v) (next' v)) :
      Reduces t (.inspect ⟨t.session, i⟩ next)
        (.inspect ⟨t.session, rank t.kept.context i⟩ next')
  | hook {i : Nat} (target : String) (priority : Int32) {handler handler' : Packet → Program σ}
      {next next' : Option HookHandle → Program σ} (hi : t.kept.context i = true)
      (hhandler : ∀ packet, Reduces t (handler packet) (handler' packet))
      (hnone : Reduces t (next none) (next' none))
      (hsome : ∀ id label, t.kept.hook id = true →
        Reduces t (next (some ⟨t.session, id, label⟩))
          (next' (some ⟨t.session, rank t.kept.hook id, label⟩))) :
      Reduces t (.hook ⟨t.session, i⟩ target priority handler next)
        (.hook ⟨t.session, rank t.kept.context i⟩ target priority handler' next')
  | unhook {id : Nat} (label : HookLabel) {next next' : Program σ} (hid : t.kept.hook id = true)
      (hnext : Reduces t next next') :
      Reduces t (.unhook ⟨t.session, id, label⟩ next)
        (.unhook ⟨t.session, rank t.kept.hook id, label⟩ next')
  | pathHook {i : Nat} (path : String) {listener : String} (wantPayload : Bool)
      {next next' : Option PathHookHandle → Program σ} (hi : t.kept.context i = true)
      (hown : t.own listener = true) (hnone : Reduces t (next none) (next' none))
      (hsome : ∀ id module, t.kept.path id = true →
        Reduces t (next (some ⟨t.session, id, path, module⟩))
          (next' (some ⟨t.session, rank t.kept.path id, path, module⟩))) :
      Reduces t (.pathHook ⟨t.session, i⟩ path listener wantPayload next)
        (.pathHook ⟨t.session, rank t.kept.context i⟩ path listener wantPayload next')
  | unhookPath {id : Nat} (path module : String) {next next' : Program σ}
      (hid : t.kept.path id = true) (hnext : Reduces t next next') :
      Reduces t (.unhookPath ⟨t.session, id, path, module⟩ next)
        (.unhookPath ⟨t.session, rank t.kept.path id, path, module⟩ next')
  | onShutdown {i : Nat} {callback callback' : Bool → Program σ} {next next' : Program σ}
      (hi : t.kept.context i = true)
      (hcallback : ∀ processEnds, Reduces t (callback processEnds) (callback' processEnds))
      (hnext : Reduces t next next') :
      Reduces t (.onShutdown ⟨t.session, i⟩ callback next)
        (.onShutdown ⟨t.session, rank t.kept.context i⟩ callback' next')

/-- Hooks that do the same, under a number that is kept. -/
structure Hook.Reduces (t : Reduction σ) (h h' : Hook (Packet → Program σ)) : Prop where
  kept : t.kept.hook h.id = true
  id : h'.id = rank t.kept.hook h.id
  label : h.label = h'.label
  handler : ∀ packet, Program.Reduces t (h.handler packet) (h'.handler packet)

/-- Contexts that agree, but for numbers. -/
structure Context.Reduces (t : Reduction σ) (c c' : Context σ) : Prop where
  module : c'.module = c.module
  isInitialized : c'.isInitialized = c.isInitialized
  hooks : c'.hooks = c.hooks.map (rank t.kept.hook)
  hooksKept : ∀ id ∈ c.hooks, t.kept.hook id = true
  pathHooks : c'.pathHooks = c.pathHooks.map (rank t.kept.path)
  pathHooksKept : ∀ id ∈ c.pathHooks, t.kept.path id = true
  shutdown : Option.Rel
    (fun f f' => ∀ processEnds, Program.Reduces t (f processEnds) (f' processEnds))
    c.shutdown c'.shutdown

/-- The second session is the first one without the modules whose contexts are not kept. -/
structure Session.Reduces (t : Reduction σ) (s s' : Session σ) : Prop where
  key : s'.key = s.key
  isAlive : s'.isAlive = s.isAlive
  store : Store.Reduces t.own t.kept.path s.store s'.store
  modules : s'.modules = s.modules.map (rank t.kept.context)
  modulesKept : ∀ i ∈ s.modules, t.kept.context i = true
  length : s'.contexts.length = rank t.kept.context s.contexts.length
  contexts : ∀ i, t.kept.context i = true →
    Option.Rel (Context.Reduces t) s.contexts[i]? s'.contexts[rank t.kept.context i]?
  hooks : List.Forall₂ (Hook.Reduces t) s.table.hooks s'.table.hooks
  below : ∀ h ∈ s.table.hooks, h.id < s.nextHook
  nextHook : s'.nextHook = rank t.kept.hook s.nextHook

namespace Session.Reduces

variable {t : Reduction σ} {s s' : Session σ}

/-- The same change of a context that is kept. -/
lemma updateContext (h : Reduces t s s') {i : Nat} (hi : t.kept.context i = true)
    {f g : Context σ → Context σ}
    (hf : ∀ c c', Context.Reduces t c c' → Context.Reduces t (f c) (g c')) :
    Reduces t (s.updateContext i f) (s'.updateContext (rank t.kept.context i) g) where
  key := h.key
  isAlive := h.isAlive
  store := h.store
  modules := h.modules
  modulesKept := h.modulesKept
  length := by
    change (s'.contexts.modify _ g).length = rank t.kept.context (s.contexts.modify i f).length
    rw [List.length_modify, List.length_modify]
    exact h.length
  contexts j hj := by
    change Option.Rel _ (s.contexts.modify i f)[j]? (s'.contexts.modify _ g)[_]?
    rw [List.getElem?_modify, List.getElem?_modify]
    simp only [rank_inj hi hj]
    rcases optionRel_cases (h.contexts j hj) with ⟨hc, hc'⟩ | ⟨c, c', hc, hc', hrel⟩
    · rw [hc, hc']
      exact .none
    · rw [hc, hc']
      refine .some ?_
      split
      · exact hf c c' hrel
      · exact hrel
  hooks := h.hooks
  below := h.below
  nextHook := h.nextHook

/-- Whether a hook is there. -/
lemma contains (h : Reduces t s s') {id : Nat} (hid : t.kept.hook id = true) :
    s'.table.contains (rank t.kept.hook id) = s.table.contains id := by
  have hhooks := h.hooks
  unfold HookTable.contains
  generalize s.table.hooks = hooks at hhooks ⊢
  generalize s'.table.hooks = hooks' at hhooks ⊢
  induction hhooks with
  | nil => rfl
  | @cons g g' _ _ hg _ ih =>
    rw [List.any_cons, List.any_cons, ih, hg.id]
    exact congrArg (· || _) (decide_eq_decide.2 (rank_inj hg.kept hid))

/-- Removing a hook. -/
lemma remove (h : Reduces t s s') {id : Nat} (hid : t.kept.hook id = true) :
    Reduces t { s with table := s.table.remove id }
      { s' with table := s'.table.remove (rank t.kept.hook id) } where
  key := h.key
  isAlive := h.isAlive
  store := h.store
  modules := h.modules
  modulesKept := h.modulesKept
  length := h.length
  contexts := h.contexts
  hooks := by
    refine HookTable.forall₂_filter (fun g g' hg => ?_) h.hooks
    rw [hg.id]
    exact decide_eq_decide.2 (not_congr (rank_inj hg.kept hid)).symm
  below g hg := h.below g (List.mem_of_mem_filter hg)
  nextHook := h.nextHook

/-- Another store on both sides. -/
lemma withStore (h : Reduces t s s') {store store' : Store}
    (hstore : Store.Reduces t.own t.kept.path store store') :
    Reduces t { s with store } { s' with store := store' } :=
  { h with store := hstore }

end Session.Reduces

namespace Engine

/-- The second engine is the first one without the modules whose contexts are not kept, and of the
listeners that are not of the others none has received anything since `base`. -/
structure Reduces (t : Reduction σ) (base : Listeners) (e e' : Engine σ) : Prop where
  sessions : ∃ s s', e.session? t.session = some s ∧ e'.session? t.session = some s' ∧
    Session.Reduces t s s'
  listeners : e'.listeners = e.listeners
  idle : ∀ name, t.own name = false → e.listeners.find? name = base.find? name
  memory : t.sees e.memory e'.memory

/-- Between two engines, one after the other, the numbers that were given are kept, and no
registration was refused for want of room. -/
structure Smooth (t : Reduction σ) (e e₁ : Engine σ) : Prop where
  contexts : ∀ i, (e.counters t.session).contexts ≤ i → i < (e₁.counters t.session).contexts →
    t.kept.context i = true
  hooks : ∀ id, (e.counters t.session).hooks ≤ id → id < (e₁.counters t.session).hooks →
    t.kept.hook id = true
  paths : ∀ id, (e.counters t.session).paths ≤ id → id < (e₁.counters t.session).paths →
    t.kept.path id = true
  refusals : e₁.refusals = e.refusals

namespace Smooth

variable {t : Reduction σ} {e e₁ e₂ : Engine σ}

/-- The first part of a time in which all goes well. -/
lemma first (h : Smooth t e e₂) (hfirst : Grows t.session e e₁) (hrest : Grows t.session e₁ e₂) :
    Smooth t e e₁ where
  contexts i hle hlt := h.contexts i hle (Nat.lt_of_lt_of_le hlt hrest.contexts)
  hooks id hle hlt := h.hooks id hle (Nat.lt_of_lt_of_le hlt hrest.hooks)
  paths id hle hlt := h.paths id hle (Nat.lt_of_lt_of_le hlt hrest.paths)
  refusals := Nat.le_antisymm (h.refusals ▸ hrest.refusals) hfirst.refusals

/-- The rest of a time in which all goes well. -/
lemma rest (h : Smooth t e e₂) (hfirst : Grows t.session e e₁) (hrest : Grows t.session e₁ e₂) :
    Smooth t e₁ e₂ where
  contexts i hle hlt := h.contexts i (Nat.le_trans hfirst.contexts hle) hlt
  hooks id hle hlt := h.hooks id (Nat.le_trans hfirst.hooks hle) hlt
  paths id hle hlt := h.paths id (Nat.le_trans hfirst.paths hle) hlt
  refusals := h.refusals.trans (h.first hfirst hrest).refusals.symm

end Smooth

namespace Reduces

variable {t : Reduction σ} {base : Listeners} {e e' : Engine σ}

/-- Whatever is emitted. -/
lemma emit (h : Reduces t base e e') (signals signals' : List Signal) :
    Reduces t base (e.emit signals) (e'.emit signals') :=
  ⟨h.sessions, h.listeners, h.idle, h.memory⟩

/-- Changes of the two sessions that keep what is common to them. -/
lemma update (h : Reduces t base e e') {f f' : Session σ → Session σ}
    (hf : ∀ s s', e.session? t.session = some s → e'.session? t.session = some s' →
      Session.Reduces t s s' → Session.Reduces t (f s) (f' s')) :
    Reduces t base (e.updateSession t.session f) (e'.updateSession t.session f') where
  sessions := by
    obtain ⟨s, s', hs, hs', hrel⟩ := h.sessions
    refine ⟨f s, f' s', ?_, ?_, hf s s' hs hs' hrel⟩
    · rw [session?_updateSession, if_pos rfl, hs, Option.map_some]
    · rw [session?_updateSession, if_pos rfl, hs', Option.map_some]
  listeners := h.listeners
  idle := h.idle
  memory := h.memory

/-- The same change of a context that is kept. -/
lemma updateContext (h : Reduces t base e e') {i : Nat} (hi : t.kept.context i = true)
    {f g : Context σ → Context σ}
    (hf : ∀ c c', Context.Reduces t c c' → Context.Reduces t (f c) (g c')) :
    Reduces t base (e.updateSession t.session fun s => s.updateContext i f)
      (e'.updateSession t.session fun s => s.updateContext (rank t.kept.context i) g) :=
  h.update fun _ _ _ _ hs => hs.updateContext hi hf

/-- Both sessions have a context that is kept, or neither does. -/
lemma contexts (h : Reduces t base e e') {i : Nat} (hi : t.kept.context i = true) :
    (e.context? ⟨t.session, i⟩ = none ∧
      e'.context? ⟨t.session, rank t.kept.context i⟩ = none) ∨
    ∃ s s' c c', e.context? ⟨t.session, i⟩ = some (s, c) ∧
      e'.context? ⟨t.session, rank t.kept.context i⟩ = some (s', c') ∧
      Session.Reduces t s s' ∧ Context.Reduces t c c' := by
  obtain ⟨s, s', hs, hs', hrel⟩ := h.sessions
  rw [context?_of_session? hs, context?_of_session? hs']
  rcases optionRel_cases (hrel.contexts i hi) with ⟨hc, hc'⟩ | ⟨c, c', hc, hc', hctx⟩
  · rw [hc, hc']
    exact Or.inl ⟨rfl, rfl⟩
  · rw [hc, hc']
    exact Or.inr ⟨s, s', c, c', rfl, rfl, hrel, hctx⟩

/-! ### Steps of module code -/

/-- Code that looks at a context is shown the same. -/
lemma view (h : Reduces t base e e') {i : Nat} (hi : t.kept.context i = true) :
    e'.view ⟨t.session, rank t.kept.context i⟩ = e.view ⟨t.session, i⟩ := by
  unfold Engine.view
  rcases h.contexts hi with ⟨hctx, hctx'⟩ | ⟨s, s', c, c', hctx, hctx', hs, hc⟩
  · rw [hctx, hctx']
  · rw [hctx, hctx']
    simp only [Option.map_some, Option.getD_some, Session.view, hc.module, hc.isInitialized,
      hc.hooks, List.length_map, hs.store.loaded?, hs.key]

/-- Registering a hook through a context that is kept. -/
lemma hook (h : Reduces t base e e') {i : Nat} (hi : t.kept.context i = true) (target : String)
    (priority : Int32) {handler handler' : Packet → Program σ}
    (hhandler : ∀ packet, Program.Reduces t (handler packet) (handler' packet))
    (hsmooth : Smooth t e (e.hook ⟨t.session, i⟩ target priority handler).1) :
    Reduces t base (e.hook ⟨t.session, i⟩ target priority handler).1
        (e'.hook ⟨t.session, rank t.kept.context i⟩ target priority handler').1 ∧
      ((e.hook ⟨t.session, i⟩ target priority handler).2 = none ∧
          (e'.hook ⟨t.session, rank t.kept.context i⟩ target priority handler').2 = none ∨
        ∃ id label, t.kept.hook id = true ∧
          (e.hook ⟨t.session, i⟩ target priority handler).2 = some ⟨t.session, id, label⟩ ∧
          (e'.hook ⟨t.session, rank t.kept.context i⟩ target priority handler').2 =
            some ⟨t.session, rank t.kept.hook id, label⟩) := by
  unfold Engine.hook at hsmooth ⊢
  rcases h.contexts hi with ⟨hctx, hctx'⟩ | ⟨s, s', c, c', hctx, hctx', hrel, hc⟩
  · rw [hctx, hctx']
    exact ⟨h, Or.inl ⟨rfl, rfl⟩⟩
  · obtain ⟨hs, -⟩ := context?_eq_some.1 hctx
    rw [hctx] at hsmooth
    rw [hctx, hctx']
    simp only [hc.isInitialized, hrel.isAlive] at hsmooth ⊢
    split
    · exact ⟨h.emit _ _, Or.inl ⟨rfl, rfl⟩⟩
    · next hopen =>
      rw [if_neg hopen] at hsmooth
      split
      · exact ⟨h.emit _ _, Or.inl ⟨rfl, rfl⟩⟩
      · next halive =>
        rw [if_neg halive] at hsmooth
        have hnew : t.kept.hook s.nextHook = true := by
          refine hsmooth.hooks s.nextHook ?_ ?_
          · rw [counters_of_session? hs]
            exact Nat.le_refl _
          · rw [counters, session?_updateSession, if_pos rfl, hs]
            exact Nat.lt_succ_self _
        rw [hrel.nextHook, hc.module]
        refine ⟨h.update fun s₁ s₁' hs₁ _ hrel₁ => ?_, Or.inr ⟨_, _, hnew, rfl, rfl⟩⟩
        obtain rfl : s = s₁ := Option.some.inj (hs.symm.trans hs₁)
        have hentered := hrel₁.updateContext hi
          (f := fun c => { c with hooks := c.hooks ++ [s.nextHook] })
          (g := fun c => { c with hooks := c.hooks ++ [rank t.kept.hook s.nextHook] })
          fun d d' hd => { hd with
            hooks := by rw [hd.hooks, List.map_append]; rfl
            hooksKept := fun id hid => by
              rcases List.mem_append.1 hid with hold | hlast
              · exact hd.hooksKept id hold
              · rwa [List.mem_singleton.1 hlast] }
        have hhook : Hook.Reduces t ⟨s.nextHook, ⟨target, priority, c.module⟩, handler⟩
            ⟨rank t.kept.hook s.nextHook, ⟨target, priority, c.module⟩, handler'⟩ :=
          ⟨hnew, rfl, rfl, hhandler⟩
        exact { hentered with
          hooks := List.rel_append hrel₁.hooks (.cons hhook .nil)
          below := fun g hg => by
            rcases List.mem_append.1 hg with hold | hlast
            · exact Nat.lt_succ_of_lt (hrel₁.below g hold)
            · rw [List.mem_singleton.1 hlast]
              exact Nat.lt_succ_self _
          nextHook := (rank_succ hnew).symm }

/-- Removing a hook that is kept. -/
lemma unhook (h : Reduces t base e e') {id : Nat} (hid : t.kept.hook id = true)
    (label : HookLabel) :
    Reduces t base (e.unhook ⟨t.session, id, label⟩)
      (e'.unhook ⟨t.session, rank t.kept.hook id, label⟩) := by
  unfold Engine.unhook
  obtain ⟨s, s', hs, hs', hrel⟩ := h.sessions
  simp only [hs, hs', hrel.isAlive, hrel.contains hid]
  split
  · exact h
  · split
    · exact h.update fun _ _ _ _ hrel₁ => hrel₁.remove hid
    · exact h.emit _ _

/-- Registering a path hook through a context that is kept, where there is room. -/
lemma pathHook (h : Reduces t base e e') {i : Nat} (hi : t.kept.context i = true) (path : String)
    {listener : String} (hown : t.own listener = true) (wantPayload : Bool)
    (hsmooth : Smooth t e (e.pathHook ⟨t.session, i⟩ path listener wantPayload).1) :
    Reduces t base (e.pathHook ⟨t.session, i⟩ path listener wantPayload).1
        (e'.pathHook ⟨t.session, rank t.kept.context i⟩ path listener wantPayload).1 ∧
      ((e.pathHook ⟨t.session, i⟩ path listener wantPayload).2 = none ∧
          (e'.pathHook ⟨t.session, rank t.kept.context i⟩ path listener wantPayload).2 = none ∨
        ∃ id module, t.kept.path id = true ∧
          (e.pathHook ⟨t.session, i⟩ path listener wantPayload).2 =
            some ⟨t.session, id, path, module⟩ ∧
          (e'.pathHook ⟨t.session, rank t.kept.context i⟩ path listener wantPayload).2 =
            some ⟨t.session, rank t.kept.path id, path, module⟩) := by
  rcases h.contexts hi with ⟨hctx, hctx'⟩ | ⟨s, s', c, c', hctx, hctx', hrel, hc⟩
  · unfold Engine.pathHook
    rw [hctx, hctx']
    exact ⟨h, Or.inl ⟨rfl, rfl⟩⟩
  · obtain ⟨hs, -⟩ := context?_eq_some.1 hctx
    obtain ⟨hs', -⟩ := context?_eq_some.1 hctx'
    rcases pathHook_cases hctx path listener wantPayload with ⟨hroom, heq⟩ | ⟨-, heq⟩
    · have hnew : t.kept.path s.store.nextId = true := by
        rw [heq] at hsmooth
        refine hsmooth.paths s.store.nextId ?_ ?_
        · rw [counters_of_session? hs]
          exact Nat.le_refl _
        · rw [counters, session?_updateSession, if_pos rfl, hs]
          exact Nat.lt_succ_self _
      have hroom' : s'.store.queue.length < s'.store.queueRoom := hrel.store.hasRoom hroom
      rcases pathHook_cases hctx' path listener wantPayload with ⟨-, heq'⟩ | ⟨hfull, -⟩
      · rw [heq, heq', hc.module, hrel.store.nextId]
        refine ⟨h.update fun s₁ s₁' _ _ hrel₁ => ?_, Or.inr ⟨_, _, hnew, rfl, rfl⟩⟩
        refine Session.Reduces.withStore ?_
          (hrel.store.concat hnew path c.module hown wantPayload)
        refine hrel₁.updateContext hi fun d d' hd => { hd with
          pathHooks := by rw [hd.pathHooks, List.map_append]; rfl
          pathHooksKept := fun id hid => ?_ }
        rcases List.mem_append.1 hid with hold | hlast
        · exact hd.pathHooksKept id hold
        · rwa [List.mem_singleton.1 hlast]
      · exact absurd hroom' (Nat.not_lt_of_le hfull)
    · -- The first queue is full, which is on record.
      have hrefused := hsmooth.refusals
      rw [heq, refusals_emit] at hrefused
      exact absurd hrefused (Nat.succ_ne_self _)

/-- Removing a path hook that is kept. -/
lemma unhookPath (h : Reduces t base e e') {id : Nat} (hid : t.kept.path id = true)
    (path module : String) :
    Reduces t base (e.unhookPath ⟨t.session, id, path, module⟩)
      (e'.unhookPath ⟨t.session, rank t.kept.path id, path, module⟩) :=
  h.update fun _ _ _ _ hrel => hrel.withStore (hrel.store.unhook hid)

/-- Setting the callback of a context that is kept. -/
lemma onShutdown (h : Reduces t base e e') {i : Nat} (hi : t.kept.context i = true)
    {callback callback' : Bool → Program σ}
    (hcallback : ∀ processEnds, Program.Reduces t (callback processEnds) (callback' processEnds)) :
    Reduces t base (e.onShutdown ⟨t.session, i⟩ callback)
      (e'.onShutdown ⟨t.session, rank t.kept.context i⟩ callback') := by
  unfold Engine.onShutdown
  rcases h.contexts hi with ⟨hctx, hctx'⟩ | ⟨s, s', c, c', hctx, hctx', -, hc⟩
  · rw [hctx, hctx']
    exact h
  · rw [hctx, hctx']
    have hset := h.updateContext hi (f := fun c => { c with shutdown := some callback })
      (g := fun c => { c with shutdown := some callback' })
      fun d d' hd => { hd with shutdown := .some hcallback }
    have hsame : c'.shutdown.isSome = c.shutdown.isSome := by
      rcases optionRel_cases hc.shutdown with ⟨hf, hf'⟩ | ⟨f, f', hf, hf', -⟩
      · rw [hf, hf']
      · rw [hf, hf']
        rfl
    simp only [hsame]
    split
    · exact hset.emit _ _
    · exact hset

/-- Code that does the same, but for numbers, ends in the same way. -/
theorem run (h : Reduces t base e e') {p p' : Program σ} (hp : Program.Reduces t p p')
    (hsmooth : Smooth t e (e.run p).1) :
    (e'.run p').2 = (e.run p).2 ∧ Reduces t base (e.run p).1 (e'.run p').1 := by
  induction hp generalizing e e' with
  | finish output => exact ⟨rfl, h⟩
  | fail fault => exact ⟨rfl, h⟩
  | «recall» _ ih => exact ih e.memory e'.memory h.memory h hsmooth
  | @remember change change' next next' hchange _ ih =>
    have hset : Grows t.session e { e with memory := change e.memory } := .of_eq rfl rfl
    have hchanged : Reduces t base { e with memory := change e.memory }
        { e' with memory := change' e'.memory } :=
      ⟨h.sessions, h.listeners, h.idle, hchange _ _ h.memory⟩
    exact ih hchanged (hsmooth.rest hset (.run _ _ _))
  | @inspect i next next' hi _ ih =>
    rw [Engine.run, Engine.run, h.view hi]
    exact ih (e.view ⟨t.session, i⟩) h hsmooth
  | @hook i target priority handler handler' next next' hi hhandler _ _ _ ihnone ihsome =>
    have hfirst := Grows.hook t.session e ⟨t.session, i⟩ target priority handler
    have hrest := Grows.run t.session (e.hook ⟨t.session, i⟩ target priority handler).1
      (next (e.hook ⟨t.session, i⟩ target priority handler).2)
    obtain ⟨hstep, ⟨hanswer, hanswer'⟩ | ⟨id, label, hid, hanswer, hanswer'⟩⟩ :=
      h.hook hi target priority hhandler (hsmooth.first hfirst hrest)
    · simp only [Engine.run, hanswer, hanswer'] at hsmooth hrest ⊢
      exact ihnone hstep (hsmooth.rest hfirst hrest)
    · simp only [Engine.run, hanswer, hanswer'] at hsmooth hrest ⊢
      exact ihsome id label hid hstep (hsmooth.rest hfirst hrest)
  | @unhook id label next next' hid _ ih =>
    have hfirst := Grows.unhook t.session e ⟨t.session, id, label⟩
    exact ih (h.unhook hid label) (hsmooth.rest hfirst (.run _ _ _))
  | @pathHook i path listener wantPayload next next' hi hown _ _ ihnone ihsome =>
    have hfirst := Grows.pathHook t.session e ⟨t.session, i⟩ path listener wantPayload
    have hrest := Grows.run t.session (e.pathHook ⟨t.session, i⟩ path listener wantPayload).1
      (next (e.pathHook ⟨t.session, i⟩ path listener wantPayload).2)
    obtain ⟨hstep, ⟨hanswer, hanswer'⟩ | ⟨id, module, hid, hanswer, hanswer'⟩⟩ :=
      h.pathHook hi path hown wantPayload (hsmooth.first hfirst hrest)
    · simp only [Engine.run, hanswer, hanswer'] at hsmooth hrest ⊢
      exact ihnone hstep (hsmooth.rest hfirst hrest)
    · simp only [Engine.run, hanswer, hanswer'] at hsmooth hrest ⊢
      exact ihsome id module hid hstep (hsmooth.rest hfirst hrest)
  | @unhookPath id path module next next' hid _ ih =>
    have hfirst := Grows.unhookPath t.session e ⟨t.session, id, path, module⟩
    exact ih (h.unhookPath hid path module) (hsmooth.rest hfirst (.run _ _ _))
  | @onShutdown i callback callback' next next' hi hcallback _ _ ih =>
    have hfirst := Grows.onShutdown t.session e ⟨t.session, i⟩ callback
    exact ih (h.onShutdown hi hcallback) (hsmooth.rest hfirst (.run _ _ _))

end Reduces

end Engine

end Intercept
