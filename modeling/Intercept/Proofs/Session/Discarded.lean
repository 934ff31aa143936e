import Intercept.Proofs.Session.Live
import Intercept.Proofs.Session.Outlook

/-!
# Modules that are discarded

A module whose init function fails is discarded: what was registered through its context is taken
back. If the function has acted on its own context only (`Program.Secluded`), then everything that
it did to its session is either undone in this way or was undone by the function itself, which may
remove its own hooks, and nothing else has changed (`Session.Burdened`). What remains is a context
that takes no part, numbers that are not given again, and places in the queue of path hooks.

Main statement: to a session that was started without the module, the session is as before
(`Reduces.discard`).
-/

namespace Intercept

variable {σ : Type}

/-- Code that acts on one context only, after it has registered the hooks and path hooks with some
numbers through it: it looks at no other context, removes no other hooks, and changes the memory in
no way that is seen. -/
inductive Program.Secluded (sees : σ → σ → Prop) (ctx : ContextId) :
    List Nat → List Nat → Program σ → Prop
  | finish {hooks paths : List Nat} (output : ByteArray) :
      Secluded sees ctx hooks paths (.finish output)
  | fail {hooks paths : List Nat} (fault : Fault) : Secluded sees ctx hooks paths (.fail fault)
  | «recall» {hooks paths : List Nat} {next : σ → Program σ}
      (hnext : ∀ m, Secluded sees ctx hooks paths (next m)) :
      Secluded sees ctx hooks paths (.recall next)
  | remember {hooks paths : List Nat} {change : σ → σ} {next : Program σ}
      (hchange : ∀ m m', sees m m' → sees (change m) m')
      (hnext : Secluded sees ctx hooks paths next) :
      Secluded sees ctx hooks paths (.remember change next)
  | inspect {hooks paths : List Nat} {next : ContextView → Program σ}
      (hnext : ∀ v, Secluded sees ctx hooks paths (next v)) :
      Secluded sees ctx hooks paths (.inspect ctx next)
  | hook {hooks paths : List Nat} (target : String) (priority : Int32)
      (handler : Packet → Program σ) {next : Option HookHandle → Program σ}
      (hnone : Secluded sees ctx hooks paths (next none))
      (hsome : ∀ id label,
        Secluded sees ctx (id :: hooks) paths (next (some ⟨ctx.session, id, label⟩))) :
      Secluded sees ctx hooks paths (.hook ctx target priority handler next)
  | unhook {hooks paths : List Nat} {id : Nat} (hid : id ∈ hooks) (label : HookLabel)
      {next : Program σ} (hnext : Secluded sees ctx hooks paths next) :
      Secluded sees ctx hooks paths (.unhook ⟨ctx.session, id, label⟩ next)
  | pathHook {hooks paths : List Nat} (path listener : String) (wantPayload : Bool)
      {next : Option PathHookHandle → Program σ}
      (hnone : Secluded sees ctx hooks paths (next none))
      (hsome : ∀ id module,
        Secluded sees ctx hooks (id :: paths) (next (some ⟨ctx.session, id, path, module⟩))) :
      Secluded sees ctx hooks paths (.pathHook ctx path listener wantPayload next)
  | unhookPath {hooks paths : List Nat} {id : Nat} (hid : id ∈ paths) (path module : String)
      {next : Program σ} (hnext : Secluded sees ctx hooks paths next) :
      Secluded sees ctx hooks paths (.unhookPath ⟨ctx.session, id, path, module⟩ next)
  | onShutdown {hooks paths : List Nat} (callback : Bool → Program σ) {next : Program σ}
      (hnext : Secluded sees ctx hooks paths next) :
      Secluded sees ctx hooks paths (.onShutdown ctx callback next)

/-- A session after some code of a new context `c`, which is the last one. -/
structure Session.Burdened (s s₁ : Session σ) (c : Context σ) : Prop where
  key : s₁.key = s.key
  isAlive : s₁.isAlive = s.isAlive
  modules : s₁.modules = s.modules
  contexts : s₁.contexts = s.contexts ++ [c]
  table : ∃ extra, s₁.table.hooks = s.table.hooks ++ extra ∧ ∀ h ∈ extra, h.id ∈ c.hooks
  fresh : ∀ id ∈ c.hooks, s.nextHook ≤ id
  nextHook : s.nextHook ≤ s₁.nextHook
  store : s.store.Burdened s₁.store c.pathHooks

namespace Session.Burdened

variable {s s₁ : Session σ} {c : Context σ}

/-- The context is there. -/
lemma getElem? (h : Burdened s s₁ c) : s₁.contexts[s.contexts.length]? = some c := by
  rw [h.contexts, List.getElem?_concat_length]

/-- A change of the context that concerns neither kind of hooks. -/
lemma updateContext (h : Burdened s s₁ c) {f : Context σ → Context σ}
    (hhooks : ∀ c, (f c).hooks = c.hooks) (hpaths : ∀ c, (f c).pathHooks = c.pathHooks) :
    Burdened s (s₁.updateContext s.contexts.length f) (f c) :=
  { h with
    contexts := by
      change s₁.contexts.modify s.contexts.length f = _
      rw [h.contexts, modify_concat rfl]
    table := by
      rw [hhooks]
      exact h.table
    fresh := by
      rw [hhooks]
      exact h.fresh
    store := by
      rw [hpaths]
      exact h.store }

/-- One more hook. -/
lemma hook (h : Burdened s s₁ c) (label : HookLabel) (handler : Packet → Program σ) :
    Burdened s
      { s₁.updateContext s.contexts.length fun c =>
          { c with hooks := c.hooks ++ [s₁.nextHook] } with
        table := s₁.table.insert ⟨s₁.nextHook, label, handler⟩
        nextHook := s₁.nextHook + 1 }
      { c with hooks := c.hooks ++ [s₁.nextHook] } :=
  { h with
    contexts := by
      change s₁.contexts.modify s.contexts.length _ = _
      rw [h.contexts, modify_concat rfl]
    table := by
      obtain ⟨extra, htable, hextra⟩ := h.table
      refine ⟨extra ++ [⟨s₁.nextHook, label, handler⟩], ?_, fun g hg => ?_⟩
      · change s₁.table.hooks ++ _ = _
        rw [htable, List.append_assoc]
      · rcases List.mem_append.1 hg with hold | hnew
        · exact List.mem_append_left _ (hextra g hold)
        · rw [List.mem_singleton.1 hnew]
          exact List.mem_append_right _ List.mem_cons_self
    fresh := fun id hid => by
      rcases List.mem_append.1 hid with hold | hnew
      · exact h.fresh id hold
      · rw [List.mem_singleton.1 hnew]
        exact h.nextHook
    nextHook := Nat.le_succ_of_le h.nextHook }

/-- One of the hooks is removed. -/
lemma remove (h : Burdened s s₁ c) (hbelow : ∀ g ∈ s.table.hooks, g.id < s.nextHook) {id : Nat}
    (hid : s.nextHook ≤ id) : Burdened s { s₁ with table := s₁.table.remove id } c :=
  { h with
    table := by
      obtain ⟨extra, htable, hextra⟩ := h.table
      refine ⟨extra.filter fun g => g.id ≠ id, ?_, fun g hg =>
        hextra g (List.mem_of_mem_filter hg)⟩
      change s₁.table.hooks.filter _ = _
      rw [htable, List.filter_append]
      refine congrArg (· ++ _) (List.filter_eq_self.2 fun g hg => decide_eq_true fun heq => ?_)
      exact absurd (hbelow g hg) (Nat.not_lt_of_le (heq ▸ hid)) }

/-- One more path hook. -/
lemma pathHook (h : Burdened s s₁ c) (path module listener : String) (wantPayload : Bool) :
    Burdened s
      { s₁.updateContext s.contexts.length fun c =>
          { c with pathHooks := c.pathHooks ++ [s₁.store.nextId] } with
        store := { s₁.store with
          queue := s₁.store.queue ++
            [{ hook := { id := s₁.store.nextId, path, module, listener, wantPayload } }]
          nextId := s₁.store.nextId + 1 } }
      { c with pathHooks := c.pathHooks ++ [s₁.store.nextId] } :=
  { h with
    contexts := by
      change s₁.contexts.modify s.contexts.length _ = _
      rw [h.contexts, modify_concat rfl]
    store := h.store.concat path module listener wantPayload }

/-- When all of it is taken back, the session is as before to one that was started without the
module. -/
lemma takeBack (h : Burdened s s₁ c) {t : Reduction σ} {s' : Session σ} (hs : s.Reduces t s')
    (hcontext : t.kept.context s.contexts.length = false)
    (hhooks : rank t.kept.hook s₁.nextHook = rank t.kept.hook s.nextHook)
    (hpaths : rank t.kept.path s₁.store.nextId = rank t.kept.path s.store.nextId) :
    Session.Reduces t
      { s₁.updateContext s.contexts.length fun c => { c with hooks := [], pathHooks := [] } with
        table := c.hooks.foldl (fun t id => t.remove id) s₁.table
        store := c.pathHooks.foldl (fun st id => st.unhook id) s₁.store } s' := by
  have hcontexts : s₁.contexts.modify s.contexts.length
      (fun c => { c with hooks := [], pathHooks := [] }) =
        s.contexts ++ [{ c with hooks := [], pathHooks := [] }] := by
    rw [h.contexts, modify_concat rfl]
  have htable : (c.hooks.foldl (fun t id => t.remove id) s₁.table).hooks = s.table.hooks := by
    obtain ⟨extra, htable, hextra⟩ := h.table
    rw [Roster.hooks_foldl_remove, htable]
    exact filter_not_contains
      (fun g hg hid => Nat.not_lt_of_le (h.fresh g.id hid) (hs.below g hg)) hextra
  exact {
    key := hs.key.trans h.key.symm
    isAlive := hs.isAlive.trans h.isAlive.symm
    store := h.store.takeBack hs.store hpaths
    modules := hs.modules.trans (congrArg (List.map _) h.modules.symm)
    modulesKept := fun i hi => hs.modulesKept i (h.modules ▸ hi)
    length := by
      change s'.contexts.length =
        rank t.kept.context (s₁.contexts.modify s.contexts.length _).length
      rw [hcontexts, List.length_append, hs.length]
      refine (rank_of_skips (Nat.le_succ _) fun i hle hlt => ?_).symm
      rwa [Nat.le_antisymm (Nat.le_of_lt_succ hlt) hle]
    contexts := fun j hj => by
      change Option.Rel _ (s₁.contexts.modify s.contexts.length _)[j]? _
      -- The new context is not kept, so nobody asks for its counterpart.
      have hne : j ≠ s.contexts.length := by
        rintro rfl
        rw [hcontext] at hj
        contradiction
      have hsame : (s.contexts ++ [{ c with hooks := [], pathHooks := [] }])[j]? =
          s.contexts[j]? := by
        rcases Nat.lt_or_gt_of_ne hne with hlt | hgt
        · exact List.getElem?_append_left hlt
        · rw [List.getElem?_eq_none (Nat.le_of_lt hgt), List.getElem?_eq_none]
          rw [List.length_append]
          exact hgt
      rw [hcontexts, hsame]
      exact hs.contexts j hj
    hooks := htable ▸ hs.hooks
    below := fun g hg => Nat.lt_of_lt_of_le (hs.below g (htable ▸ hg)) h.nextHook
    nextHook := hs.nextHook.trans hhooks.symm }

end Session.Burdened

namespace Engine

/-- An engine after some code of a new context `c` of session `s`, that sends no events and changes
nothing in memory that is seen. -/
structure Burdened (t : Reduction σ) (e : Engine σ) (s : Session σ) (e₁ : Engine σ) : Prop where
  session : ∃ s₁ c, e₁.session? t.session = some s₁ ∧ s.Burdened s₁ c
  listeners : e₁.listeners = e.listeners
  memory : ∀ m', t.sees e.memory m' → t.sees e₁.memory m'

namespace Burdened

variable {t : Reduction σ} {e e₁ : Engine σ} {s : Session σ}

/-- Whatever is emitted. -/
lemma emit (h : Burdened t e s e₁) (signals : List Signal) : Burdened t e s (e₁.emit signals) :=
  ⟨h.session, h.listeners, h.memory⟩

/-- A change of the session. -/
lemma update (h : Burdened t e s e₁) {f : Session σ → Session σ}
    (hf : ∀ s₁ c, e₁.session? t.session = some s₁ → s.Burdened s₁ c → ∃ c', s.Burdened (f s₁) c') :
    Burdened t e s (e₁.updateSession t.session f) where
  session := by
    obtain ⟨s₁, c, hs₁, hburden⟩ := h.session
    obtain ⟨c', hburden'⟩ := hf s₁ c hs₁ hburden
    refine ⟨f s₁, c', ?_, hburden'⟩
    rw [session?_updateSession, if_pos rfl, hs₁, Option.map_some]
  listeners := h.listeners
  memory := h.memory

/-- Registering a hook through the context. -/
lemma hook (h : Burdened t e s e₁) (target : String) (priority : Int32)
    (handler : Packet → Program σ) :
    Burdened t e s (e₁.hook ⟨t.session, s.contexts.length⟩ target priority handler).1 ∧
      ∀ handle, (e₁.hook ⟨t.session, s.contexts.length⟩ target priority handler).2 = some handle →
        handle.session = t.session ∧ s.nextHook ≤ handle.id := by
  rcases e₁.hook_cases ⟨t.session, s.contexts.length⟩ target priority handler with
    ⟨s₁, c, hctx, -, -, heq⟩ | ⟨-, signals, heq⟩
  · obtain ⟨hs₁, -⟩ := context?_eq_some.1 hctx
    obtain ⟨s₂, c₂, hs₂, hburden⟩ := h.session
    obtain rfl : s₁ = s₂ := Option.some.inj (hs₁.symm.trans hs₂)
    rw [heq]
    refine ⟨h.update fun s₂ c₂ hs₂ hburden₂ => ?_, fun handle hhandle => ?_⟩
    · obtain rfl : s₁ = s₂ := Option.some.inj (hs₁.symm.trans hs₂)
      exact ⟨_, hburden₂.hook _ handler⟩
    · obtain rfl := Option.some.inj hhandle
      exact ⟨rfl, hburden.nextHook⟩
  · rw [heq]
    exact ⟨h.emit signals, fun handle hhandle => by contradiction⟩

/-- Removing one of the hooks. -/
lemma unhook (h : Burdened t e s e₁) (hbelow : ∀ g ∈ s.table.hooks, g.id < s.nextHook) {id : Nat}
    (hid : s.nextHook ≤ id) (label : HookLabel) :
    Burdened t e s (e₁.unhook ⟨t.session, id, label⟩) := by
  rcases e₁.unhook_cases ⟨t.session, id, label⟩ with ⟨-, -, -, heq⟩ | ⟨-, signals, heq⟩
  · rw [heq]
    exact h.update fun _ c _ hburden => ⟨c, hburden.remove hbelow hid⟩
  · rw [heq]
    exact h.emit signals

/-- Registering a path hook through the context. -/
lemma pathHook (h : Burdened t e s e₁) (path listener : String) (wantPayload : Bool) :
    Burdened t e s
        (e₁.pathHook ⟨t.session, s.contexts.length⟩ path listener wantPayload).1 ∧
      ∀ handle,
        (e₁.pathHook ⟨t.session, s.contexts.length⟩ path listener wantPayload).2 = some handle →
        handle.session = t.session ∧ handle.path = path ∧ s.store.nextId ≤ handle.id := by
  obtain ⟨s₁, c, hs₁, hburden⟩ := h.session
  have hctx : e₁.context? ⟨t.session, s.contexts.length⟩ = some (s₁, c) :=
    context?_eq_some.2 ⟨hs₁, hburden.getElem?⟩
  rcases pathHook_cases hctx path listener wantPayload with ⟨-, heq⟩ | ⟨-, heq⟩
  · rw [heq]
    refine ⟨h.update fun s₂ c₂ hs₂ hburden₂ => ?_, fun handle hhandle => ?_⟩
    · obtain rfl : s₁ = s₂ := Option.some.inj (hs₁.symm.trans hs₂)
      exact ⟨_, hburden₂.pathHook path c.module listener wantPayload⟩
    · obtain rfl := Option.some.inj hhandle
      exact ⟨rfl, rfl, hburden.store.nextId⟩
  · rw [heq]
    exact ⟨h.emit _, fun handle hhandle => by contradiction⟩

/-- Removing one of the path hooks. -/
lemma unhookPath (h : Burdened t e s e₁)
    (hbelow : ∀ g ∈ s.store.subscribers, g.id < s.store.nextId) {id : Nat}
    (hid : s.store.nextId ≤ id) (path module : String) :
    Burdened t e s (e₁.unhookPath ⟨t.session, id, path, module⟩) :=
  h.update fun _ c _ hburden => ⟨c, { hburden with store := hburden.store.unhook hbelow hid }⟩

/-- Setting the callback of the context. -/
lemma onShutdown (h : Burdened t e s e₁) (callback : Bool → Program σ) :
    Burdened t e s (e₁.onShutdown ⟨t.session, s.contexts.length⟩ callback) := by
  have hset := h.update (f := fun s₁ => s₁.updateContext s.contexts.length fun c =>
      { c with shutdown := some callback }) fun _ _ _ hburden =>
    ⟨_, hburden.updateContext (fun _ => rfl) fun _ => rfl⟩
  unfold Engine.onShutdown
  split
  · exact h
  · split
    · exact hset.emit _
    · exact hset

/-- Code that acts on the context only. -/
theorem run (h : Burdened t e s e₁) (hbelow : ∀ g ∈ s.table.hooks, g.id < s.nextHook)
    (hbelowPath : ∀ g ∈ s.store.subscribers, g.id < s.store.nextId) {hooks paths : List Nat}
    (hhooks : ∀ id ∈ hooks, s.nextHook ≤ id) (hpaths : ∀ id ∈ paths, s.store.nextId ≤ id)
    {p : Program σ}
    (hp : Program.Secluded t.sees ⟨t.session, s.contexts.length⟩ hooks paths p) :
    Burdened t e s (e₁.run p).1 := by
  induction hp generalizing e₁ with
  | finish output => exact h
  | fail fault => exact h
  | «recall» _ ih => exact ih e₁.memory h hhooks hpaths
  | remember hchange _ ih =>
    exact ih ⟨h.session, h.listeners, fun m' hm' => hchange _ _ (h.memory m' hm')⟩ hhooks hpaths
  | inspect _ ih => exact ih _ h hhooks hpaths
  | hook target priority handler _ _ ihnone ihsome =>
    obtain ⟨hstep, hanswer⟩ := h.hook target priority handler
    simp only [Engine.run]
    generalize e₁.hook _ target priority handler = w at hstep hanswer ⊢
    obtain ⟨e₂, answer⟩ := w
    cases answer with
    | none => exact ihnone hstep hhooks hpaths
    | some handle =>
      obtain ⟨hsession, hid⟩ := hanswer handle rfl
      obtain ⟨_, id, label⟩ := handle
      obtain rfl : _ = t.session := hsession
      exact ihsome id label hstep (List.forall_mem_cons.2 ⟨hid, hhooks⟩) hpaths
  | unhook hid label _ ih => exact ih (h.unhook hbelow (hhooks _ hid) label) hhooks hpaths
  | pathHook path listener wantPayload _ _ ihnone ihsome =>
    obtain ⟨hstep, hanswer⟩ := h.pathHook path listener wantPayload
    simp only [Engine.run]
    generalize e₁.pathHook _ path listener wantPayload = w at hstep hanswer ⊢
    obtain ⟨e₂, answer⟩ := w
    cases answer with
    | none => exact ihnone hstep hhooks hpaths
    | some handle =>
      obtain ⟨hsession, hpath, hid⟩ := hanswer handle rfl
      obtain ⟨_, id, _, module⟩ := handle
      obtain rfl : _ = t.session := hsession
      obtain rfl : _ = path := hpath
      exact ihsome id module hstep hhooks (List.forall_mem_cons.2 ⟨hid, hpaths⟩)
  | unhookPath hid path module _ ih =>
    exact ih (h.unhookPath hbelowPath (hpaths _ hid) path module) hhooks hpaths
  | onShutdown callback _ ih => exact ih (h.onShutdown callback) hhooks hpaths

end Burdened

/-! ### Initialising a module in vain -/

/-- Whether the init function of a module finishes if it is called now. -/
def accepts (e : Engine σ) (n : Nat) (module : ModuleDescriptor σ) : Bool :=
  (e.addContext n module.name).1.finishes (module.init (e.addContext n module.name).2)

/-- The numbers that were given between two engines, one after the other, are not kept. -/
structure Skipped (t : Reduction σ) (e e₁ : Engine σ) : Prop where
  contexts : ∀ i, (e.counters t.session).contexts ≤ i → i < (e₁.counters t.session).contexts →
    t.kept.context i = false
  hooks : ∀ id, (e.counters t.session).hooks ≤ id → id < (e₁.counters t.session).hooks →
    t.kept.hook id = false
  paths : ∀ id, (e.counters t.session).paths ≤ id → id < (e₁.counters t.session).paths →
    t.kept.path id = false

/-- The new context is the last one. -/
lemma addContext_snd {e : Engine σ} {n : Nat} {s : Session σ} (hs : e.session? n = some s)
    (module : String) : (e.addContext n module).2 = ⟨n, s.contexts.length⟩ := by
  unfold addContext
  simp only [hs, Option.map_some, Option.getD_some]

/-- If the init function of a module finishes, the module takes part; otherwise what it registered
is taken back. -/
lemma initModule_accepts {e : Engine σ} {n : Nat} {s : Session σ} (hs : e.session? n = some s)
    (key : SessionKey) (module : ModuleDescriptor σ) :
    let ctx : ContextId := ⟨n, s.contexts.length⟩
    let ran := (e.addContext n module.name).1.run (module.init ctx)
    (e.accepts n module = true ∧ (∃ output, ran.2 = .finished output) ∧
      e.initModule n key module = (ran.1.closeContext ctx).updateSession n fun s₁ =>
        { s₁ with modules := s₁.modules ++ [s.contexts.length] }) ∨
    (e.accepts n module = false ∧ ∃ fault, ran.2 = .failed fault ∧ e.initModule n key module =
      ((ran.1.closeContext ctx).note
        (.initFault module.name key.display fault.message)).rollBack ctx) := by
  intro ctx ran
  have hctx : (e.addContext n module.name).2 = ctx := addContext_snd hs module.name
  unfold accepts finishes
  cases hadd : e.addContext n module.name with
  | mk e₁ ctx₁ =>
    rw [hadd] at hctx
    obtain rfl : ctx₁ = ctx := hctx
    have hran : ran = e₁.run (module.init ctx) := by
      change (e.addContext n module.name).1.run _ = _
      rw [hadd]
    rw [hran]
    rcases initModule_cases e n key module hadd with
      ⟨e₂, output, hrun, heq⟩ | ⟨e₂, fault, hrun, heq⟩
    · simp only [hrun]
      exact Or.inl ⟨trivial, ⟨output, rfl⟩, heq⟩
    · simp only [hrun]
      exact Or.inr ⟨trivial, fault, rfl, heq⟩

/-- A module is given a context. -/
lemma Burdened.addContext {t : Reduction σ} {e : Engine σ} {s : Session σ}
    (hs : e.session? t.session = some s) (module : String) :
    Burdened t e s (e.addContext t.session module).1 where
  session := by
    refine ⟨{ s with contexts := s.contexts ++ [{ module }] }, { module }, ?_, ?_⟩
    · exact (session?_updateSession e t.session t.session _).trans (by rw [if_pos rfl, hs]; rfl)
    · exact ⟨rfl, rfl, rfl, rfl, ⟨[], (List.append_nil _).symm, fun _ h => by contradiction⟩,
        fun _ h => by contradiction, Nat.le_refl _, .refl s.store⟩
  listeners := rfl
  memory _ h := h

/-- To a session that was started without a module, nothing has changed when the module is
initialised in vain. -/
theorem Reduces.discard {t : Reduction σ} {base : Listeners} {e e' : Engine σ}
    (h : Reduces t base e e') (key : SessionKey) {module : ModuleDescriptor σ}
    (hinit : ∀ i, Program.Secluded t.sees ⟨t.session, i⟩ [] [] (module.init ⟨t.session, i⟩))
    (hfails : e.accepts t.session module = false)
    (hskipped : Skipped t e (e.initModule t.session key module)) :
    Reduces t base (e.initModule t.session key module) e' := by
  obtain ⟨s, s', hs, hs', hrel⟩ := h.sessions
  have hran := (Burdened.addContext hs module.name).run hrel.below
    (fun g hg => (hrel.store.kept g hg).2.1) (fun _ h => by contradiction)
    (fun _ h => by contradiction) (hinit s.contexts.length)
  rcases initModule_accepts hs key module with ⟨haccepts, -⟩ | ⟨-, fault, -, heq⟩
  · rw [hfails] at haccepts
    contradiction
  · have hclosed := hran.update (f := fun s₁ => s₁.updateContext s.contexts.length fun c =>
        { c with isInitialized := true }) fun _ _ _ hburden =>
      ⟨_, hburden.updateContext (fun _ => rfl) fun _ => rfl⟩
    have hnoted := hclosed.emit [.notice (.initFault module.name key.display fault.message)]
    obtain ⟨s₁, c, hs₁, hburden⟩ := hnoted.session
    set e₁ := Engine.emit _ [.notice (.initFault module.name key.display fault.message)]
    have hback : e.initModule t.session key module = e₁.updateSession t.session fun s₁ =>
        { s₁.updateContext s.contexts.length fun c => { c with hooks := [], pathHooks := [] } with
          table := c.hooks.foldl (fun t id => t.remove id) s₁.table
          store := c.pathHooks.foldl (fun st id => st.unhook id) s₁.store } := by
      have hctx : e₁.context? ⟨t.session, s.contexts.length⟩ = some (s₁, c) :=
        context?_eq_some.2 ⟨hs₁, hburden.getElem?⟩
      rw [heq]
      change e₁.rollBack _ = _
      rw [rollBack, hctx]
    have hlast : (e.initModule t.session key module).session? t.session = some
        { s₁.updateContext s.contexts.length fun c => { c with hooks := [], pathHooks := [] } with
          table := c.hooks.foldl (fun t id => t.remove id) s₁.table
          store := c.pathHooks.foldl (fun st id => st.unhook id) s₁.store } := by
      rw [hback, session?_updateSession, if_pos rfl, hs₁]
      rfl
    obtain ⟨hcontexts, hhooks, hpaths⟩ := hskipped
    rw [counters_of_session? hs, counters_of_session? hlast] at hcontexts hhooks hpaths
    have hcontext : t.kept.context s.contexts.length = false := by
      refine hcontexts _ (Nat.le_refl _) ?_
      change _ < (s₁.contexts.modify _ _).length
      rw [List.length_modify, hburden.contexts, List.length_append]
      exact Nat.lt_succ_self _
    have hpath : rank t.kept.path s₁.store.nextId = rank t.kept.path s.store.nextId := by
      refine rank_of_skips hburden.store.nextId fun id hle hlt => hpaths id hle ?_
      change id < (List.foldl (fun st id => st.unhook id) s₁.store c.pathHooks).nextId
      rwa [Store.nextId_foldl_unhook]
    have hlisteners : (e.initModule t.session key module).listeners = e.listeners := by
      rw [hback]
      exact hnoted.listeners
    refine ⟨⟨_, s', hlast, hs', hburden.takeBack hrel hcontext ?_ hpath⟩, ?_, ?_, ?_⟩
    · exact rank_of_skips hburden.nextHook hhooks
    · rw [hlisteners]
      exact h.listeners
    · rw [hlisteners]
      exact h.idle
    · rw [hback]
      exact hnoted.memory _ h.memory

end Engine

end Intercept
