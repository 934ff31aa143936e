import Intercept.Proofs.Session.Activity

/-!
# Line-ups

The line-up of a session names the modules that have a context in it, and says which of these take
part. It is settled when the session is started: every module of the registry has a context, in the
order of the registry, and those take part whose init function has finished (`lineups_startSession`).
From then on it lasts (`lasting_lineups`).

The line-up and the hook table say who is concerned by what happens to a session. In a shutdown it is
the turn of each module that takes part, in order, whatever becomes of the callbacks
(`turns_shutdown`); a packet is handled by the hooks of its session, and of no other one
(`handled_dispatch`).
-/

namespace Intercept

variable {σ : Type}

/-- The modules with a context in a session, and which contexts are of modules that take part. -/
def Session.lineup (s : Session σ) : List String × List Nat :=
  (s.contexts.map (·.module), s.modules)

namespace Engine

/-! ### What is picked from activities -/

variable {α : Type} {pick : Activity σ → Option α}

/-- Module code itself does nothing but register callbacks. -/
lemma filterMap_activity (hregisters : ∀ ctx callback, pick (.registers ctx callback) = none)
    (p : Program σ) (e : Engine σ) : (e.activity p).filterMap pick = [] := by
  induction p generalizing e with
  | finish output => rfl
  | fail fault => rfl
  | «recall» next ih => exact ih e.memory e
  | remember change next ih => exact ih { e with memory := change e.memory }
  | inspect ctx next ih => exact ih (e.view ctx) e
  | hook ctx target priority handler next _ ih => exact ih _ _
  | unhook handle next ih => exact ih _
  | pathHook ctx path listener wantPayload next ih => exact ih _ _
  | unhookPath handle next ih => exact ih _
  | onShutdown ctx callback next _ ih =>
    rw [activity, List.filterMap_append, ih, List.append_nil]
    split
    · rw [List.filterMap_cons_none (hregisters ctx callback), List.filterMap_nil]
    · rfl

/-- What is picked from the initialisation of a module. -/
lemma filterMap_initActivity (hregisters : ∀ ctx callback, pick (.registers ctx callback) = none)
    (n : Nat) (e : Engine σ) (module : ModuleDescriptor σ) :
    (initActivity n e module).filterMap pick =
      (pick (.initBegins (e.addContext n module.name).2)).toList ++
        (pick (.initEnds (e.addContext n module.name).2
          ((e.addContext n module.name).1.finishes
            (module.init (e.addContext n module.name).2)))).toList := by
  have hsingle : ∀ a : Activity σ, [a].filterMap pick = (pick a).toList := by
    intro a
    cases h : pick a <;> simp [h]
  have hsplit : initActivity n e module =
      [.initBegins (e.addContext n module.name).2] ++
        (e.addContext n module.name).1.activity (module.init (e.addContext n module.name).2) ++
          [.initEnds (e.addContext n module.name).2 ((e.addContext n module.name).1.finishes
            (module.init (e.addContext n module.name).2))] := rfl
  rw [hsplit, List.filterMap_append, List.filterMap_append, filterMap_activity hregisters,
    List.append_nil, hsingle, hsingle]

/-- Nothing is picked from the start of a session that is not about init functions. -/
lemma filterMap_startActivity (hregisters : ∀ ctx callback, pick (.registers ctx callback) = none)
    (hbegins : ∀ ctx, pick (.initBegins ctx) = none)
    (hends : ∀ ctx hasFinished, pick (.initEnds ctx hasFinished) = none) (e : Engine σ)
    (key : SessionKey) (config : StateConfig) (registry : ModuleRegistry σ) :
    (e.startActivity key config registry).filterMap pick = [] := by
  have hinit : ∀ (e' : Engine σ) module,
      (initActivity e.sessions.length e' module).filterMap pick = [] := by
    intro e' module
    rw [filterMap_initActivity hregisters, hbegins, hends]
    rfl
  rw [startActivity, filterMap_gather hinit]
  exact List.flatMap_eq_nil_iff.2 fun _ _ => rfl

/-- All init functions that begin at the start of a session are of that session. -/
lemma begun_start (e : Engine σ) (key : SessionKey) (config : StateConfig)
    (registry : ModuleRegistry σ) :
    (e.startActivity key config registry).filterMap Activity.begun? =
      registry.modules.map fun _ => e.sessions.length := by
  have hinit : ∀ (e' : Engine σ) module,
      (initActivity e.sessions.length e' module).filterMap Activity.begun? =
        [e.sessions.length] := by
    intro e' module
    rw [filterMap_initActivity fun _ _ => rfl]
    rfl
  rw [startActivity, filterMap_gather hinit]
  exact List.map_eq_flatMap.symm

/-- A packet is taken in by the store of its session. -/
lemma session?_ingest {e : Engine σ} {n : Nat} {s : Session σ} (hs : e.session? n = some s)
    (op : String) (payload : ByteArray) : (e.ingest n op payload).session? n =
      some { s with store := (s.store.ingest e.listeners op payload).1 } := by
  have hsame (listeners : Listeners) : session? { e with listeners } n = some s := hs
  rw [ingest, hs]
  refine (session?_updateSession _ n n _).trans ?_
  rw [if_pos rfl, hsame]
  rfl

/-- A packet is handled by the hooks of its session that are on its operation, in their order. -/
theorem handled_dispatch {e : Engine σ} {n : Nat} {s : Session σ} (hs : e.session? n = some s)
    (op : String) (payload : ByteArray) (exchange : PacketMeta) :
    (e.dispatchActivity n op payload exchange).filterMap Activity.handled? =
      (s.table.chainFor op).map fun h => (n, h.id, op, exchange) := by
  have hhook : ∀ (w : Engine σ × ByteArray) h,
      (hookActivity n op exchange w h).filterMap Activity.handled? =
        [(n, h.id, op, exchange)] := by
    intro w h
    rw [hookActivity, List.filterMap_cons, filterMap_activity fun _ _ => rfl]
    rfl
  rw [dispatchActivity, session?_ingest hs op payload]
  simp only
  rw [filterMap_gather hhook]
  exact List.map_eq_flatMap.symm

/-- Nothing is picked from the dispatch of a packet that is not about handlers. -/
lemma filterMap_dispatchActivity
    (hregisters : ∀ ctx callback, pick (.registers ctx callback) = none)
    (hhandles : ∀ session hook packet, pick (.handles session hook packet) = none) (e : Engine σ)
    (n : Nat) (op : String) (payload : ByteArray) (exchange : PacketMeta) :
    (e.dispatchActivity n op payload exchange).filterMap pick = [] := by
  have hhook : ∀ (w : Engine σ × ByteArray) h,
      (hookActivity n op exchange w h).filterMap pick = [] := by
    intro w h
    rw [hookActivity, List.filterMap_cons_none (hhandles _ _ _), filterMap_activity hregisters]
  rw [dispatchActivity]
  cases (e.ingest n op payload).session? n with
  | none => rfl
  | some s =>
    simp only
    rw [filterMap_gather hhook]
    exact List.flatMap_eq_nil_iff.2 fun _ _ => rfl

/-- What is picked from the turn of a context is picked from the turn itself, if callbacks are of no
account. -/
lemma filterMap_turnActivity
    (hregisters : ∀ ctx callback, pick (.registers ctx callback) = none)
    (hinvokes : ∀ ctx callback processEnds, pick (.invokes ctx callback processEnds) = none)
    (n : Nat) (processEnds : Bool) (e : Engine σ) (i : Nat) :
    (turnActivity n processEnds e i).filterMap pick =
      (pick (.turn ⟨n, i⟩ processEnds)).toList := by
  rw [turnActivity, List.filterMap_cons]
  cases e.slots ⟨n, i⟩ with
  | none => cases pick (.turn ⟨n, i⟩ processEnds) <;> rfl
  | some callback =>
    simp only
    rw [List.filterMap_cons_none (hinvokes _ _ _), filterMap_activity hregisters]
    cases pick (.turn ⟨n, i⟩ processEnds) <;> rfl

/-- The contexts of the modules that take part in a session. -/
def loaded (e : Engine σ) (n : Nat) : List Nat := ((e.session? n).map (·.modules)).getD []

/-- In a shutdown it is the turn of every module that takes part in the session, in order. -/
theorem turns_shutdown (e : Engine σ) (n : Nat) (processEnds : Bool) :
    (e.shutdownActivity n processEnds).filterMap Activity.turn? =
      (e.loaded n).map fun i => (⟨n, i⟩, processEnds) := by
  have hturn : ∀ (e' : Engine σ) i,
      (turnActivity n processEnds e' i).filterMap Activity.turn? = [(⟨n, i⟩, processEnds)] := by
    intro e' i
    rw [filterMap_turnActivity (fun _ _ => rfl) fun _ _ _ => rfl]
    rfl
  rw [shutdownActivity, loaded]
  cases e.session? n with
  | none => rfl
  | some s =>
    simp only
    rw [filterMap_gather hturn]
    exact List.map_eq_flatMap.symm

/-- Nothing is picked from a shutdown that is not about turns or callbacks. -/
lemma filterMap_shutdownActivity
    (hregisters : ∀ ctx callback, pick (.registers ctx callback) = none)
    (hturn : ∀ ctx processEnds, pick (.turn ctx processEnds) = none)
    (hinvokes : ∀ ctx callback processEnds, pick (.invokes ctx callback processEnds) = none)
    (e : Engine σ) (n : Nat) (processEnds : Bool) :
    (e.shutdownActivity n processEnds).filterMap pick = [] := by
  have hmodule : ∀ (e' : Engine σ) i, (turnActivity n processEnds e' i).filterMap pick = [] := by
    intro e' i
    rw [filterMap_turnActivity hregisters hinvokes, hturn]
    rfl
  rw [shutdownActivity]
  cases e.session? n with
  | none => rfl
  | some s =>
    simp only
    rw [filterMap_gather hmodule]
    exact List.flatMap_eq_nil_iff.2 fun _ _ => rfl

/-! ### The line-up of a session -/

/-- The line-ups of all sessions. -/
def lineups (e : Engine σ) : List (List String × List Nat) := e.sessions.map Session.lineup

/-- There are as many line-ups as sessions. -/
@[simp] lemma length_lineups (e : Engine σ) : e.lineups.length = e.sessions.length :=
  List.length_map _

/-- The line-up of a session by its number. -/
lemma getElem?_lineups (e : Engine σ) (n : Nat) :
    e.lineups[n]? = (e.session? n).map Session.lineup := List.getElem?_map

/-- The modules that take part in a session stand in its line-up. -/
lemma loaded_eq (e : Engine σ) (n : Nat) : e.loaded n = (e.lineups[n]?.map (·.2)).getD [] := by
  rw [loaded, getElem?_lineups]
  cases e.session? n <;> rfl

/-- A change of a session that its line-up does not show. -/
lemma lineups_updateSession (e : Engine σ) (n : Nat) {f : Session σ → Session σ}
    (h : ∀ s, (f s).lineup = s.lineup) : (e.updateSession n f).lineups = e.lineups :=
  map_updateSession h e n

/-- Changing a context does not change the line-up, as long as it keeps its module. -/
lemma lineup_updateContext (s : Session σ) (i : Nat) {f : Context σ → Context σ}
    (h : ∀ c, (f c).module = c.module) : (s.updateContext i f).lineup = s.lineup := by
  have hmodules : (s.contexts.modify i f).map (·.module) = s.contexts.map (·.module) := by
    rw [map_modify (k := id) h, List.modify_id]
  exact congrArg (·, s.modules) hmodules

/-- Line-ups last. -/
lemma lasting_lineups : Lasting (lineups : Engine σ → List (List String × List Nat)) where
  toUntouched := untouched_sessions fun s _ _ _ i _ h => lineup_updateContext s i h
  emit _ _ _ := rfl
  takeShutdown e n i := by
    refine lineups_updateSession e n fun s => lineup_updateContext s i ?_
    exact fun _ => rfl

/-- Taking in a packet is not seen in a line-up. -/
lemma lineups_ingest (e : Engine σ) (n : Nat) (op : String) (payload : ByteArray) :
    (e.ingest n op payload).lineups = e.lineups := by
  unfold ingest
  cases e.session? n with
  | none => rfl
  | some s => exact lineups_updateSession _ n fun _ => rfl

/-- The contexts of the modules whose init function has finished. -/
def finished (ended : List (Nat × Bool)) : List Nat :=
  (ended.filter fun x => x.2).map Prod.fst

/-- A module that is initialised has a context, and takes part if its init function finishes. -/
lemma lineups_initModule {e : Engine σ} {n : Nat} {names : List String} {loaded : List Nat}
    (hlineup : e.lineups[n]? = some (names, loaded)) (key : SessionKey)
    (module : ModuleDescriptor σ) : ∃ ended,
      (initActivity n e module).filterMap (Activity.ended? n) = ended ∧
        ended.map Prod.fst = [names.length] ∧
        (e.initModule n key module).lineups = e.lineups.modify n fun l =>
          (l.1 ++ [module.name], l.2 ++ finished ended) := by
  obtain ⟨s, hs, hnames⟩ : ∃ s, e.session? n = some s ∧ s.lineup = (names, loaded) := by
    rw [getElem?_lineups] at hlineup
    exact Option.map_eq_some_iff.1 hlineup
  have hlength : s.contexts.length = names.length := by
    rw [← (Prod.mk.inj hnames).1, List.length_map]
  cases hadd : e.addContext n module.name with
  | mk e₁ ctx =>
    have hctx : ctx = ⟨n, names.length⟩ := by
      have hindex : ((e.session? n).map (·.contexts.length)).getD 0 = names.length := by
        rw [hs]
        exact hlength
      rw [← show (e.addContext n module.name).2 = ctx by rw [hadd], ← hindex]
      rfl
    have hadded : e₁.lineups = e.lineups.modify n fun l => (l.1 ++ [module.name], l.2) := by
      rw [← show (e.addContext n module.name).1 = e₁ by rw [hadd]]
      refine map_modify ?_ e.sessions n
      intro s'
      exact congrArg (·, s'.modules) List.map_append
    have hrun := lasting_lineups.run e₁ (module.init ctx)
    have hclose : ∀ e' : Engine σ, (e'.closeContext ctx).lineups = e'.lineups := by
      intro e'
      refine lineups_updateSession e' ctx.session fun s => lineup_updateContext s ctx.index ?_
      exact fun _ => rfl
    have hended : (initActivity n e module).filterMap (Activity.ended? n) =
        [(names.length, e₁.finishes (module.init ctx))] := by
      rw [filterMap_initActivity fun _ _ => rfl, hadd, hctx]
      simp [Activity.ended?]
    refine ⟨_, hended, rfl, ?_⟩
    rcases initModule_cases e n key module hadd with
      ⟨e₂, output, hout, hinit⟩ | ⟨e₂, fault, hout, hinit⟩
    · have hfinishes : e₁.finishes (module.init ctx) = true := by rw [finishes, hout]
      have henlist : (e.initModule n key module).lineups =
          (e₂.closeContext ctx).lineups.modify n fun l => (l.1, l.2 ++ [ctx.index]) := by
        rw [hinit]
        refine map_modify ?_ _ n
        exact fun _ => rfl
      rw [hout] at hrun
      rw [henlist, hclose, hrun, hadded, List.modify_modify_eq, hfinishes, hctx]
      rfl
    · have hfails : e₁.finishes (module.init ctx) = false := by rw [finishes, hout]
      have hback : ∀ e' : Engine σ, (e'.rollBack ctx).lineups = e'.lineups := by
        intro e'
        unfold rollBack
        cases e'.context? ctx with
        | none => rfl
        | some sc =>
          refine lineups_updateSession e' ctx.session fun s => lineup_updateContext s ctx.index ?_
          exact fun _ => rfl
      rw [hout] at hrun
      rw [hinit, hback, note, lasting_lineups.emit _ _ (by simp), hclose, hrun, hadded, hfails]
      simp [finished]

/-- The modules that are initialised for a session have contexts in their order, and those take part
whose init function finishes. -/
lemma lineups_foldl_initModule {n : Nat} (key : SessionKey) (modules : List (ModuleDescriptor σ))
    {e : Engine σ} {names : List String} {loaded : List Nat}
    (hlineup : e.lineups[n]? = some (names, loaded)) : ∃ ended,
      (gather (fun e module => e.initModule n key module) (initActivity n) e modules).filterMap
        (Activity.ended? n) = ended ∧
        ended.map Prod.fst = List.range' names.length modules.length ∧
        (modules.foldl (fun e module => e.initModule n key module) e).lineups =
          e.lineups.modify n fun l => (l.1 ++ modules.map (·.name), l.2 ++ finished ended) := by
  induction modules generalizing e names loaded with
  | nil =>
    have hsame : (fun l : List String × List Nat => (l.1 ++ [], l.2 ++ finished [])) = id := by
      funext l
      simp [finished]
    refine ⟨[], rfl, rfl, ?_⟩
    change e.lineups = e.lineups.modify n fun l => (l.1 ++ [], l.2 ++ finished [])
    rw [hsame, List.modify_id]
  | cons module modules ih =>
    obtain ⟨first, hfirst, hindex, hlineups⟩ := lineups_initModule hlineup key module
    have hnext : (e.initModule n key module).lineups[n]? =
        some (names ++ [module.name], loaded ++ finished first) := by
      rw [hlineups, List.getElem?_modify_eq, hlineup]
      rfl
    obtain ⟨rest, hrest, hindices, hlater⟩ := ih hnext
    refine ⟨first ++ rest, ?_, ?_, ?_⟩
    · rw [gather, List.filterMap_append, hfirst, hrest]
    · rw [List.map_append, hindex, hindices, List.length_append, List.length_cons,
        List.length_cons, List.range'_succ]
      rfl
    · rw [List.foldl_cons, hlater, hlineups, List.modify_modify_eq]
      refine congrArg (List.modify _ _) (funext fun l => ?_)
      simp [finished]

/-- What the activities at the start of a session say about the ends of init functions, for every
session. -/
theorem lineups_startSession (e : Engine σ) (key : SessionKey) (config : StateConfig)
    (registry : ModuleRegistry σ) : ∃ ended,
      (e.startActivity key config registry).filterMap (Activity.ended? e.sessions.length) = ended ∧
        ended.map Prod.fst = List.range registry.modules.length ∧
        (e.startSession key config registry).1.lineups =
          e.lineups ++ [(registry.names, finished ended)] := by
  have hopen : (e.openSession key config).lineups = e.lineups ++ [([], [])] := List.map_append
  have hlength : e.lineups.length = e.sessions.length := e.length_lineups
  have hlineup : (e.openSession key config).lineups[e.sessions.length]? = some ([], []) := by
    rw [hopen, ← hlength, List.getElem?_concat_length]
  obtain ⟨ended, hended, hindices, hlineups⟩ :=
    lineups_foldl_initModule key registry.modules hlineup
  refine ⟨ended, hended, ?_, ?_⟩
  · rw [hindices, List.range_eq_range']
    rfl
  · have hcomplete : ∀ e' : Engine σ,
        (e'.completeSession e.sessions.length).lineups = e'.lineups :=
      fun e' => lineups_updateSession e' _ fun _ => rfl
    rw [startSession, hcomplete]
    refine hlineups.trans ?_
    rw [hopen, ← hlength, List.modify_eq_set_getElem?]
    simp [ModuleRegistry.names]

/-- At the start of a session only init functions of that session come to an end. -/
lemma ended_start_of_ne {e : Engine σ} {n : Nat} (hne : e.sessions.length ≠ n) (key : SessionKey)
    (config : StateConfig) (registry : ModuleRegistry σ) :
    (e.startActivity key config registry).filterMap (Activity.ended? n) = [] := by
  have hinit : ∀ (e' : Engine σ) module,
      (initActivity e.sessions.length e' module).filterMap (Activity.ended? n) = [] := by
    intro e' module
    rw [filterMap_initActivity fun _ _ => rfl]
    exact congrArg Option.toList (if_neg hne)
  rw [startActivity, filterMap_gather hinit]
  exact List.flatMap_eq_nil_iff.2 fun _ _ => rfl

end Engine

end Intercept
