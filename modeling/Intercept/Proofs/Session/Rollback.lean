import Intercept.Proofs.Session.Discarded

/-!
# Failed inits leave no trace

Which of a session's modules are discarded is found out when it is started, one after the other
(`Engine.verdicts`), and with it which numbers are kept (`Engine.kept`). If the init functions act
on their own contexts only, then the session can be compared with one that was started without the
modules that are discarded: with every module that takes part, the two remain the same but for
numbers, and a module that is discarded leaves the first one as it was (`Reduces.start`).

Main statement: the two sessions show the same after the start and look the same at every step from
then on, whatever happens to them, and no event is sent to a listener that only discarded modules
have registered (`startSession_without_discarded`).
-/

namespace Intercept

variable {σ : Type}

namespace Session.Reduces

variable {t : Reduction σ} {s s' : Session σ}

/-- New sessions of one identity. -/
lemma blank (t : Reduction σ) (key : SessionKey) (config : StateConfig) :
    Reduces (σ := σ) t { key, store := { config } } { key, store := { config } } :=
  ⟨rfl, rfl, .blank config, rfl, fun _ h => by contradiction, (Nat.count_zero _).symm,
    fun _ _ => .none, .nil, fun _ h => by contradiction, (Nat.count_zero _).symm⟩

/-- One more context on both sides, under a number that is kept. -/
lemma addContext (h : Reduces t s s') (hlast : t.kept.context s.contexts.length = true)
    (module : String) :
    Reduces t { s with contexts := s.contexts ++ [{ module }] }
      { s' with contexts := s'.contexts ++ [{ module }] } :=
  { h with
    length := by
      rw [List.length_append, List.length_append, h.length]
      exact (rank_succ hlast).symm
    contexts := fun j hj => by
      rcases Nat.lt_trichotomy j s.contexts.length with hlt | rfl | hgt
      · have hlt' : rank t.kept.context j < s'.contexts.length := h.length ▸ rank_lt hj hlt
        rw [List.getElem?_append_left hlt, List.getElem?_append_left hlt']
        exact h.contexts j hj
      · rw [List.getElem?_concat_length, ← h.length, List.getElem?_concat_length]
        exact .some ⟨rfl, rfl, rfl, fun _ h => by contradiction, rfl, fun _ h => by contradiction,
          .none⟩
      · have hgt' : s'.contexts.length < rank t.kept.context j := h.length ▸ rank_lt hlast hgt
        rw [List.getElem?_eq_none, List.getElem?_eq_none]
        · exact .none
        · rw [List.length_append]
          exact hgt'
        · rw [List.length_append]
          exact hgt }

/-- One more module takes part, in a context that is kept. -/
lemma enlist (h : Reduces t s s') {i : Nat} (hi : t.kept.context i = true) :
    Reduces t { s with modules := s.modules ++ [i] }
      { s' with modules := s'.modules ++ [rank t.kept.context i] } :=
  { h with
    modules := by
      rw [h.modules, List.map_append]
      rfl
    modulesKept := fun j hj => by
      rcases List.mem_append.1 hj with hold | hnew
      · exact h.modulesKept j hold
      · rwa [List.mem_singleton.1 hnew] }

/-- Both sessions are declared ready. -/
lemma complete (h : Reduces t s s') :
    Reduces t { s with table := s.table.sort, isInitialized := true }
      { s' with table := s'.table.sort, isInitialized := true } :=
  { h with
    hooks := HookTable.forall₂_sort (fun _ _ hg => hg.label) h.hooks
    below := fun g hg => h.below g ((HookTable.inPriorityOrder_sort s.table).perm.mem_iff.1 hg) }

end Session.Reduces

namespace Engine

/-! ### Which modules are discarded -/

/-- Whether the init functions of some modules finish, one after the other. -/
def verdicts (n : Nat) (key : SessionKey) (e : Engine σ) (modules : List (ModuleDescriptor σ)) :
    List (ModuleDescriptor σ × Bool) :=
  gather (fun e m => e.initModule n key m) (fun e m => [(m, e.accepts n m)]) e modules

/-- The modules that take part. -/
def accepted (verdicts : List (ModuleDescriptor σ × Bool)) : List (ModuleDescriptor σ) :=
  (verdicts.filter (·.2)).map (·.1)

/-- Whether a number is kept: it is not given to a module that is discarded. -/
def keeps (count : Counters → Nat) (n : Nat) (key : SessionKey) (e : Engine σ) :
    List (ModuleDescriptor σ) → Nat → Bool
  | [], _ => true
  | m :: ms, id =>
    if id < count ((e.initModule n key m).counters n) then e.accepts n m
    else keeps count n key (e.initModule n key m) ms id

/-- The numbers that are kept when some modules are initialised. -/
def kept (n : Nat) (key : SessionKey) (e : Engine σ) (modules : List (ModuleDescriptor σ)) : Kept :=
  ⟨keeps (·.contexts) n key e modules, keeps (·.hooks) n key e modules,
    keeps (·.paths) n key e modules⟩

/-- The registry without the modules whose init functions fail in a session that is started now. -/
def withoutDiscarded (e : Engine σ) (key : SessionKey) (config : StateConfig)
    (registry : ModuleRegistry σ) : ModuleRegistry σ :=
  { registry with
    modules := accepted
      ((e.withSession key config).verdicts e.sessions.length key registry.modules) }

/-- Of the numbers from an engine on, those are kept that are not given to modules to be
discarded. -/
structure Foretells (t : Reduction σ) (key : SessionKey) (e : Engine σ)
    (modules : List (ModuleDescriptor σ)) : Prop where
  contexts : ∀ i, (e.counters t.session).contexts ≤ i →
    t.kept.context i = (e.kept t.session key modules).context i
  hooks : ∀ id, (e.counters t.session).hooks ≤ id →
    t.kept.hook id = (e.kept t.session key modules).hook id
  paths : ∀ id, (e.counters t.session).paths ≤ id →
    t.kept.path id = (e.kept t.session key modules).path id

namespace Foretells

variable {t : Reduction σ} {key : SessionKey} {e e₁ : Engine σ} {m : ModuleDescriptor σ}
  {ms : List (ModuleDescriptor σ)}

/-- From the next module on. -/
lemma tail (h : Foretells t key e (m :: ms)) :
    Foretells t key (e.initModule t.session key m) ms where
  contexts i hle := by
    have hgrows := (Grows.initModule t.session e t.session key m).contexts
    rw [h.contexts i (Nat.le_trans hgrows hle)]
    exact if_neg (Nat.not_lt_of_le hle)
  hooks id hle := by
    have hgrows := (Grows.initModule t.session e t.session key m).hooks
    rw [h.hooks id (Nat.le_trans hgrows hle)]
    exact if_neg (Nat.not_lt_of_le hle)
  paths id hle := by
    have hgrows := (Grows.initModule t.session e t.session key m).paths
    rw [h.paths id (Nat.le_trans hgrows hle)]
    exact if_neg (Nat.not_lt_of_le hle)

/-- A module that takes part keeps its numbers. -/
lemma smooth (h : Foretells t key e (m :: ms)) (haccepts : e.accepts t.session m = true)
    (hrefusals : (e.initModule t.session key m).refusals = e.refusals) :
    Smooth t e (e.initModule t.session key m) where
  contexts i hle hlt := (h.contexts i hle).trans ((if_pos hlt).trans haccepts)
  hooks id hle hlt := (h.hooks id hle).trans ((if_pos hlt).trans haccepts)
  paths id hle hlt := (h.paths id hle).trans ((if_pos hlt).trans haccepts)
  refusals := hrefusals

/-- The numbers of a module that is discarded are skipped. -/
lemma skipped (h : Foretells t key e (m :: ms)) (hfails : e.accepts t.session m = false) :
    Skipped t e (e.initModule t.session key m) where
  contexts i hle hlt := (h.contexts i hle).trans ((if_pos hlt).trans hfails)
  hooks id hle hlt := (h.hooks id hle).trans ((if_pos hlt).trans hfails)
  paths id hle hlt := (h.paths id hle).trans ((if_pos hlt).trans hfails)

/-- When all modules are initialised, all further numbers are kept. -/
lemma smooth_nil (h : Foretells t key e []) (hrefusals : e₁.refusals = e.refusals) :
    Smooth t e e₁ where
  contexts i hle _ := h.contexts i hle
  hooks id hle _ := h.hooks id hle
  paths id hle _ := h.paths id hle
  refusals := hrefusals

end Foretells

/-! ### The start of a session -/

namespace Reduces

variable {t : Reduction σ} {base : Listeners} {e e' : Engine σ}

/-- A module that takes part is initialised in both sessions. -/
theorem initModule (h : Reduces t base e e') (key : SessionKey) {m : ModuleDescriptor σ}
    (hinit : ∀ i, t.kept.context i = true → Program.Reduces t (m.init ⟨t.session, i⟩)
      (m.init ⟨t.session, rank t.kept.context i⟩))
    (haccepts : e.accepts t.session m = true)
    (hsmooth : Smooth t e (e.initModule t.session key m)) :
    Reduces t base (e.initModule t.session key m) (e'.initModule t.session key m) := by
  obtain ⟨s, s', hs, hs', hrel⟩ := h.sessions
  rcases initModule_accepts hs key m with ⟨-, ⟨output, hout⟩, heq⟩ | ⟨hfails, -⟩
  · have hadd := Grows.addContext t.session e t.session m.name
    have hrun := Grows.run t.session (e.addContext t.session m.name).1
      (m.init ⟨t.session, s.contexts.length⟩)
    have hend : Grows t.session ((e.addContext t.session m.name).1.run
        (m.init ⟨t.session, s.contexts.length⟩)).1 (e.initModule t.session key m) := by
      rw [heq]
      exact (Grows.closeContext t.session _ ⟨t.session, s.contexts.length⟩).trans
        (Grows.updateSession t.session _ _ (fun _ => Nat.le_refl _) (fun _ _ => Nat.le_refl _)
          fun _ _ => Nat.le_refl _)
    have hi : t.kept.context s.contexts.length = true := by
      refine hsmooth.contexts _ ?_ (Nat.lt_of_lt_of_le ?_ (hrun.trans hend).contexts)
      · rw [counters_of_session? hs]
        exact Nat.le_refl _
      · obtain ⟨s₁, c, hs₁, hburden⟩ := (Burdened.addContext hs m.name).session
        rw [counters_of_session? hs₁]
        change _ < s₁.contexts.length
        rw [hburden.contexts, List.length_append]
        exact Nat.lt_succ_self _
    have hadded : Reduces t base (e.addContext t.session m.name).1
        (e'.addContext t.session m.name).1 := by
      refine h.update fun s₁ s₁' hs₁ _ hrel₁ => ?_
      obtain rfl : s = s₁ := Option.some.inj (hs.symm.trans hs₁)
      exact hrel₁.addContext hi m.name
    obtain ⟨hsame, hran⟩ := hadded.run (hinit s.contexts.length hi)
      ((hsmooth.rest hadd (hrun.trans hend)).first hrun hend)
    rw [hout] at hsame
    rcases initModule_accepts hs' key m with ⟨-, -, heq'⟩ | ⟨-, fault, hfault, -⟩
    · rw [heq, heq', hrel.length]
      have hclosed := hran.updateContext hi (f := fun c => { c with isInitialized := true })
        (g := fun c => { c with isInitialized := true }) fun d d' hd =>
        { hd with isInitialized := rfl }
      exact hclosed.update fun _ _ _ _ hrel₁ => hrel₁.enlist hi
    · rw [hrel.length, hsame] at hfault
      contradiction
  · rw [haccepts] at hfails
    contradiction

/-- Modules are initialised in the first session, and those of them that take part in the second
one. -/
theorem start {modules : List (ModuleDescriptor σ)} (h : Reduces t base e e') (key : SessionKey)
    (haccepted : ∀ m, (m, true) ∈ e.verdicts t.session key modules →
      ∀ i, t.kept.context i = true → Program.Reduces t (m.init ⟨t.session, i⟩)
        (m.init ⟨t.session, rank t.kept.context i⟩))
    (hdiscarded : ∀ m, (m, false) ∈ e.verdicts t.session key modules →
      ∀ i, Program.Secluded t.sees ⟨t.session, i⟩ [] [] (m.init ⟨t.session, i⟩))
    (hforetells : Foretells t key e modules)
    (hrefusals : (modules.foldl (fun e m => e.initModule t.session key m) e).refusals =
      e.refusals) :
    Reduces t base (modules.foldl (fun e m => e.initModule t.session key m) e)
        ((accepted (e.verdicts t.session key modules)).foldl
          (fun e m => e.initModule t.session key m) e') ∧
      Foretells t key (modules.foldl (fun e m => e.initModule t.session key m) e) [] := by
  induction modules generalizing e e' with
  | nil => exact ⟨h, hforetells⟩
  | cons m ms ih =>
    have hverdicts : e.verdicts t.session key (m :: ms) =
        (m, e.accepts t.session m) ::
          (e.initModule t.session key m).verdicts t.session key ms := rfl
    have hfirst := Grows.initModule t.session e t.session key m
    have hrest := Grows.foldl id (fun e m => Grows.initModule t.session e t.session key m) ms
      (e.initModule t.session key m)
    rw [hverdicts] at haccepted hdiscarded ⊢
    have hrefused : (e.initModule t.session key m).refusals = e.refusals :=
      Nat.le_antisymm (hrefusals ▸ hrest.refusals) hfirst.refusals
    have hlater := hrefusals.trans hrefused.symm
    have haccepted' := fun m' hm' => haccepted m' (List.mem_cons_of_mem _ hm')
    have hdiscarded' := fun m' hm' => hdiscarded m' (List.mem_cons_of_mem _ hm')
    cases hverdict : e.accepts t.session m with
    | true =>
      rw [hverdict] at haccepted
      have hboth := h.initModule key (haccepted m List.mem_cons_self) hverdict
        (hforetells.smooth hverdict hrefused)
      exact ih hboth haccepted' hdiscarded' hforetells.tail hlater
    | false =>
      rw [hverdict] at hdiscarded
      have hleft := h.discard key (hdiscarded m List.mem_cons_self) hverdict
        (hforetells.skipped hverdict)
      exact ih hleft haccepted' hdiscarded' hforetells.tail hlater

end Reduces

/-- The modules act on their own contexts only. The code of a module that takes part does the same
whatever numbers it is given, looks at and changes contexts of such modules only, and sends events to
their listeners; a module to be discarded keeps to its own context, and leaves nothing in memory that
the others see. Which memories look the same to them depends on the numbers, since handles may be
kept there. -/
structure ActApart (own : String → Bool) (sees : Kept → σ → σ → Prop) (n : Nat) (memory : σ)
    (verdicts : List (ModuleDescriptor σ × Bool)) : Prop where
  memory : ∀ kept, sees kept memory memory
  accepted : ∀ m, (m, true) ∈ verdicts → ∀ kept i, kept.context i = true →
    Program.Reduces ⟨n, own, kept, sees kept⟩ (m.init ⟨n, i⟩)
      (m.init ⟨n, rank kept.context i⟩)
  discarded : ∀ m, (m, false) ∈ verdicts → ∀ kept i,
    Program.Secluded (sees kept) ⟨n, i⟩ [] [] (m.init ⟨n, i⟩)

/-- A module whose init function fails leaves no trace. A session is started and things happen to
it, and no registration of a path hook is refused for want of room. If the modules act on their own
contexts only, then the session and one that is started without the modules that are discarded show
the same after the start, and are seen to do the same and show the same at every step: the same
modules and numbers of hooks, the same payloads, the same state, the same events for the same
listeners, of which the same ones are lost, and the same callbacks at the end. What receivers do
apart, nothing happens to listeners that no module that takes part has registered. -/
theorem startSession_without_discarded (e : Engine σ) (key : SessionKey) (config : StateConfig)
    (registry : ModuleRegistry σ) (own : String → Bool) (sees : Kept → σ → σ → Prop)
    (hapart : ActApart own sees e.sessions.length e.memory
      ((e.withSession key config).verdicts e.sessions.length key registry.modules))
    (steps : List SessionStep)
    (hroom : ((e.startSession key config registry).1.live e.sessions.length steps).refusals =
      e.refusals) :
    let n := e.sessions.length
    let left := (e.startSession key config registry).1
    let right := (e.startSession key config (e.withoutDiscarded key config registry)).1
    (left.outlook? n).isSome = true ∧ right.outlook? n = left.outlook? n ∧
      right.watch n steps = left.watch n steps ∧
      (∀ name, own name = false →
        (left.live n steps).listeners.find? name =
          Listeners.find? (steps.foldl SessionStep.receive e.listeners) name) ∧
      ∃ kept, sees kept (left.live n steps).memory (right.live n steps).memory := by
  intro n left right
  let e₀ := e.withSession key config
  let kept := e₀.kept n key registry.modules
  let t : Reduction σ := ⟨n, own, kept, sees kept⟩
  let e₁ := registry.modules.foldl (fun e m => e.initModule n key m) e₀
  have hs₀ : e₀.session? n = some { key, store := { config } } := by
    rw [session?_withSession, if_pos rfl]
  have hblank : Reduces t e.listeners e₀ e₀ :=
    ⟨⟨_, _, hs₀, hs₀, .blank t key config⟩, rfl, fun _ _ => rfl, hapart.memory kept⟩
  have hcomplete : Grows n e₁ left := .updateSession n e₁ n (fun _ => Nat.le_refl _)
    (fun _ _ => Nat.le_refl _) fun _ _ => Nat.le_refl _
  have hlive : Grows n left (left.live n steps) := .live n left steps
  have hinit : Grows n e₀ e₁ :=
    .foldl id (fun e m => Grows.initModule n e n key m) registry.modules e₀
  -- Refusals stay on record, so if there is none in the end, there was none at the start.
  have hrefused : e₁.refusals = e₀.refusals :=
    Nat.le_antisymm (hroom ▸ (hcomplete.trans hlive).refusals) hinit.refusals
  obtain ⟨hstarted, hforetells⟩ := hblank.start key
    (fun m hm i hi => hapart.accepted m hm kept i hi) (fun m hm i => hapart.discarded m hm kept i)
    ⟨fun _ _ => rfl, fun _ _ => rfl, fun _ _ => rfl⟩ hrefused
  have hready : Reduces t e.listeners left right :=
    hstarted.update fun _ _ _ _ hrel => hrel.complete
  have hsmooth : Smooth t left (left.live n steps) :=
    (hforetells.smooth_nil (hroom.trans hrefused.symm)).rest hcomplete hlive
  obtain ⟨hwatch, hend⟩ := hready.watch steps hsmooth
  obtain ⟨s, s', hs, -⟩ := hready.sessions
  refine ⟨?_, hready.outlook, hwatch, hend.idle, kept, hend.memory⟩
  rw [outlook?, show left.session? n = some s from hs]
  rfl

/-! ### A module that fails -/

/-- A module that fails. It counts its calls in memory, puts a hook on all packets and another one
on some of them, subscribes to a path, and has the first hook removed again. -/
def faultyModule : ModuleDescriptor (Nat × Option HookHandle) where
  name := "faulty"
  init ctx :=
    .remember (fun m => (m.1 + 1, m.2)) <|
    .hook ctx "*" 5 (fun _ => .finish .empty) fun handle =>
    .hook ctx "a" 5 (fun _ => .finish .empty) fun _ =>
    .pathHook ctx "k" "lost" true fun _ => match handle with
      | some handle => .unhook handle (.fail (.text "out of order"))
      | none => .fail .untyped

/-- A module that keeps the handle of its hook in memory, and has it removed on the first packet. -/
def steadyModule : ModuleDescriptor (Nat × Option HookHandle) where
  name := "steady"
  init ctx :=
    .hook ctx "a" 0
      (fun _ => .recall fun m => match m.2 with
        | some handle => .unhook handle (.finish "b".toUTF8)
        | none => .finish .empty) fun handle =>
    .remember (fun m => (m.1, handle)) <|
    .pathHook ctx "k" "room" true fun _ =>
    .onShutdown ctx (fun _ => .finish .empty) (.finish .empty)

/-- Two memories hold the handle of the same hook of session `0`. -/
def HoldSame (kept : Kept) (m m' : Nat × Option HookHandle) : Prop :=
  Option.Rel (fun h h' => h.session = 0 ∧ kept.hook h.id = true ∧
    h' = ⟨0, rank kept.hook h.id, h.label⟩) m.2 m'.2

/-- The module that fails acts on its own context only. -/
lemma secluded_faultyModule (kept : Kept) (i : Nat) :
    Program.Secluded (HoldSame kept) ⟨0, i⟩ [] [] (faultyModule.init ⟨0, i⟩) := by
  have hsubscribe : ∀ (hooks : List Nat) id label, id ∈ hooks →
      Program.Secluded (HoldSame kept) ⟨0, i⟩ hooks [] (.pathHook ⟨0, i⟩ "k" "lost" true fun _ =>
        .unhook ⟨0, id, label⟩ (.fail (.text "out of order"))) := fun hooks id label hid =>
    .pathHook "k" "lost" true (.unhook hid label (.fail _)) fun _ _ => .unhook hid label (.fail _)
  have hnone : ∀ hooks : List Nat, Program.Secluded (HoldSame kept) ⟨0, i⟩ hooks []
      (.pathHook ⟨0, i⟩ "k" "lost" true fun _ => .fail .untyped) := fun hooks =>
    .pathHook "k" "lost" true (.fail _) fun _ _ => .fail _
  exact .remember (fun _ _ hm => hm) (.hook "*" 5 _
    (.hook "a" 5 _ (hnone []) fun id _ => hnone [id]) fun id label =>
      .hook "a" 5 _ (hsubscribe [id] id label List.mem_cons_self) fun id' _ =>
        hsubscribe [id', id] id label (List.mem_cons_of_mem id' List.mem_cons_self))

/-- The other module does the same under any numbers. -/
lemma reduces_steadyModule {own : String → Bool} (hroom : own "room" = true) (kept : Kept) {i : Nat}
    (hi : kept.context i = true) :
    Program.Reduces ⟨0, own, kept, HoldSame kept⟩ (steadyModule.init ⟨0, i⟩)
      (steadyModule.init ⟨0, rank kept.context i⟩) := by
  have hend : Program.Reduces ⟨0, own, kept, HoldSame kept⟩
      (.onShutdown ⟨0, i⟩ (fun _ => .finish .empty) (.finish .empty))
      (.onShutdown ⟨0, rank kept.context i⟩ (fun _ => .finish .empty) (.finish .empty)) :=
    .onShutdown hi (fun _ => .finish _) (.finish _)
  have hrest : ∀ handle handle', HoldSame kept (0, handle) (0, handle') →
      Program.Reduces ⟨0, own, kept, HoldSame kept⟩
        (.remember (fun m => (m.1, handle)) <| .pathHook ⟨0, i⟩ "k" "room" true fun _ =>
          .onShutdown ⟨0, i⟩ (fun _ => .finish .empty) (.finish .empty))
        (.remember (fun m => (m.1, handle')) <|
          .pathHook ⟨0, rank kept.context i⟩ "k" "room" true fun _ =>
            .onShutdown ⟨0, rank kept.context i⟩ (fun _ => .finish .empty) (.finish .empty)) :=
    fun _ _ hhandle => .remember (fun _ _ _ => hhandle)
      (.pathHook "k" true hi hroom hend fun _ _ _ => hend)
  refine .hook "a" 0 hi (fun packet => .recall fun m m' hm => ?_) (hrest none none .none)
    fun id label hid => hrest _ _ (.some ⟨rfl, hid, rfl⟩)
  rcases optionRel_cases hm with ⟨hm, hm'⟩ | ⟨⟨n, id, label⟩, h', hm, hm', rfl, hid, rfl⟩
  · rw [hm, hm']
    exact .finish _
  · rw [hm, hm']
    exact .unhook label hid (.finish _)

/-- A module fails before and after another one is initialised. -/
theorem startSession_without_faultyModule :
    let config : StateConfig := { snapshotOp := "S", snapshotKey := "u", deltaKey := "d" }
    let ls : Listeners := [("room", { capacity := 4 }), ("lost", { capacity := 4 })]
    let e : Engine (Nat × Option HookHandle) := { memory := (0, none), listeners := ls }
    let steps : List SessionStep :=
      [.packet "S" "\x7b\"u\":\x7b\"k\":1\x7d\x7d".toUTF8 {},
        .packet "a" "\x7b\"d\":\x7b\"k\":2\x7d\x7d".toUTF8 {}, .drain "room" none,
        .packet "a" .empty {}, .unhookPath 0 0 "k", .shutdown true]
    let left := (e.startSession ⟨"GL", 7⟩ config
      { modules := [faultyModule, steadyModule, faultyModule] }).1
    let right := (e.startSession ⟨"GL", 7⟩ config { modules := [steadyModule] }).1
    (left.live 0 steps).refusals = 0 ∧ right.watch 0 steps = left.watch 0 steps ∧
      ((left.live 0 steps).listeners.find? "lost").map (·.waiting.length) = some 0 := by
  intro config ls e steps left right
  let registry : ModuleRegistry (Nat × Option HookHandle) :=
    { modules := [faultyModule, steadyModule, faultyModule] }
  have hverdicts : (e.withSession ⟨"GL", 7⟩ config).verdicts 0 ⟨"GL", 7⟩ registry.modules =
      [(faultyModule, false), (steadyModule, true), (faultyModule, false)] := by
    simp only [verdicts, registry, gather, List.cons_append, List.nil_append, List.cons.injEq,
      Prod.mk.injEq, true_and, and_true, e, ls, config]
    decide +kernel
  have hroom : (left.live 0 steps).refusals = 0 := by
    simp only [left, steps, e, ls, config]
    decide +kernel
  let own : String → Bool := fun name => name = "room"
  have hapart : ActApart own HoldSame 0 e.memory
      ((e.withSession ⟨"GL", 7⟩ config).verdicts 0 ⟨"GL", 7⟩ registry.modules) := by
    rw [hverdicts]
    refine ⟨fun kept => .none, fun m hm kept i hi => ?_, fun m hm kept i => ?_⟩
    · obtain rfl : m = steadyModule := by simpa using hm
      exact reduces_steadyModule (decide_eq_true rfl) kept hi
    · obtain rfl : m = faultyModule := by simpa using hm
      exact secluded_faultyModule kept i
  obtain ⟨-, -, hwatch, hidle, -⟩ :=
    startSession_without_discarded e ⟨"GL", 7⟩ config registry own HoldSame hapart steps hroom
  have hright : e.withoutDiscarded ⟨"GL", 7⟩ config registry = { modules := [steadyModule] } := by
    unfold withoutDiscarded
    rw [show e.sessions.length = 0 from rfl, hverdicts]
    rfl
  have hlost : (left.live 0 steps).listeners.find? "lost" =
      Listeners.find? (steps.foldl SessionStep.receive ls) "lost" :=
    hidle "lost" (decide_eq_false (by decide))
  rw [hright] at hwatch
  refine ⟨hroom, hwatch, ?_⟩
  rw [hlost]
  rfl

end Engine

end Intercept
