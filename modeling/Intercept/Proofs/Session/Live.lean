import Intercept.Proofs.Session.Ledger

/-!
# Live hooks

A session is started by running the init functions of its modules one after the other. Each of them
is given a seat of its own (`Roster.sit`), which is sealed when the function has returned
(`Roster.close`); if the function failed, what was registered through the seat is taken back
(`Roster.takeBack`). Between two init functions, and ever after the last one, no seat is open: the
roster is `Sealed`, and its hooks can only become fewer.

The outcome is `table_inPriorityOrder`: at any time after a session was started, whatever has
happened to it and to other sessions, its table holds the hooks that stand in its ledger, in the
order of their priorities.
-/

namespace Intercept

variable {σ : Type}

namespace Roster

/-! ### The seat of a module -/

/-- Add an open seat. -/
def sit (r : Roster σ) (module : String) : Roster σ := { r with seats := r.seats ++ [{ module }] }

/-- Seal a seat. -/
def close (r : Roster σ) (j : Nat) : Roster σ :=
  { r with seats := r.seats.modify j fun c => { c with isInitialized := true } }

/-- Take back what was registered through a seat. -/
def takeBack (r : Roster σ) (j : Nat) : Roster σ :=
  { r with
    table := (r.owned j).foldl (fun t id => t.remove id) r.table
    seats := r.seats.modify j fun c => { c with hooks := [] } }

/-- No seat is open, and all hooks have numbers below the next one. -/
structure Sealed (r : Roster σ) : Prop where
  openOnly : r.OpenOnly none
  bound : ∀ g ∈ r.table.hooks, g.id < r.nextHook

/-- A new seat is the only one that is open. -/
lemma openOnly_sit {r : Roster σ} (hopen : r.OpenOnly none) (module : String) :
    (r.sit module).OpenOnly (some (r.seats.length, module)) where
  isAlive := hopen.isAlive
  seats j := by
    have halive := hopen.isAlive
    have hold : r.openSeat? j = none := hopen.seats j
    unfold openSeat? at hold ⊢
    by_cases hj : j < r.seats.length
    · have hne : r.seats.length ≠ j := by omega
      simpa [sit, halive, List.getElem?_append_left hj, Option.filter, hne] using hold
    · by_cases heq : r.seats.length = j
      · subst heq
        simp [sit, halive, Option.filter]
      · have hnone : (r.seats ++ [{ module : Seat }])[j]? = none := by
          rw [List.getElem?_eq_none_iff, List.length_append, List.length_singleton]
          omega
        simp [sit, hnone, Option.filter, heq]

/-- Nothing has been registered through a new seat. -/
lemma owned_sit (r : Roster σ) (module : String) : (r.sit module).owned r.seats.length = [] := by
  simp [sit, owned]

/-- When the open seat is sealed, none is open. -/
lemma openOnly_close {r : Roster σ} {j : Nat} {module : String}
    (hopen : r.OpenOnly (some (j, module))) : (r.close j).OpenOnly none where
  isAlive := hopen.isAlive
  seats i := by
    have hold := hopen.seats i
    unfold openSeat? at hold ⊢
    simp only [close, List.getElem?_modify]
    cases hc : r.seats[i]? with
    | none => simp
    | some c =>
      by_cases hij : j = i
      · simp [hij]
      · simpa [hij, hc, Option.filter] using hold

/-- Sealing a seat does not change what was registered through it. -/
lemma owned_close (r : Roster σ) (j : Nat) : (r.close j).owned j = r.owned j := by
  unfold owned close
  simp only [List.getElem?_modify]
  cases r.seats[j]? <;> simp

/-- Taking back opens no seat. -/
lemma openOnly_takeBack {r : Roster σ} (hopen : r.OpenOnly none) (j : Nat) :
    (r.takeBack j).OpenOnly none where
  isAlive := hopen.isAlive
  seats i := by
    have hold := hopen.seats i
    unfold openSeat? at hold ⊢
    simp only [takeBack, List.getElem?_modify]
    cases hc : r.seats[i]? with
    | none => simp
    | some c => by_cases hij : j = i <;> simpa [hij, hc] using hold

/-- Removing several hooks leaves the others. -/
lemma hooks_foldl_remove {α : Type} (ids : List Nat) (t : HookTable α) :
    (ids.foldl (fun t id => t.remove id) t).hooks = t.hooks.filter fun h => !ids.contains h.id := by
  induction ids generalizing t with
  | nil => simp
  | cons id ids ih =>
    rw [List.foldl_cons, ih, HookTable.remove, List.filter_filter]
    congr 1
    funext h
    by_cases hid : h.id = id <;> simp [hid]

/-- If all that was registered is taken back, what remains of the ledger is what it struck out. -/
lemma Follows.takeBack {r r' : Roster σ} {entries : Ledger σ} {j : Nat} (h : r.Follows entries r')
    (hbound : ∀ g ∈ r.table.hooks, g.id < r.nextHook)
    (howned : r'.owned j = (Register.entered entries).map Hook.id) :
    r.Follows (Register.withoutEntered entries) (r'.takeBack j) where
  key := h.key
  isAlive := h.isAlive
  hooks := by
    have hnew : (Register.standing Hook.id entries).filter
        (fun g => !(r'.owned j).contains g.id) = [] := by
      refine List.filter_eq_nil_iff.2 fun g hg => ?_
      have hmem : g.id ∈ r'.owned j := by
        rw [howned]
        exact List.mem_map.2 ⟨g, (Register.standing_sublist entries).subset hg, rfl⟩
      simpa using hmem
    have hold : (r.table.hooks.filter fun g => !Register.strikes g.id entries).filter
        (fun g => !(r'.owned j).contains g.id) =
          r.table.hooks.filter fun g => !Register.strikes g.id entries := by
      refine List.filter_eq_self.2 fun g hg => ?_
      have hlt := hbound g (List.mem_filter.1 hg).1
      have hnot : g.id ∉ r'.owned j := by
        rw [howned]
        intro hmem
        obtain ⟨g', hg', hid⟩ := List.mem_map.1 hmem
        have hge := (h.mem_numbers hg').1
        omega
      simpa using hnot
    rw [Roster.takeBack, hooks_foldl_remove, h.hooks, List.filter_append, hold, hnew]
    simp only [Register.strikes_withoutEntered, Register.standing_withoutEntered]
  le := h.le
  numbers := by
    rw [Register.entered_withoutEntered]
    exact List.nil_sublist _

end Roster

namespace Engine

/-! ### Initialising a module -/

/-- Another session's roster does not show what happens to a session. -/
lemma roster?_updateSession_of_ne (e : Engine σ) {m n : Nat} (hne : m ≠ n)
    (f : Session σ → Session σ) : (e.updateSession m f).roster? n = e.roster? n := by
  rw [roster?, session?_updateSession, if_neg hne, roster?]

/-- A context that is added takes the next seat. -/
lemma addContext_eq {e : Engine σ} {n : Nat} {r : Roster σ} (hr : e.roster? n = some r)
    (module : String) : ∃ e', e.addContext n module = (e', ⟨n, r.seats.length⟩) ∧
      e'.roster? n = some (r.sit module) := by
  refine ⟨(e.addContext n module).1, Prod.ext rfl ?_, ?_⟩
  · obtain ⟨s, hs, rfl⟩ := Option.map_eq_some_iff.1 hr
    rw [addContext, hs]
    simp [Session.roster]
  · rw [addContext, roster?_updateSession e n n (g := fun r => r.sit module), if_pos rfl, hr]
    · rfl
    · intro s
      exact congrArg (Roster.mk s.key s.table s.isAlive s.nextHook) List.map_append

/-- Sealing a context seals its seat. -/
lemma roster?_closeContext {e : Engine σ} {n : Nat} {r : Roster σ} (hr : e.roster? n = some r)
    (j : Nat) : (e.closeContext ⟨n, j⟩).roster? n = some (r.close j) := by
  rw [closeContext, roster?_updateSession e n n (g := fun r => r.close j), if_pos rfl, hr]
  · rfl
  · intro s
    have hseats : (s.contexts.modify j fun c => { c with isInitialized := true }).map Context.seat =
        (s.contexts.map Context.seat).modify j fun c => { c with isInitialized := true } := by
      refine map_modify ?_ s.contexts j
      exact fun _ => rfl
    exact congrArg (Roster.mk s.key s.table s.isAlive s.nextHook) hseats

/-- Rolling back takes back what was registered through a seat. -/
lemma roster?_rollBack {e : Engine σ} {n : Nat} {r : Roster σ} (hr : e.roster? n = some r)
    (j : Nat) : (e.rollBack ⟨n, j⟩).roster? n = some (r.takeBack j) := by
  obtain ⟨s, hs, rfl⟩ := Option.map_eq_some_iff.1 hr
  cases hc : s.contexts[j]? with
  | none =>
    have hctx : e.context? ⟨n, j⟩ = none := by simp [context?, hs, hc]
    have hseat : s.roster.seats[j]? = none := by simp [Session.roster, hc]
    have hsame : s.roster.takeBack j = s.roster := by
      rw [Roster.takeBack, Roster.owned, hseat,
        List.modify_eq_self (List.getElem?_eq_none_iff.1 hseat)]
      rfl
    rw [rollBack, hctx, hsame]
    exact hr
  | some c =>
    have hctx : e.context? ⟨n, j⟩ = some (s, c) := by simp [context?, hs, hc]
    have howned : s.roster.owned j = c.hooks := by
      simp [Roster.owned, Session.roster, hc, Context.seat]
    rw [rollBack, hctx]
    refine (roster?_updateSession e n n (g := fun r => { r with
      table := c.hooks.foldl (fun t id => t.remove id) r.table
      seats := r.seats.modify j fun c => { c with hooks := [] } }) ?_).trans ?_
    · intro s'
      have hseats : (s'.contexts.modify j fun c =>
            { c with hooks := [], pathHooks := [] }).map Context.seat =
          (s'.contexts.map Context.seat).modify j fun c => { c with hooks := [] } := by
        refine map_modify ?_ s'.contexts j
        exact fun _ => rfl
      exact congrArg (Roster.mk s'.key _ s'.isAlive s'.nextHook) hseats
    · rw [if_pos rfl, hr, Option.map_some, Roster.takeBack, howned]

/-- Initialising a module of a session follows the ledger of its init function, and leaves no seat
open. -/
theorem initModule_follows {e : Engine σ} {n : Nat} {r : Roster σ} (hr : e.roster? n = some r)
    (hsealed : r.Sealed) (key : SessionKey) (module : ModuleDescriptor σ) :
    ∃ r', (e.initModule n key module).roster? n = some r' ∧
      r.Follows (e.initLedger n n module) r' ∧ r'.Sealed := by
  obtain ⟨e₁, hadd, hsit⟩ := addContext_eq hr module.name
  have hopen := Roster.openOnly_sit hsealed.openOnly module.name
  obtain ⟨r₁, hr₁, hadv⟩ := run_advances (module.init ⟨n, r.seats.length⟩) hsit hopen
  have hsame : r.Follows [] (r.sit module.name) := .of_eq rfl rfl rfl rfl
  -- Sealing the seat is not seen by the hooks.
  have hshut : r₁.Follows [] (r₁.close r.seats.length) := .of_eq rfl rfl rfl rfl
  have hfollows := (hsame.trans hadv.toFollows).trans hshut
  rw [List.nil_append, List.append_nil] at hfollows
  have hclosed := Roster.openOnly_close hadv.openOnly
  rcases initModule_cases e n key module hadd with
    ⟨e₂, output, hrun, hinit⟩ | ⟨e₂, fault, hrun, hinit⟩
  · have hclose := roster?_closeContext (hrun ▸ hr₁) r.seats.length
    rw [hinit, initLedger, hadd]
    simp only [if_true, hrun]
    refine ⟨r₁.close r.seats.length, ?_, hfollows, hclosed, hfollows.bound hsealed.bound⟩
    refine (roster?_updateSession_self _ n n ?_).trans hclose
    exact fun _ => rfl
  · have hclose := roster?_closeContext (hrun ▸ hr₁) r.seats.length
    have hnoted : ((e₂.closeContext ⟨n, r.seats.length⟩).note
        (.initFault module.name key.display fault.message)).roster? n =
          some (r₁.close r.seats.length) := hclose
    have howned : (r₁.close r.seats.length).owned r.seats.length = (Register.entered
        (e₁.ledger n (some (r.seats.length, module.name)) (module.init ⟨n, r.seats.length⟩))).map
          Hook.id := by
      rw [Roster.owned_close, hadv.owned _ _ rfl, Roster.owned_sit, List.nil_append]
    have hback := hfollows.takeBack hsealed.bound howned
    rw [hinit, initLedger, hadd]
    simp only [if_true, hrun]
    exact ⟨_, roster?_rollBack hnoted r.seats.length, hback, Roster.openOnly_takeBack hclosed _,
      hback.bound hsealed.bound⟩

/-! ### Sealed sessions -/

/-- Some steps keep session `n` sealed: its hooks become fewer as the entries say. -/
def Keeps (n : Nat) (e : Engine σ) (entries : Ledger σ) (e' : Engine σ) : Prop :=
  ∀ r, e.roster? n = some r → r.Sealed →
    ∃ r', e'.roster? n = some r' ∧ r.Follows entries r' ∧ r'.Sealed ∧ r'.nextHook = r.nextHook

namespace Keeps

variable {n : Nat} {e e₁ e₂ : Engine σ} {entries entries' : Ledger σ}

/-- What a roster does not show keeps the session. -/
lemma of_eq (h : e₁.roster? n = e.roster? n) : Keeps n e [] e₁ :=
  fun r hr hsealed => ⟨r, h.trans hr, .refl r, hsealed, rfl⟩

/-- One step after another one. -/
theorem trans (h : Keeps n e entries e₁) (h' : Keeps n e₁ entries' e₂) :
    Keeps n e (entries ++ entries') e₂ := by
  intro r hr hsealed
  obtain ⟨r₁, hr₁, hfollows, hsealed₁, hnext⟩ := h r hr hsealed
  obtain ⟨r₂, hr₂, hfollows', hsealed₂, hnext'⟩ := h' r₁ hr₁ hsealed₁
  exact ⟨r₂, hr₂, hfollows.trans hfollows', hsealed₂, hnext'.trans hnext⟩

/-- A step whose ending a roster does not show. -/
lemma trans_eq (h : Keeps n e entries e₁) (h' : e₂.roster? n = e₁.roster? n) :
    Keeps n e entries e₂ := by
  have htrans := h.trans (of_eq h')
  rwa [List.append_nil] at htrans

/-- A step whose beginning a roster does not show. -/
lemma eq_trans (h : e₁.roster? n = e.roster? n) (h' : Keeps n e₁ entries e₂) :
    Keeps n e entries e₂ := (of_eq h).trans h'

/-- A session that remains sealed gets no new hooks. -/
lemma withoutEntered (h : Keeps n e entries e₁) :
    Keeps n e (Register.withoutEntered entries) e₁ := by
  intro r hr hsealed
  obtain ⟨r₁, hr₁, hfollows, hsealed₁, hnext⟩ := h r hr hsealed
  rw [Register.withoutEntered_of_entered_eq_nil (hfollows.entered_eq_nil hnext)]
  exact ⟨r₁, hr₁, hfollows, hsealed₁, hnext⟩

end Keeps

/-- If each step keeps the session, all of them do. -/
lemma foldl_keeps {α β : Type} {n : Nat} (engine : β → Engine σ) {step : β → α → β}
    {entries : β → α → Ledger σ}
    (hstep : ∀ w x, Keeps n (engine w) (entries w x) (engine (step w x))) (xs : List α) (w : β) :
    Keeps n (engine w) (foldLedger step entries w xs) (engine (xs.foldl step w)) := by
  induction xs generalizing w with
  | nil => exact .of_eq rfl
  | cons x xs ih => exact (hstep w x).trans (ih (step w x))

/-- Running code keeps a session sealed. -/
lemma run_keeps (n : Nat) (e : Engine σ) (p : Program σ) :
    Keeps n e (e.ledger n none p) (e.run p).1 := by
  intro r hr hsealed
  obtain ⟨r', hr', hadv⟩ := run_advances p hr hsealed.openOnly
  exact ⟨r', hr', hadv.toFollows, ⟨hadv.openOnly, hadv.bound hsealed.bound⟩, hadv.nextHook rfl⟩

/-- Rolling back a context of another session is not seen in a roster. -/
lemma roster?_rollBack_of_ne (e : Engine σ) {ctx : ContextId} {n : Nat} (hne : ctx.session ≠ n) :
    (e.rollBack ctx).roster? n = e.roster? n := by
  unfold rollBack
  cases e.context? ctx with
  | none => rfl
  | some sc => exact roster?_updateSession_of_ne e hne _

/-- The init function of a module for another session keeps a session sealed. -/
lemma initModule_keeps {n m : Nat} (hne : m ≠ n) (e : Engine σ) (key : SessionKey)
    (module : ModuleDescriptor σ) :
    Keeps n e (e.initLedger n m module) (e.initModule m key module) := by
  cases hadd : e.addContext m module.name with
  | mk e₁ ctx =>
    have hroster : e₁.roster? n = e.roster? n := by
      rw [← show (e.addContext m module.name).1 = e₁ by rw [hadd]]
      exact roster?_updateSession_of_ne e hne _
    have hctx : ctx.session ≠ n := by
      rw [← show (e.addContext m module.name).2 = ctx by rw [hadd]]
      exact hne
    have hrun := (run_keeps n e₁ (module.init ctx)).eq_trans hroster
    rcases initModule_cases e m key module hadd with
      ⟨e₂, output, hout, hinit⟩ | ⟨e₂, fault, hout, hinit⟩
    · rw [hout] at hrun
      have hclose : Keeps n e _ (e₂.closeContext ctx) :=
        hrun.trans_eq (roster?_updateSession_of_ne e₂ hctx _)
      rw [hinit, initLedger, hadd]
      simp only [if_neg hne, hout]
      exact hclose.trans_eq (roster?_updateSession_of_ne _ hne _)
    · rw [hout] at hrun
      have hclose : Keeps n e _ (e₂.closeContext ctx) :=
        hrun.trans_eq (roster?_updateSession_of_ne e₂ hctx _)
      rw [hinit, initLedger, hadd]
      simp only [if_neg hne, hout]
      have hback := roster?_rollBack_of_ne ((e₂.closeContext ctx).note
        (.initFault module.name key.display fault.message)) hctx
      exact (hclose.trans_eq hback).withoutEntered

/-- The start of another session keeps a session sealed. -/
lemma startSession_keeps (n : Nat) (e : Engine σ) (key : SessionKey) (config : StateConfig)
    (registry : ModuleRegistry σ) :
    Keeps n e (e.startLedger n key config registry) (e.startSession key config registry).1 := by
  intro r hr
  have hlt : n < e.sessions.length := by
    obtain ⟨s, hs, -⟩ := Option.map_eq_some_iff.1 hr
    exact (List.getElem?_eq_some_iff.1 hs).1
  have hne : e.sessions.length ≠ n := by omega
  have hnew : roster? { e with sessions := e.sessions ++ [{ key, store := { config } }] } n =
      e.roster? n := by
    rw [roster?, roster?, session?, session?, List.getElem?_append_left hlt]
  have hfold : Keeps n { e with sessions := e.sessions ++ [{ key, store := { config } }] }
      (e.startLedger n key config registry)
      (registry.modules.foldl (fun e' module => e'.initModule e.sessions.length key module)
        { e with sessions := e.sessions ++ [{ key, store := { config } }] }) :=
    foldl_keeps id (fun e' module => initModule_keeps hne e' key module) registry.modules _
  exact (hfold.eq_trans hnew).trans_eq (roster?_updateSession_of_ne _ hne _) r hr

/-- Passing a packet through a hook keeps a session sealed. -/
lemma runHook_keeps (n : Nat) (key : SessionKey) (op : String) (exchange : PacketMeta)
    (w : Engine σ × ByteArray) (h : Hook (Packet → Program σ)) :
    Keeps n w.1 (w.1.ledger n none (h.handler { op, payload := w.2, exchange }))
      (runHook key op exchange w h).1 := by
  obtain ⟨signals, -, hrun⟩ := runHook_fst key op exchange w h
  rw [hrun]
  exact run_keeps n w.1 _

/-- Running a shutdown callback keeps a session sealed. -/
lemma shutdownModule_keeps (n m : Nat) (key : SessionKey) (processEnds : Bool) (e : Engine σ)
    (i : Nat) :
    Keeps n e
      (match (e.context? ⟨m, i⟩).bind (·.2.shutdown) with
        | none => []
        | some callback => (e.takeShutdown m i).ledger n none (callback processEnds))
      (shutdownModule m key processEnds e i) := by
  rcases shutdownModule_cases m key processEnds e i with
    ⟨hnone, heq⟩ | ⟨callback, hsome, signals, -, heq⟩
  · rw [hnone, heq]
    exact .of_eq rfl
  · have htake : (e.takeShutdown m i).roster? n = e.roster? n :=
      roster?_updateSession_self e m n fun s => s.roster_updateContext i fun _ => rfl
    rw [hsome, heq]
    exact (run_keeps n _ (callback processEnds)).eq_trans htake

/-- Every step keeps a session sealed. -/
theorem step_keeps (n : Nat) (e : Engine σ) (s : EngineStep σ) :
    Keeps n e (e.stepLedger n s) (e.step s) := by
  cases s with
  | code p => exact run_keeps n e p
  | packet m op payload exchange =>
    rw [step, stepLedger, dispatch]
    have hingest := e.roster?_ingest m op payload n
    cases (e.ingest m op payload).session? m with
    | none => exact .of_eq hingest
    | some s =>
      exact .eq_trans hingest
        (foldl_keeps Prod.fst (runHook_keeps n s.key op exchange) (s.table.chainFor op)
          (e.ingest m op payload, payload))
  | shutdown m processEnds =>
    rw [step, stepLedger, shutdown]
    cases e.session? m with
    | none => exact .of_eq rfl
    | some s => exact foldl_keeps id (shutdownModule_keeps n m s.key processEnds) s.modules e
  | start key config registry => exact startSession_keeps n e key config registry
  | receive change => exact .of_eq rfl

/-- Whatever happens, a session remains sealed. -/
theorem runSteps_keeps (n : Nat) (e : Engine σ) (steps : List (EngineStep σ)) :
    Keeps n e (e.stepsLedger n steps) (e.runSteps steps) :=
  foldl_keeps id (step_keeps n) steps e

/-! ### Live hooks -/

/-- The init functions of a session's modules follow the ledger of its start. -/
lemma foldl_initModule_follows (n : Nat) (key : SessionKey) (modules : List (ModuleDescriptor σ))
    {e : Engine σ} {r : Roster σ} (hr : e.roster? n = some r) (hsealed : r.Sealed) :
    ∃ r', (modules.foldl (fun e module => e.initModule n key module) e).roster? n = some r' ∧
      r.Follows (foldLedger (fun e module => e.initModule n key module)
        (fun e module => e.initLedger n n module) e modules) r' ∧ r'.Sealed := by
  induction modules generalizing e r with
  | nil => exact ⟨r, hr, .refl r, hsealed⟩
  | cons module modules ih =>
    obtain ⟨r₁, hr₁, hfollows, hsealed₁⟩ := initModule_follows hr hsealed key module
    obtain ⟨r₂, hr₂, hfollows', hsealed₂⟩ := ih hr₁ hsealed₁
    exact ⟨r₂, hr₂, hfollows.trans hfollows', hsealed₂⟩

/-- A session that has just been started holds the hooks that stand in the ledger of its start, in
the order of their priorities. -/
theorem startSession_inPriorityOrder (e : Engine σ) (key : SessionKey) (config : StateConfig)
    (registry : ModuleRegistry σ) :
    let n := e.sessions.length
    let entries := e.startLedger n key config registry
    ∃ r, (e.startSession key config registry).1.roster? n = some r ∧ r.Sealed ∧ r.key = key ∧
      InPriorityOrder (Register.standing Hook.id entries) r.table.hooks ∧
      ((Register.entered entries).map Hook.id).Nodup := by
  intro n entries
  have hfresh : roster? { e with sessions := e.sessions ++ [{ key, store := { config } }] } n =
      some { key } := by
    rw [roster?, session?, List.getElem?_append_right (Nat.le_refl _), Nat.sub_self]
    rfl
  have hsealed : ({ key } : Roster σ).Sealed := ⟨⟨rfl, fun j => rfl⟩, by simp⟩
  obtain ⟨r, hr, hfollows, hsealed'⟩ :=
    foldl_initModule_follows n key registry.modules hfresh hsealed
  have hhooks : r.table.hooks = Register.standing Hook.id entries := hfollows.hooks
  refine ⟨{ r with table := r.table.sort }, ?_, ⟨⟨?_, ?_⟩, ?_⟩, hfollows.key, ?_, ?_⟩
  · rw [startSession, completeSession, roster?_updateSession _ _ n
      (g := fun r => { r with table := r.table.sort }) fun _ => rfl, if_pos rfl]
    exact congrArg (Option.map _) hr
  · exact hsealed'.openOnly.isAlive
  · exact hsealed'.openOnly.seats
  · intro g hg
    exact hsealed'.bound g ((HookTable.inPriorityOrder_sort r.table).perm.mem_iff.1 hg)
  · rw [← hhooks]
    exact r.table.inPriorityOrder_sort
  · exact hfollows.numbers.nodup List.nodup_range'

/-- At any time after a session was started its table holds the hooks that stand in its ledger, in
the order of their priorities, and none of its seats is open. -/
theorem table_inPriorityOrder (e : Engine σ) (key : SessionKey) (config : StateConfig)
    (registry : ModuleRegistry σ) (later : List (EngineStep σ)) :
    let n := e.sessions.length
    let e₁ := (e.startSession key config registry).1
    let live := Register.standing Hook.id
      (e.startLedger n key config registry ++ e₁.stepsLedger n later)
    ∃ r, (e₁.runSteps later).roster? n = some r ∧ r.Sealed ∧ r.key = key ∧
      InPriorityOrder live r.table.hooks ∧ (live.map Hook.id).Nodup := by
  intro n e₁ live
  obtain ⟨r, hr, hsealed, hkey, horder, hnodup⟩ :=
    startSession_inPriorityOrder e key config registry
  obtain ⟨r', hr', hfollows, hsealed', hnext⟩ := runSteps_keeps n e₁ later r hr hsealed
  have hnone : Register.standing Hook.id (e₁.stepsLedger n later) = [] := by
    have hsub := @Register.standing_sublist _ Hook.id (e₁.stepsLedger n later)
    rw [hfollows.entered_eq_nil hnext] at hsub
    exact List.sublist_nil.1 hsub
  have hlive : live = (Register.standing Hook.id (e.startLedger n key config registry)).filter
      fun h => !Register.strikes h.id (e₁.stepsLedger n later) := by
    change Register.standing Hook.id (_ ++ _) = _
    rw [Register.standing_append, hnone, List.append_nil]
  have hhooks := hfollows.hooks
  rw [hnone, List.append_nil] at hhooks
  refine ⟨r', hr', hsealed', hfollows.key.trans hkey, ?_, ?_⟩
  · rw [hlive, hhooks]
    exact horder.filter _
  · have hsub : live.Sublist (Register.entered (e.startLedger n key config registry)) := by
      rw [hlive]
      exact List.filter_sublist.trans (Register.standing_sublist _)
    exact (hsub.map Hook.id).nodup hnodup

end Engine

end Intercept
