import Intercept.Proofs.Proxy.Operations
import Intercept.Proofs.Proxy.Sound
import Intercept.Proofs.Session.Lineup

/-!
# The record of a proxy

The record of a proxy are all activities of its modules since some point, in order. They are those of
the operations that the engine performs (`Proxy.run_performs`): a login, for one, first shuts down the
session that the identity has, then starts the new one, and then dispatches the packet.

A record is orderly (`run_orderly`). Who has a turn in a step can be told from the proxy before the
step: in a login the modules of the session that is replaced, in a shutdown of the proxy those of all
current sessions, otherwise none (`turns_step`). And a record tells the line-up of every session
(`Lined.run`).
-/

namespace Intercept

namespace Proxy

variable {σ γ : Type}

/-! ### Records are orderly -/

/-- Every step is orderly. -/
theorem step_orderly (p : Proxy σ γ) (s : ProxyStep σ) :
    Orderly p.engine.slots (p.stepActivity s) (p.step s).engine.slots :=
  (p.step_performs s).orderly

/-- The record of a run is orderly. -/
theorem run_orderly (p : Proxy σ γ) (steps : List (ProxyStep σ)) :
    Orderly p.engine.slots (p.record steps) (p.run steps).engine.slots :=
  (p.run_performs steps).orderly

/-! ### What is picked from a step -/

/-- What is about neither handlers nor the registration of callbacks is picked from a login, up to
its packet, or from a shutdown of the proxy. -/
theorem filterMap_stepActivity {α : Type} {pick : Activity σ → Option α}
    (hregisters : ∀ ctx callback, pick (.registers ctx callback) = none)
    (hhandles : ∀ session hook packet, pick (.handles session hook packet) = none)
    (p : Proxy σ γ) (s : ProxyStep σ) : (p.stepActivity s).filterMap pick =
      match s with
      | .traffic (.shutdown rank) =>
        (shutdownsActivity p.engine (p.arranged rank)).filterMap pick
      | _ =>
        match s.login? p.config p.filter with
        | some key => (p.loginActivity key).filterMap pick
        | none => [] := by
  have hcode : ∀ (e : Engine σ) program, (e.activity program).filterMap pick = [] :=
    fun e program => Engine.filterMap_activity hregisters program e
  have hdispatch : ∀ (e : Engine σ) n op payload exchange,
      (e.dispatchActivity n op payload exchange).filterMap pick = [] :=
    Engine.filterMap_dispatchActivity hregisters hhandles
  cases s with
  | code program => exact hcode p.engine program
  | traffic t =>
    cases t with
    | request name r =>
      rw [stepActivity, requestActivity, ProxyStep.login?, Traffic.login?]
      cases r.destination p.config p.filter with
      | login key =>
        simp only
        rw [List.filterMap_append, forwardActivity, hdispatch, List.append_nil]
      | current key =>
        simp only
        cases p.session? key with
        | none => rfl
        | some n => exact hdispatch _ _ _ _ _
      | nowhere isBlocked => rfl
    | response name body =>
      rw [stepActivity]
      cases p.exchange? name with
      | none => rfl
      | some x =>
        simp only [responseActivity]
        split_ifs
        · rfl
        · cases x.session with
          | none => rfl
          | some n => exact hdispatch _ _ _ _ _
    | finish name => rfl
    | start =>
      rw [stepActivity]
      split_ifs
      · rfl
      · rw [filterMap_gather hcode]
        exact List.flatMap_eq_nil_iff.2 fun _ _ => rfl
    | shutdown rank => rfl

/-! ### Whose turn it is -/

/-- Who has a turn when the session of an identity gives way to a new one. -/
def closingTurns (p : Proxy σ γ) (key : SessionKey) : List (ContextId × Bool) :=
  match p.session? key with
  | none => []
  | some old => (p.engine.loaded old).map fun i => (⟨old, i⟩, false)

/-- Who has a turn in a step, and whether the process ends then. -/
def turns (p : Proxy σ γ) (s : ProxyStep σ) : List (ContextId × Bool) :=
  match s with
  | .traffic (.shutdown rank) =>
    (p.arranged rank).flatMap fun entry => (p.engine.loaded entry.2).map fun i => (⟨entry.2, i⟩, true)
  | _ =>
    match s.login? p.config p.filter with
    | some key => p.closingTurns key
    | none => []

/-- When the session of an identity gives way to a new one, it is the turn of its modules. -/
lemma turns_closing (p : Proxy σ γ) (key : SessionKey) :
    (p.closingActivity key).filterMap Activity.turn? = p.closingTurns key := by
  unfold closingActivity closingTurns
  cases p.session? key with
  | none => rfl
  | some old => exact p.engine.turns_shutdown old false

/-- When current sessions are shut down, it is the turn of their modules. -/
lemma turns_shutdowns (e : Engine σ) (table : List (SessionKey × Nat)) :
    (shutdownsActivity e table).filterMap Activity.turn? =
      table.flatMap fun entry => (e.loaded entry.2).map fun i => (⟨entry.2, i⟩, true) := by
  induction table generalizing e with
  | nil => rfl
  | cons entry table ih =>
    have hlasts : ∀ n, (e.shutdown entry.2 true).loaded n = e.loaded n := by
      intro n
      rw [Engine.loaded_eq, Engine.loaded_eq, Engine.lasting_lineups.shutdown]
    have hsplit : shutdownsActivity e (entry :: table) =
        e.shutdownActivity entry.2 true ++ shutdownsActivity (e.shutdown entry.2 true) table := rfl
    rw [hsplit, List.filterMap_append, e.turns_shutdown, ih, List.flatMap_cons]
    simp only [hlasts]

/-- Whose turn it is in a step can be told before. -/
theorem turns_step (p : Proxy σ γ) (s : ProxyStep σ) :
    (p.stepActivity s).filterMap Activity.turn? = p.turns s := by
  have hlogin : ∀ key, (p.loginActivity key).filterMap Activity.turn? = p.closingTurns key := by
    intro key
    rw [loginActivity, List.filterMap_append, turns_closing,
      Engine.filterMap_startActivity (fun _ _ => rfl) (fun _ => rfl) fun _ _ => rfl,
      List.append_nil]
  rw [filterMap_stepActivity (fun _ _ => rfl) fun _ _ _ => rfl]
  unfold turns
  split
  · exact turns_shutdowns p.engine _
  · split
    · exact hlogin _
    · rfl

/-- Closing a session is nothing but turns of its modules, and what they do in them. -/
lemma filterMap_closingActivity {β : Type} {pick : Activity σ → Option β}
    (hregisters : ∀ ctx callback, pick (.registers ctx callback) = none)
    (hturn : ∀ ctx processEnds, pick (.turn ctx processEnds) = none)
    (hinvokes : ∀ ctx callback processEnds, pick (.invokes ctx callback processEnds) = none)
    (p : Proxy σ γ) (key : SessionKey) : (p.closingActivity key).filterMap pick = [] := by
  unfold closingActivity
  cases p.session? key with
  | none => rfl
  | some old =>
    exact Engine.filterMap_shutdownActivity hregisters hturn hinvokes p.engine old false

/-! ### Line-ups in the record -/

/-- Ending the life of sessions leaves the line-ups alone. -/
lemma lineups_dropUnused (p : Proxy σ γ) : p.dropUnused.engine.lineups = p.engine.lineups :=
  map_dropUnused (fun _ _ => rfl) p

/-- No init function ends in a step that is not a login. -/
lemma ended_step (p : Proxy σ γ) (s : ProxyStep σ) (n : Nat) :
    (p.stepActivity s).filterMap (Activity.ended? n) =
      match s.login? p.config p.filter with
      | some key => (((p.closed key).emit [.count .sessionsCreated 1]).startActivity key
          p.config.state p.registry).filterMap (Activity.ended? n)
      | none => [] := by
  have hshutdown : ∀ (e : Engine σ) m processEnds,
      (e.shutdownActivity m processEnds).filterMap (Activity.ended? n) = [] :=
    Engine.filterMap_shutdownActivity (fun _ _ => rfl) (fun _ _ => rfl) fun _ _ _ => rfl
  have hshutdowns : ∀ entries,
      (shutdownsActivity p.engine entries).filterMap (Activity.ended? n) = [] := by
    intro entries
    have hentry : ∀ (e : Engine σ) (entry : SessionKey × Nat),
        (e.shutdownActivity entry.2 true).filterMap (Activity.ended? n) = [] :=
      fun e entry => hshutdown e entry.2 true
    rw [shutdownsActivity, filterMap_gather hentry]
    exact List.flatMap_eq_nil_iff.2 fun _ _ => rfl
  have hclosing : ∀ key, (p.closingActivity key).filterMap (Activity.ended? n) = [] :=
    filterMap_closingActivity (fun _ _ => rfl) (fun _ _ => rfl) (fun _ _ _ => rfl) p
  rw [filterMap_stepActivity (fun _ _ => rfl) fun _ _ _ => rfl]
  split
  · exact hshutdowns _
  · cases s.login? p.config p.filter with
    | none => rfl
    | some key =>
      simp only
      rw [loginActivity, List.filterMap_append, hclosing, List.nil_append]

/-- A step either leaves the line-ups as they are, and no init function ends in it. Or it adds the
line-up of a new session, all of whose init functions end in it. -/
lemma lineups_step (p : Proxy σ γ) (s : ProxyStep σ) :
    ((p.step s).engine.lineups = p.engine.lineups ∧
      ∀ n, (p.stepActivity s).filterMap (Activity.ended? n) = []) ∨
    ∃ ended, ended.map Prod.fst = List.range p.registry.modules.length ∧
      (p.step s).engine.lineups =
        p.engine.lineups ++ [(p.registry.names, Engine.finished ended)] ∧
      ∀ n, (p.stepActivity s).filterMap (Activity.ended? n) =
        if n = p.engine.sessions.length then ended else [] := by
  have hview := view_step Engine.lasting_lineups Engine.lineups_ingest lineups_dropUnused p s
  have hended := p.ended_step s
  cases hlogin : s.login? p.config p.filter with
  | none =>
    rw [hlogin] at hview hended
    exact Or.inl ⟨hview, hended⟩
  | some key =>
    rw [hlogin] at hview hended
    have hlength : ((p.closed key).emit [.count .sessionsCreated 1]).sessions.length =
        p.engine.sessions.length := p.length_closed key
    obtain ⟨ended, hself, hindices, hlineups⟩ := Engine.lineups_startSession
      ((p.closed key).emit [.count .sessionsCreated 1]) key p.config.state p.registry
    refine Or.inr ⟨ended, hindices, ?_, fun n => ?_⟩
    · rw [← p.view_closed Engine.lasting_lineups key]
      exact hview.trans hlineups
    · refine (hended n).trans ?_
      by_cases heq : n = p.engine.sessions.length
      · rw [if_pos heq, heq, ← hlength]
        exact hself
      · rw [if_neg heq]
        exact Engine.ended_start_of_ne (fun h => heq (h.symm.trans hlength)) _ _ _

/-- Whoever has a turn in a step takes part in a session. -/
lemma mem_turns {p : Proxy σ γ} {s : ProxyStep σ} {ctx : ContextId} {processEnds : Bool}
    (h : (ctx, processEnds) ∈ p.turns s) : ctx.index ∈ p.engine.loaded ctx.session := by
  unfold turns closingTurns at h
  split at h
  · obtain ⟨entry, -, hentry⟩ := List.mem_flatMap.1 h
    obtain ⟨i, hi, heq⟩ := List.mem_map.1 hentry
    obtain ⟨rfl, -⟩ := Prod.mk.inj heq
    exact hi
  · split at h
    · split at h
      · contradiction
      · obtain ⟨i, hi, heq⟩ := List.mem_map.1 h
        obtain ⟨rfl, -⟩ := Prod.mk.inj heq
        exact hi
    · contradiction

/-- A record tells the line-up of every session: the modules of the registry in order, and of these
take part in a session those whose init function has finished. Only they have had a turn. -/
structure Lined (p : Proxy σ γ) (record : List (Activity σ)) : Prop where
  lineup : ∀ (n : Nat) names loaded, p.engine.lineups[n]? = some (names, loaded) →
    names = p.registry.names ∧ loaded = Engine.finished (record.filterMap (Activity.ended? n)) ∧
      (record.filterMap (Activity.ended? n)).map Prod.fst = List.range p.registry.modules.length
  fresh : ∀ n, p.engine.lineups.length ≤ n → record.filterMap (Activity.ended? n) = []
  turn : ∀ ctx processEnds, (ctx, processEnds) ∈ record.filterMap Activity.turn? →
    ctx.index ∈ p.engine.loaded ctx.session

namespace Lined

variable {p : Proxy σ γ} {record : List (Activity σ)}

/-- A record of one step more tells the line-ups after it. -/
lemma step (h : Lined p record) (s : ProxyStep σ) :
    Lined (p.step s) (record ++ p.stepActivity s) := by
  have hregistry : (p.step s).registry = p.registry := congrArg (·.2.2) (p.frame_step s).1
  have hturn : ∀ ctx processEnds,
      (ctx, processEnds) ∈ (record ++ p.stepActivity s).filterMap Activity.turn? →
        ctx.index ∈ p.engine.loaded ctx.session := by
    intro ctx processEnds hmem
    rw [List.filterMap_append, turns_step] at hmem
    rcases List.mem_append.1 hmem with hbefore | hnow
    · exact h.turn ctx processEnds hbefore
    · exact mem_turns hnow
  rcases p.lineups_step s with ⟨hlineups, hended⟩ | ⟨ended, hindices, hlineups, hended⟩
  · refine ⟨fun n names loaded hlineup => ?_, fun n hn => ?_, fun ctx processEnds hmem => ?_⟩
    · rw [hregistry, List.filterMap_append, hended, List.append_nil]
      exact h.lineup n names loaded (hlineups ▸ hlineup)
    · rw [List.filterMap_append, hended, List.append_nil]
      exact h.fresh n (hlineups ▸ hn)
    · rw [Engine.loaded_eq, hlineups, ← Engine.loaded_eq]
      exact hturn ctx processEnds hmem
  · have hlength : p.engine.lineups.length = p.engine.sessions.length := p.engine.length_lineups
    refine ⟨fun n names loaded hlineup => ?_, fun n hn => ?_, fun ctx processEnds hmem => ?_⟩
    · rw [hregistry, List.filterMap_append, hended]
      rw [hlineups] at hlineup
      by_cases hn : n < p.engine.lineups.length
      · rw [if_neg (by omega), List.append_nil]
        rw [List.getElem?_append_left hn] at hlineup
        exact h.lineup n names loaded hlineup
      · have hle : p.engine.lineups.length ≤ n := Nat.le_of_not_lt hn
        have hnew : n = p.engine.lineups.length := by
          have hlt := (List.getElem?_eq_some_iff.1 hlineup).1
          rw [List.length_append, List.length_singleton] at hlt
          omega
        rw [h.fresh n hle, if_pos (hnew.trans hlength), List.nil_append]
        rw [hnew, List.getElem?_concat_length] at hlineup
        obtain ⟨rfl, rfl⟩ := Prod.mk.inj (Option.some.inj hlineup)
        exact ⟨rfl, rfl, hindices⟩
    · rw [hlineups, List.length_append, List.length_singleton] at hn
      rw [List.filterMap_append, hended, h.fresh n (by omega), if_neg (by omega)]
      rfl
    · have hloaded := hturn ctx processEnds hmem
      rw [Engine.loaded_eq] at hloaded ⊢
      have hlt : ctx.session < p.engine.lineups.length := by
        by_contra hge
        rw [List.getElem?_eq_none_iff.2 (Nat.le_of_not_lt hge)] at hloaded
        contradiction
      rw [hlineups, List.getElem?_append_left hlt]
      exact hloaded

/-- A record tells the line-ups all the while. -/
theorem run (h : Lined p record) (steps : List (ProxyStep σ)) :
    Lined (p.run steps) (record ++ p.record steps) := by
  induction steps generalizing p record with
  | nil =>
    rw [Proxy.record, gather, List.append_nil]
    exact h
  | cons s steps ih =>
    have hsplit : p.record (s :: steps) = p.stepActivity s ++ (p.step s).record steps := rfl
    rw [hsplit, ← List.append_assoc]
    exact ih (h.step s)

/-- The record of a proxy that has just been set up is empty. -/
lemma setUp (c : EngineConfig) (f : HostFilter) (registry : ModuleRegistry σ) (memory : σ)
    (ls : Listeners) : Lined (Proxy.setUp c f registry memory ls : Proxy σ γ) [] where
  lineup _ _ _ hlineup := by contradiction
  fresh _ _ := rfl
  turn _ _ hmem := by contradiction

end Lined

end Proxy

end Intercept
