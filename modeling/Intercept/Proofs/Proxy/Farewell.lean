import Intercept.Proofs.Proxy.Record
import Intercept.Proofs.Session.Callback

/-!
# The end of sessions

A session ends when its user logs in again, and all current sessions do so when the proxy is shut
down. The modules that take part in the session then have their turns, and whoever holds a callback
at its turn has it invoked. `run_invokes_callbacks_held` says this of every run: no callback is
invoked twice or without a turn, none is skipped, and the two ways in which a session can end are
told apart by what the callback is told.

Callbacks may be registered at any time and by anybody who knows the context, by other callbacks
too, and any of them may fail. None of this matters for whose turn it is: the line-up of a session is
settled when it is started (`Proofs.Session.Lineup`).
-/

namespace Intercept

open Activity

namespace Proxy

variable {σ γ : Type}

/-- The record of a proxy that has just been set up is orderly from empty slots. -/
lemma setUp_orderly (c : EngineConfig) (f : HostFilter) (registry : ModuleRegistry σ) (memory : σ)
    (ls : Listeners) (steps : List (ProxyStep σ)) :
    let p : Proxy σ γ := setUp c f registry memory ls
    Orderly (fun _ => none) (p.record steps) (p.run steps).engine.slots := by
  intro p
  exact p.run_orderly steps

/-- What is held in a record that begins with empty slots was registered in it. -/
lemma holds_of_held {record : List (Activity σ)} {j : Nat} {ctx : ContextId}
    {callback : Bool → Program σ} (h : Held (fun _ => none) record j ctx callback) :
    ∃ i, Holds record i j ctx callback := by
  rcases h with hheld | ⟨hslot, -⟩
  · exact hheld
  · contradiction

/-- A turn is had in a login of the identity whose session it is, or in a shutdown of the proxy. -/
lemma turns_cases {p : Proxy σ γ} {s : ProxyStep σ} {ctx : ContextId} {processEnds : Bool}
    (h : (ctx, processEnds) ∈ p.turns s) :
    (processEnds = false ∧
      ∃ key, s.login? p.config p.filter = some key ∧ p.session? key = some ctx.session) ∨
    processEnds = true ∧ (∃ rank, s = .traffic (.shutdown rank)) ∧
      ∃ key, (key, ctx.session) ∈ p.table := by
  unfold turns closingTurns at h
  split at h
  · obtain ⟨entry, hmem, hentry⟩ := List.mem_flatMap.1 h
    obtain ⟨i, -, heq⟩ := List.mem_map.1 hentry
    obtain ⟨rfl, rfl⟩ := Prod.mk.inj heq
    exact Or.inr ⟨rfl, ⟨_, rfl⟩, entry.1, mem_arranged.1 hmem⟩
  · split at h
    · next key hlogin =>
      split at h
      · contradiction
      · next old hsession =>
        obtain ⟨i, -, heq⟩ := List.mem_map.1 h
        obtain ⟨rfl, rfl⟩ := Prod.mk.inj heq
        exact Or.inl ⟨rfl, key, hlogin, hsession⟩
    · contradiction

/-- A module whose init function has failed has no turn. -/
lemma Lined.not_turn {p : Proxy σ γ} {record : List (Activity σ)} (h : Lined p record)
    {ctx : ContextId} (hfailed : .initEnds ctx false ∈ record) (processEnds : Bool) :
    (ctx, processEnds) ∉ record.filterMap turn? := by
  intro hturn
  have hloaded := h.turn ctx processEnds hturn
  rw [Engine.loaded_eq] at hloaded
  cases hlineup : p.engine.lineups[ctx.session]? with
  | none =>
    rw [hlineup] at hloaded
    contradiction
  | some lineup =>
    obtain ⟨-, hfinished, hindices⟩ := h.lineup ctx.session lineup.1 lineup.2 hlineup
    rw [hlineup, Option.map_some, Option.getD_some, hfinished] at hloaded
    obtain ⟨ended, hended, hindex⟩ := List.mem_map.1 hloaded
    obtain ⟨hended, hfinished⟩ := List.mem_filter.1 hended
    have hother : (ctx.index, false) ∈ record.filterMap (ended? ctx.session) :=
      List.mem_filterMap.2 ⟨_, hfailed, if_pos rfl⟩
    have hnodup : ((record.filterMap (ended? ctx.session)).map Prod.fst).Nodup := by
      rw [hindices]
      exact List.nodup_range
    have hsame : ended = (ctx.index, false) :=
      List.inj_on_of_nodup_map hnodup hended hother hindex
    rw [hsame] at hfinished
    contradiction

/-- Shutdown callbacks are invoked at most once, and none is skipped. Whatever modules do and in
whatever order users log in and the proxy is shut down, of the record of all activities and of one
more step it holds:

* What is invoked is the callback that its context holds, right after the turn of the context, and
  it is told what the turn says.
* A registration is invoked at most once.
* A callback that is replaced by another one before it was invoked is never invoked.
* A callback of a module whose init function has failed is never invoked.
* At a turn of a context that holds a callback, this is invoked. The callbacks that contexts hold in
  the end are those in their slots.
* All modules of the registry have contexts in a session, in their order, and those take part whose
  init function has finished.
* In a step it is the turn of the modules that take part in the session which a login replaces, or
  in all current sessions when the proxy is shut down, in their order; the sessions come in the order
  of the rank that the shutdown has met.
* The callback is told that the process ends exactly if the proxy is shut down. Otherwise the step
  is a login of the identity that has had the session so far. -/
theorem run_invokes_callbacks_held (c : EngineConfig) (f : HostFilter)
    (registry : ModuleRegistry σ) (memory : σ) (ls : Listeners) (steps : List (ProxyStep σ)) :
    let p₀ : Proxy σ γ := setUp c f registry memory ls
    let p := p₀.run steps
    let record := p₀.record steps
    (∀ j ctx callback processEnds, record[j]? = some (.invokes ctx callback processEnds) →
      (∃ i, Holds record i j ctx callback) ∧
        ∃ k, j = k + 1 ∧ record[k]? = some (.turn ctx processEnds)) ∧
    (∀ i j j', InvokedAt record i j → InvokedAt record i j' → j = j') ∧
    (∀ i i' ctx callback callback', i < i' → record[i]? = some (.registers ctx callback) →
      record[i']? = some (.registers ctx callback') →
      (∀ k a processEnds, i < k → k < i' → record[k]? ≠ some (.invokes ctx a processEnds)) →
      ∀ j, ¬ InvokedAt record i j) ∧
    (∀ ctx, .initEnds ctx false ∈ record →
      ∀ callback processEnds, .invokes ctx callback processEnds ∉ record) ∧
    (∀ i k ctx callback processEnds, record[k]? = some (.turn ctx processEnds) →
      Holds record i k ctx callback →
      record[k + 1]? = some (.invokes ctx callback processEnds)) ∧
    (∀ ctx callback, (∃ i, Holds record i record.length ctx callback) ↔
      (p.engine.context? ctx).bind (·.2.shutdown) = some callback) ∧
    (∀ n s, p.engine.session? n = some s →
      s.contexts.map (·.module) = registry.names ∧
        (record.filterMap (ended? n)).map Prod.fst = List.range registry.modules.length ∧
        s.modules = Engine.finished (record.filterMap (ended? n))) ∧
    ∀ s, (p.stepActivity s).filterMap turn? = p.turns s ∧
      ∀ ctx callback processEnds, .invokes ctx callback processEnds ∈ p.stepActivity s →
        (processEnds = false ∧
          ∃ key, s.login? c f = some key ∧ p.session? key = some ctx.session) ∨
        processEnds = true ∧ (∃ rank, s = .traffic (.shutdown rank)) ∧
          ∃ key, (key, ctx.session) ∈ p.table := by
  intro p₀ p record
  have horderly : Orderly (fun _ => none) record p.engine.slots :=
    setUp_orderly (γ := γ) c f registry memory ls steps
  have hlined : Lined p record := (Lined.setUp c f registry memory ls).run steps
  have hsettings : p.settings = (c, f, registry) := settings_run p₀ steps
  obtain ⟨hc, hf, hregistry⟩ : p.config = c ∧ p.filter = f ∧ p.registry = registry := by
    simpa [settings] using hsettings
  have hinvoked : ∀ j ctx callback processEnds,
      record[j]? = some (.invokes ctx callback processEnds) →
        (∃ i, Holds record i j ctx callback) ∧
          ∃ k, j = k + 1 ∧ record[k]? = some (.turn ctx processEnds) := by
    intro j ctx callback processEnds hj
    obtain ⟨hturn, hheld⟩ := horderly.held_of_invokes hj
    exact ⟨holds_of_held hheld, hturn⟩
  refine ⟨hinvoked, fun i j j' => InvokedAt.unique, ?_, ?_, ?_, ?_, ?_,
    fun s => ⟨turns_step p s, ?_⟩⟩
  · intro i i' ctx callback callback' hlt h h' hnone j
    exact InvokedAt.not_of_replaced hlt h h' hnone j
  · intro ctx hfailed callback processEnds hmem
    obtain ⟨j, hj⟩ := List.mem_iff_getElem?.1 hmem
    obtain ⟨-, k, -, hturn⟩ := hinvoked j ctx callback processEnds hj
    refine hlined.not_turn hfailed processEnds ?_
    exact List.mem_filterMap.2 ⟨_, List.mem_of_getElem? hturn, rfl⟩
  · intro i k ctx callback processEnds hturn hheld
    exact horderly.invokes_of_turn hturn (Or.inl ⟨i, hheld⟩)
  · intro ctx callback
    exact ⟨fun hheld => horderly.slot_iff_held.2 (Or.inl hheld),
      fun hslot => holds_of_held (horderly.slot_iff_held.1 hslot)⟩
  · intro n s hs
    have hlineup : p.engine.lineups[n]? = some (s.contexts.map (·.module), s.modules) := by
      rw [Engine.getElem?_lineups, hs]
      rfl
    obtain ⟨hnames, hfinished, hindices⟩ := hlined.lineup n _ _ hlineup
    rw [hregistry] at hnames hindices
    exact ⟨hnames, hindices, hfinished⟩
  · intro ctx callback processEnds hmem
    obtain ⟨j, hj⟩ := List.mem_iff_getElem?.1 hmem
    obtain ⟨⟨k, -, hturn⟩, -⟩ := (p.step_orderly s).held_of_invokes hj
    have hturns : (ctx, processEnds) ∈ p.turns s := by
      rw [← turns_step]
      exact List.mem_filterMap.2 ⟨_, List.mem_of_getElem? hturn, rfl⟩
    rw [← hc, ← hf]
    exact turns_cases hturns

/-- A module registers a callback that would fail and puts another one in its place. When its user
logs in again, the second callback is invoked, and the first one never. -/
theorem run_invokes_replacing_callback :
    let c : EngineConfig := {}
    let f : HostFilter :=
      { deny := none, gameHost := .group 1 .empty, config := { regions := [("", "GL")] } }
    let module : ModuleDescriptor Unit :=
      ⟨"m", fun ctx => .onShutdown ctx (fun _ => .fail .untyped)
        (.onShutdown ctx (fun _ => .finish .empty) (.finish .empty))⟩
    let login : ProxyStep Unit := .traffic (.request "x"
      { host := "h", path := "/account/login", body := "\x7b\"uid\":7\x7d".toUTF8 })
    let record := (setUp c f { modules := [module] } () [] : Proxy Unit Unit).record
      [login, login, .traffic (.shutdown fun _ => 0)]
    record[5]? = some (.invokes ⟨0, 0⟩ (fun _ => .finish .empty) false) ∧
      (∃ i, Holds record i 5 ⟨0, 0⟩ fun _ => .finish .empty) ∧ ∀ j, ¬ InvokedAt record 1 j := by
  intro c f module login record
  obtain ⟨hinvoked, -, hreplaced, -⟩ := @run_invokes_callbacks_held Unit Unit c f
    { modules := [module] } () [] [login, login, .traffic (.shutdown fun _ => 0)]
  have hrecord : record[1]? = some (.registers ⟨0, 0⟩ fun _ => .fail .untyped) ∧
      record[2]? = some (.registers ⟨0, 0⟩ fun _ => .finish .empty) ∧
      record[5]? = some (.invokes ⟨0, 0⟩ (fun _ => .finish .empty) false) := by
    simp only [record, login, module, f, c]
    refine ⟨?_, ?_, ?_⟩ <;> cbv
  obtain ⟨hfirst, hsecond, hinvokes⟩ := hrecord
  exact ⟨hinvokes, (hinvoked 5 _ _ _ hinvokes).1,
    hreplaced 1 2 _ _ _ (by decide) hfirst hsecond fun k _ _ hk hk' => by omega⟩

end Proxy

end Intercept
