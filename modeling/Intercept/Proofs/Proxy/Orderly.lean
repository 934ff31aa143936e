import Intercept.Proofs.Proxy.Swap

/-!
# Requests and callbacks in order

The request that holds the entry of an identity is one that logs in as this identity, and there it
stays until it lets go of the entry. A callback that has begun is running until it ends. Both are
kept by every step, whatever is known of sessions (`Orderly`).
-/

namespace Intercept

variable {σ γ : Type}

/-- What stands in a list to which one element was added, and where. -/
lemma getElem?_concat {α : Type} {l : List α} {a x : α} {p : Nat} (h : (l ++ [a])[p]? = some x) :
    (p < l.length ∧ l[p]? = some x) ∨ (p = l.length ∧ a = x) := by
  rcases Nat.lt_or_ge p l.length with hlt | hge
  · exact Or.inl ⟨hlt, (List.getElem?_append_left hlt).symm.trans h⟩
  · have hp : p < (l ++ [a]).length := (List.getElem?_eq_some_iff.1 h).1
    rw [List.length_append, List.length_singleton] at hp
    obtain rfl : p = l.length := by omega
    exact Or.inr ⟨rfl, Option.some.inj (List.getElem?_concat_length.symm.trans h)⟩

/-- The context whose callback a login is running. -/
def LoginPhase.running? : LoginPhase σ → Option (Nat × Nat)
  | closing (some m) _ (some (i, _)) => some (m, i)
  | _ => none

/-- A login that runs callbacks is about the session that they are of. -/
lemma LoginPhase.session?_of_running {phase : LoginPhase σ} {m i : Nat}
    (h : phase.running? = some (m, i)) : phase.session? = some m := by
  unfold running? at h
  split at h
  · obtain ⟨rfl, -⟩ := Prod.mk.inj (Option.some.inj h)
    rfl
  · contradiction

namespace SwapSystem

variable {w w' : SwapSystem σ γ} {key : SessionKey} {k : Nat}

/-- A request after one has come further. -/
lemma getElem?_goto {phase : RequestPhase} {j : Nat} {t : RequestTask}
    (h : (w.goto k phase).tasks[j]? = some t) :
    (j ≠ k ∧ w.tasks[j]? = some t) ∨
      (j = k ∧ ∃ u, w.tasks[k]? = some u ∧ t = { u with phase }) := by
  by_cases hj : k = j
  · subst hj
    obtain ⟨u, hu, rfl⟩ := Option.map_eq_some_iff.1 ((List.getElem?_modify_eq _ _ _).symm.trans h)
    exact Or.inr ⟨rfl, u, hu, rfl⟩
  · exact Or.inl ⟨fun heq => hj heq.symm, (List.getElem?_modify_ne _ _ hj).symm.trans h⟩

/-- The request that has come further. -/
lemma getElem?_goto_self {phase : RequestPhase} {t : RequestTask} (h : w.tasks[k]? = some t) :
    (w.goto k phase).tasks[k]? = some { t with phase } := by
  change (w.tasks.modify k fun t => { t with phase })[k]? = _
  rw [List.getElem?_modify_eq, h]
  rfl

/-- The other requests. -/
lemma getElem?_goto_of_ne {phase : RequestPhase} {j : Nat} (hne : j ≠ k) :
    (w.goto k phase).tasks[j]? = w.tasks[j]? :=
  List.getElem?_modify_ne _ _ fun heq => hne heq.symm

/-! ### What lasts -/

/-- The settings of the proxy stay the same. -/
lemma settings_step (hstep : Step w w') : w'.proxy.settings = w.proxy.settings := by
  cases hstep with
  | pass htask hdest =>
    obtain ⟨signals, hproxy⟩ := w.proxy.processRequest_of_nowhere hdest
    rw [hproxy]
    rfl
  | miss htask hdest hfree hsession =>
    obtain ⟨signals, hproxy⟩ := Proxy.processRequest_of_absent hdest hsession
    rw [hproxy]
    rfl
  | _ => rfl

/-- The settings of the proxy stay the same over all steps. -/
lemma settings_steps (hsteps : Steps w w') : w'.proxy.settings = w.proxy.settings := by
  induction hsteps with
  | refl => rfl
  | tail _ hstep ih => exact (settings_step hstep).trans ih

/-- Where requests belong is a matter of the settings. -/
lemma destination_congr (h : w'.proxy.settings = w.proxy.settings) :
    w'.destination = w.destination := by
  obtain ⟨hconfig, hrest⟩ := Prod.mk.inj h
  obtain ⟨hfilter, -⟩ := Prod.mk.inj hrest
  funext r
  rw [destination, destination, hconfig, hfilter]

/-- An identity that has a session keeps having one. -/
lemma session?_step (hstep : Step w w') (h : w.proxy.session? key ≠ none) :
    w'.proxy.session? key ≠ none := by
  cases hstep with
  | pass htask hdest =>
    obtain ⟨signals, hproxy⟩ := w.proxy.processRequest_of_nowhere hdest
    rw [hproxy]
    exact h
  | miss htask hdest hfree hsession =>
    obtain ⟨signals, hproxy⟩ := Proxy.processRequest_of_absent hdest hsession
    rw [hproxy]
    exact h
  | @insert key' k n hlogin =>
    change (w.proxy.setSession key' n).session? key ≠ none
    rw [Proxy.session?_setSession]
    split
    · exact Option.some_ne_none n
    · exact h
  | _ => exact h

/-! ### Requests and callbacks in order -/

/-- What is known of requests that log in, and of callbacks that run. -/
structure Orderly (w : SwapSystem σ γ) : Prop where
  /-- Who holds the entry of an identity logs in as this identity. -/
  inside : ∀ key k phase, w.logins key = some ⟨k, phase⟩ →
    ∃ r, w.tasks[k]? = some ⟨r, .inside⟩ ∧ w.destination r = .login key
  /-- A callback that has begun is running until it ends. -/
  running : ∀ p m i : Nat, w.log[p]? = some (.callbackBegins m i) →
    (∃ q, p < q ∧ w.log[q]? = some (.turnEnds m i)) ∨
      ∃ key login, w.logins key = some login ∧ login.phase.running? = some (m, i)

namespace Orderly

/-- Another state of a proxy of the same settings. -/
lemma withProxy (h : Orderly w) {p : Proxy σ γ} (hsettings : p.settings = w.proxy.settings) :
    Orderly { w with proxy := p } := by
  refine ⟨?_, h.running⟩
  have hdest : ({ w with proxy := p } : SwapSystem σ γ).destination = w.destination :=
    destination_congr hsettings
  rw [hdest]
  exact h.inside

/-- A request goes further that does not hold an entry. -/
lemma goto (h : Orderly w) {r : Request} {phase : RequestPhase}
    (htask : w.tasks[k]? = some ⟨r, phase⟩) (hphase : phase ≠ .inside) (phase' : RequestPhase) :
    Orderly (w.goto k phase') := by
  refine ⟨fun key j phase'' hlogin => ?_, h.running⟩
  obtain ⟨r', htask', hdest⟩ := h.inside key j phase'' hlogin
  have hne : j ≠ k := by
    rintro rfl
    obtain ⟨-, heq⟩ := RequestTask.mk.inj (Option.some.inj (htask.symm.trans htask'))
    exact hphase heq
  exact ⟨r', (getElem?_goto_of_ne hne).trans htask', hdest⟩

/-- A login goes further. -/
lemma hold (h : Orderly w) {phase phase' : LoginPhase σ} {e : Engine σ}
    (hlogin : w.logins key = some ⟨k, phase⟩) (event : Option SwapEvent)
    (hruns : ∀ m i, phase.running? = some (m, i) →
      phase'.running? = some (m, i) ∨ event = some (.turnEnds m i))
    (hevent : ∀ m i, event = some (.callbackBegins m i) → phase'.running? = some (m, i)) :
    Orderly (w.hold key k phase' e event) := by
  have hself : ∀ m i, phase'.running? = some (m, i) → ∃ key' login,
      (w.hold key k phase' e event).logins key' = some login ∧
        login.phase.running? = some (m, i) :=
    fun m i hm => ⟨key, _, logins_hold_self w key k phase' e event, hm⟩
  refine ⟨fun key' j phase'' hlogin' => ?_, fun p m i hp => ?_⟩
  · by_cases hkey : key' = key
    · subst hkey
      rw [logins_hold_self] at hlogin'
      obtain ⟨rfl, -⟩ := Login.mk.inj (Option.some.inj hlogin')
      exact h.inside key' k phase hlogin
    · rw [logins_hold_of_ne w hkey] at hlogin'
      exact h.inside key' j phase'' hlogin'
  · rcases Nat.lt_or_ge p w.log.length with hlt | hge
    · have hold : w.log[p]? = some (.callbackBegins m i) :=
        (List.getElem?_append_left hlt).symm.trans hp
      rcases h.running p m i hold with ⟨q, hpq, hq⟩ | ⟨key', login, hlogin', hrun⟩
      · have hlt' : q < w.log.length := (List.getElem?_eq_some_iff.1 hq).1
        exact Or.inl ⟨q, hpq, (List.getElem?_append_left hlt').trans hq⟩
      · by_cases hkey : key' = key
        · subst hkey
          obtain rfl : login = ⟨k, phase⟩ := Option.some.inj (hlogin'.symm.trans hlogin)
          rcases hruns m i hrun with hgoes | rfl
          · exact Or.inr (hself m i hgoes)
          · exact Or.inl ⟨w.log.length, hlt, List.getElem?_concat_length⟩
        · exact Or.inr ⟨key', login, (logins_hold_of_ne w hkey _ _ _ _).trans hlogin', hrun⟩
    · have hmem : .callbackBegins m i ∈ event.toList :=
        List.mem_of_getElem? ((List.getElem?_append_right hge).symm.trans hp)
      exact Or.inr (hself m i (hevent m i (Option.mem_toList.1 hmem)))

/-- A login takes the entry of its identity. -/
lemma acquire (h : Orderly w) {r : Request} (htask : w.tasks[k]? = some ⟨r, .waiting⟩)
    (hdest : w.destination r = .login key) (hfree : w.logins key = none) (phase : LoginPhase σ) :
    Orderly ((w.hold key k phase w.proxy.engine none).goto k .inside) := by
  refine ⟨fun key' j phase' hlogin => ?_, fun p m i hp => ?_⟩
  · by_cases hkey : key' = key
    · subst hkey
      have hheld := (logins_hold_self w key' k phase w.proxy.engine none).symm.trans hlogin
      obtain ⟨rfl, -⟩ := Login.mk.inj (Option.some.inj hheld)
      exact ⟨r, getElem?_goto_self (w := w) htask, hdest⟩
    · have hheld := (logins_hold_of_ne w hkey k phase w.proxy.engine none).symm.trans hlogin
      obtain ⟨r', htask', hdest'⟩ := h.inside key' j phase' hheld
      have hne : j ≠ k := by
        rintro rfl
        obtain ⟨-, heq⟩ := RequestTask.mk.inj (Option.some.inj (htask.symm.trans htask'))
        contradiction
      exact ⟨r', (getElem?_goto_of_ne (w := w) hne).trans htask', hdest'⟩
  · have hold : w.log[p]? = some (.callbackBegins m i) := by
      change (w.log ++ [])[p]? = _ at hp
      rwa [List.append_nil] at hp
    rcases h.running p m i hold with hended | ⟨key', login, hlogin, hrun⟩
    · obtain ⟨q, hpq, hq⟩ := hended
      exact Or.inl ⟨q, hpq, (congrArg (·[q]?) (List.append_nil w.log)).trans hq⟩
    · have hkey : key' ≠ key := by
        rintro rfl
        rw [hfree] at hlogin
        contradiction
      exact Or.inr ⟨key', login, (Function.update_of_ne hkey _ _).trans hlogin, hrun⟩

/-- A login lets go of the entry. -/
lemma release (h : Orderly w) {n : Nat} (hlogin : w.logins key = some ⟨k, .entered n⟩) :
    Orderly { w.goto k (.handed n) with logins := Function.update w.logins key none } := by
  obtain ⟨r, htask, hdest⟩ := h.inside key k _ hlogin
  have hother {key' : SessionKey} {login : Login σ}
      (h : Function.update w.logins key none key' = some login) :
      key' ≠ key ∧ w.logins key' = some login := by
    by_cases hkey : key' = key
    · subst hkey
      rw [Function.update_self] at h
      contradiction
    · exact ⟨hkey, (Function.update_of_ne hkey _ _).symm.trans h⟩
  refine ⟨fun key' j phase' hlogin' => ?_, fun p m i hp => ?_⟩
  · obtain ⟨hkey, hheld⟩ := hother hlogin'
    obtain ⟨r', htask', hdest'⟩ := h.inside key' j phase' hheld
    have hne : j ≠ k := by
      rintro rfl
      obtain ⟨rfl, -⟩ := RequestTask.mk.inj (Option.some.inj (htask.symm.trans htask'))
      exact hkey (Destination.login.inj (hdest'.symm.trans hdest))
    exact ⟨r', (getElem?_goto_of_ne (w := w) hne).trans htask', hdest'⟩
  · rcases h.running p m i hp with hended | ⟨key', login, hlogin', hrun⟩
    · exact Or.inl hended
    · have hkey : key' ≠ key := by
        rintro rfl
        obtain rfl : login = _ := Option.some.inj (hlogin'.symm.trans hlogin)
        contradiction
      exact Or.inr ⟨key', login, (Function.update_of_ne hkey _ _).trans hlogin', hrun⟩

/-- Every step keeps requests and callbacks in order. -/
theorem step (h : Orderly w) (hstep : Step w w') : Orderly w' := by
  have hsettings := settings_step hstep
  cases hstep with
  | call r =>
    refine ⟨fun key k phase hlogin => ?_, h.running⟩
    obtain ⟨r', htask, hdest⟩ := h.inside key k phase hlogin
    have hlt : k < w.tasks.length := (List.getElem?_eq_some_iff.1 htask).1
    exact ⟨r', (List.getElem?_append_left hlt).trans htask, hdest⟩
  | pass htask hdest =>
    exact (h.goto htask (fun h => by contradiction) (.answered none)).withProxy hsettings
  | find htask hdest hfree hsession => exact h.goto htask (fun h => by contradiction) _
  | miss htask hdest hfree hsession =>
    exact (h.goto htask (fun h => by contradiction) (.answered none)).withProxy hsettings
  | acquire htask hdest hfree => exact h.acquire htask hdest hfree _
  | release hlogin => exact h.release hlogin
  | finish htask => exact h.goto htask (fun h => by contradiction) _
  | drop n hunused => exact h.withProxy hsettings
  | elsewhere x => exact h.withProxy hsettings
  | @insert key k n hlogin =>
    have hheld : Orderly (w.hold key k (.entered n) w.proxy.engine none) :=
      h.hold hlogin none (fun _ _ hrun => by contradiction) fun _ _ hevent => by contradiction
    exact hheld.withProxy hsettings
  | skip hlogin hslot =>
    exact h.hold hlogin _ (fun _ _ hrun => by contradiction) fun _ _ hevent => by cases hevent
  | callbackBegins hlogin hctx hcallback =>
    refine h.hold hlogin _ (fun _ _ hrun => by contradiction) fun _ _ hevent => ?_
    cases hevent
    rfl
  | @callbackRuns key k i old todo module p hlogin hruns =>
    refine h.hold hlogin none (fun _ _ hrun => Or.inl ?_) fun _ _ hevent => by
      contradiction
    cases old with
    | none => contradiction
    | some m => exact hrun
  | callbackEnds hlogin hend =>
    refine h.hold hlogin _ (fun _ _ hrun => Or.inr ?_) fun _ _ hevent => by cases hevent
    cases hrun
    rfl
  | @start key k old hlogin =>
    refine h.hold hlogin _ (fun _ _ hrun => ?_) fun _ _ hevent => ?_
    · cases old <;> contradiction
    · cases old <;> cases hevent
  | initBegins hlogin =>
    exact h.hold hlogin _ (fun _ _ hrun => by contradiction) fun _ _ hevent => by cases hevent
  | initRuns hlogin hruns =>
    exact h.hold hlogin none (fun _ _ hrun => by contradiction) fun _ _ hevent => by
      contradiction
  | initEnds hlogin hend =>
    exact h.hold hlogin none (fun _ _ hrun => by contradiction) fun _ _ hevent => by
      contradiction
  | sort hlogin =>
    exact h.hold hlogin none (fun _ _ hrun => by contradiction) fun _ _ hevent => by
      contradiction

/-- Requests and callbacks are in order from the start, and over all steps. -/
theorem of_steps {c : EngineConfig} {f : HostFilter} {registry : ModuleRegistry σ} {memory : σ}
    {ls : Listeners} (h : Steps { proxy := Proxy.setUp c f registry memory ls } w) : Orderly w := by
  induction h with
  | refl =>
    refine ⟨fun key k phase h => ?_, fun p m i h => ?_⟩ <;> contradiction
  | tail _ hstep ih => exact ih.step hstep

end Orderly

end SwapSystem

end Intercept
